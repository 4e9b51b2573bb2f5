import NamedSql.Number.Binary64

/-!
# Decimal digits of binary numbers

The decimal digits by which a binary number is written: the fewest digits that read back as the
number. Which of two equally near decimals is taken, and how the digits are laid out, is left to the
format, which is a value of `NumberStyle`.

## Main definitions

* `Decimal` — digits and a power of ten
* `shortest` — the fewest digits that read back, and the nearest of those
* `NumberStyle`, `NumberStyle.layout` — how digits become text
-/

namespace NamedSql

/-- The number `digits * 10 ^ exponent`, which is not unique: trailing zeros of the digits may be in
the exponent. -/
structure Decimal where
  digits : Nat
  exponent : Int
deriving DecidableEq, Repr

/-- Which of two equally near decimals is taken, when the shortest ones that read back are sought.
-/
inductive Tie where
  | toEven
  | awayFromZero
deriving DecidableEq, Repr

namespace Decimal

/-- The digits of a natural number, the highest first. -/
def digitChars (n : Nat) : List Char := Nat.toDigits 10 n

/-- The decimal without zeros at the end of its digits. The first argument bounds the number of
zeros looked for. -/
def stripZeros : Nat → Decimal → Decimal
  | 0, d => d
  | n + 1, d =>
    if d.digits ≠ 0 ∧ d.digits % 10 = 0 then stripZeros n ⟨d.digits / 10, d.exponent + 1⟩ else d

/-- Compares `a * 10 ^ i` with `b * 2 ^ j`. -/
def compareBinary (a : Nat) (i : Int) (b : Nat) (j : Int) : Ordering :=
  compare ((a * Nat.pow 10 i.toNat) <<< (-j).toNat) (b <<< j.toNat * Nat.pow 10 (-i).toNat)

/-- The least power of ten above the positive number `m * 2 ^ q`, which tells how many digits stand
before its point. -/
def leastAbove (m : Nat) (q : Int) : Int :=
  let num := m <<< q.toNat
  let den := 1 <<< (-q).toNat
  if den ≤ num then ((digitChars (num / den)).length : Int)
  else
    let k := 1 - ((digitChars (den / num)).length : Int)
    if compareBinary 1 k m q == .gt then k else k + 1

/-- The largest multiple of `10 ^ e` that is not above `m * 2 ^ q`, as the factor. -/
def floorAt (m : Nat) (q : Int) (e : Int) : Nat :=
  m <<< q.toNat * Nat.pow 10 (-e).toNat / (1 <<< (-q).toNat * Nat.pow 10 e.toNat)

/-- Whether a decimal lies among the reals that round to the positive number `x`. Those are the
ones nearer to `x` than to its neighbours, with the two ends if the significand is even. -/
def readsBackAs (d : Decimal) (x : Binary64) : Bool :=
  let m := x.significand
  let narrow := x.fraction == 0 && 1 < x.exponentField
  let lowest := if narrow then 4 * m - 1 else 4 * m - 2
  let low := compareBinary d.digits d.exponent lowest (x.scale - 2)
  let high := compareBinary d.digits d.exponent (4 * m + 2) (x.scale - 2)
  let ends := m % 2 == 0
  (low == .gt || (ends && low == .eq)) && (high == .lt || (ends && high == .eq))

/-- Of the multiples of `10 ^ e` next to the positive number `x`, the nearest that reads back. -/
def nearestAt (tie : Tie) (x : Binary64) (e : Int) : Option Decimal :=
  let below := floorAt x.significand x.scale e
  let lower : Decimal := ⟨below, e⟩
  let upper : Decimal := ⟨below + 1, e⟩
  match lower.readsBackAs x, upper.readsBackAs x with
  | false, false => none
  | true, false => some lower
  | false, true => some upper
  | true, true =>
    match compareBinary (2 * below + 1) e (2 * x.significand) x.scale with
    | .gt => some lower
    | .lt => some upper
    | .eq =>
      match tie with
      | .toEven => some (if below % 2 = 0 then lower else upper)
      | .awayFromZero => some upper

/-- Tries `n` digits, then one more, and so on; the last argument bounds the tries. -/
def shortestFrom (tie : Tie) (x : Binary64) (above : Int) (n : Nat) : Nat → Decimal
  | 0 => ⟨floorAt x.significand x.scale (above - n), above - n⟩
  | tries + 1 =>
    match nearestAt tie x (above - n) with
    | some d => d
    | none => shortestFrom tie x above (n + 1) tries

/-- The fewest digits that read back as the magnitude of a finite number, and of those the
nearest. Zero is written with one digit. -/
def shortest (tie : Tie) (x : Binary64) : Decimal :=
  if x.significand = 0 then ⟨0, 0⟩
  else stripZeros 20 (shortestFrom tie x (leastAbove x.significand x.scale) 1 17)

end Decimal

/-! ### Layout -/

/-- How a finite number is laid out. The styles differ in when they use an exponent and in how they
write it. -/
structure NumberStyle where
  /-- Numbers whose leading digit has at least this power of ten are written positionally. -/
  plainFrom : Int
  /-- Numbers whose leading digit has this power of ten or more are not. -/
  plainBelow : Int
  /-- Whether a lone digit before the exponent is followed by a point and a zero. -/
  pointed : Bool
  /-- Whether a positive exponent has a sign. -/
  signed : Bool
  /-- The least number of digits in the exponent. -/
  exponentWidth : Nat
deriving Repr

namespace NumberStyle

/-- Digits with a point: `point` digits stand before it, zeros filling the gaps. -/
def positional (digits : List Char) (point : Int) : List Char :=
  if point ≤ 0 then '0' :: '.' :: (List.replicate (-point).toNat '0' ++ digits)
  else if point < digits.length then
    digits.take point.toNat ++ '.' :: digits.drop point.toNat
  else digits ++ List.replicate (point - digits.length).toNat '0' ++ ['.', '0']

/-- Digits with an exponent; the point stands behind the first digit. -/
def scientific (style : NumberStyle) (digits : List Char) (exponent : Int) : List Char :=
  let mantissa :=
    match digits with
    | [] => []
    | [d] => if style.pointed then [d, '.', '0'] else [d]
    | d :: rest => d :: '.' :: rest
  let power := Decimal.digitChars exponent.natAbs
  let power := List.replicate (style.exponentWidth - power.length) '0' ++ power
  let sign := if exponent < 0 then ['-'] else if style.signed then ['+'] else []
  mantissa ++ 'e' :: (sign ++ power)

/-- The text of a decimal that is not negative. -/
def layout (style : NumberStyle) (d : Decimal) : List Char :=
  let digits := Decimal.digitChars d.digits
  let point := d.exponent + digits.length
  if d.digits = 0 then ['0', '.', '0']
  else if style.plainFrom ≤ point - 1 ∧ point - 1 < style.plainBelow then positional digits point
  else style.scientific digits (point - 1)

end NumberStyle

end NamedSql
