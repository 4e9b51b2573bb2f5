import NamedSql.Number.Decimal
import NamedSql.Number.Extended
import NamedSql.Value

/-!
# Numerals

How numbers are read from texts and written as texts. An integer is exact in both directions. A
real is not quite: it is read and written with sixty-four bits of precision, from at most nineteen
of its digits and to fifteen digits, so that the last bit or digit is sometimes not the nearest.

## Main definitions

* `realOfDecimal` — the real that decimal digits are read as
* `leadingNumber`, `numberOfText?` — the number that a text starts with, or that it is
* `leadingDigits`, `realText` — the digits that a real is written with, and its text
-/

namespace NamedSql.Sql

/-! ### Reading reals -/

/-- A significand takes in another digit as long as it is below this. -/
def fullSignificand : Nat := (1 <<< 63 - 10) / 10

/-- The value of a digit, which is taken to be a decimal one. -/
def digitValue (d : Char) : Nat := d.toNat - 48

/-- The number that decimal digits stand for, continuing one. Starting from zero it is their own. -/
def digitsValue (ds : List Char) (n : Nat) : Nat := ds.foldl (fun n d => 10 * n + digitValue d) n

/-- The significand and the exponent after digits in front of the point. Digits that do not fit any
more are counted but not kept. -/
def takeWhole (ds : List Char) : Nat × Int :=
  ds.foldl (fun (s, e) d =>
    if s < fullSignificand then (10 * s + digitValue d, e) else (s, e + 1)) (0, 0)

/-- The significand and the exponent after digits behind the point. Digits that do not fit any more
are left out. -/
def takePlaces (ds : List Char) (start : Nat × Int) : Nat × Int :=
  ds.foldl (fun (s, e) d =>
    if s < fullSignificand then (10 * s + digitValue d, e - 1) else (s, e)) start

/-- The number that the digits of an exponent stand for; more than five digits are not told
apart. -/
def exponentValue (ds : List Char) : Nat :=
  ds.foldl (fun n d => if n < 10000 then 10 * n + digitValue d else 10000) 0

/-- Moves powers of ten from an exponent into a significand as long as there is room. -/
def raise (s : Nat) : Nat → Nat × Nat
  | 0 => (s, 0)
  | e + 1 => if s < (1 <<< 63 - 1) / 10 then raise (10 * s) e else (s, e + 1)

/-- Takes powers of ten out of a significand as long as it has them. -/
def lower (s : Nat) : Nat → Nat × Nat
  | 0 => (s, 0)
  | e + 1 => if s % 10 = 0 then lower (s / 10) e else (s, e + 1)

/-- The real `s * 10 ^ e`, for a significand below `2 ^ 63`. A power of ten beyond `307` is applied
in two steps. -/
def realOfDecimal (s : Nat) (e : Int) : Binary64 :=
  let far : Binary64 := .ofDecimal 1 308
  if s = 0 then ⟨0⟩
  else if 0 ≤ e then
    let (s, n) := raise s e.toNat
    let times (n : Nat) : Binary64 := ((Extended.ofNat s).mul (.powerOfTen n)).toBinary64
    if n = 0 then (Extended.ofNat s).toBinary64
    else if n ≤ 307 then times n
    else if n < 342 then (times (n - 308)).mul far
    else .infinity
  else
    let (s, n) := lower s (-e).toNat
    let quotient (n : Nat) : Binary64 := ((Extended.ofNat s).div (.powerOfTen n)).toBinary64
    if n = 0 then (Extended.ofNat s).toBinary64
    else if n ≤ 307 then quotient n
    else if n < 342 then (quotient (n - 308)).div far
    else ⟨0⟩

/-! ### Reading numbers -/

/-- Whether an integer has sixty-four bits with its sign, as integers in a database do. -/
def inInt64 (n : Int) : Bool := Int64.minValue.toInt ≤ n && n ≤ Int64.maxValue.toInt

/-- The blanks that may surround a number in a text without keeping it from being one. -/
def isNumberBlank (c : Char) : Bool :=
  c == ' ' || c == '\t' || c == '\n' || c == '\x0b' || c == '\x0c' || c == '\r'

/-- The exponent that a text starts with, and the rest. -/
def exponentPart (s : List Char) : Option (Int × List Char) :=
  match s with
  | e :: r =>
    if e == 'e' || e == 'E' then
      let (negative, r) :=
        match r with
        | '-' :: r => (true, r)
        | '+' :: r => (false, r)
        | r => (false, r)
      let digits := r.takeWhile Char.isDigit
      if digits.isEmpty then none
      else
        let n : Int := exponentValue digits
        some (if negative then -n else n, r.dropWhile Char.isDigit)
    else none
  | [] => none

/-- A decimal number whose sign has been read, and the rest of the text. It is an integer if it has
neither a point nor an exponent and is small enough. -/
def unsignedNumber (negative : Bool) (s : List Char) : Option (Value × List Char) :=
  let whole := s.takeWhile Char.isDigit
  let r := s.dropWhile Char.isDigit
  let (pointed, places, r) :=
    match r with
    | '.' :: t => (true, t.takeWhile Char.isDigit, t.dropWhile Char.isDigit)
    | r => (false, [], r)
  if whole.isEmpty && places.isEmpty then none
  else
    let real (exponent : Int) : Value :=
      let (s, e) := takePlaces places (takeWhole whole)
      let x := realOfDecimal s (exponent + e)
      .real (if negative then x.neg else x)
    match exponentPart r with
    | some (exponent, r) => some (real exponent, r)
    | none =>
      let n : Int := digitsValue whole 0
      let n := if negative then -n else n
      some (if !pointed && inInt64 n then .integer (Int64.ofInt n) else real 0, r)

/-- The number that a text starts with, behind blanks and a sign, and the rest without the blanks
in front. -/
def leadingNumber (s : List Char) : Option (Value × List Char) :=
  let s := s.dropWhile isNumberBlank
  let read :=
    match s with
    | '-' :: r => unsignedNumber true r
    | '+' :: r => unsignedNumber false r
    | r => unsignedNumber false r
  read.map fun (v, r) => (v, r.dropWhile isNumberBlank)

/-- The number that a whole text is, if it is one. Nothing but blanks may stand around it. -/
def numberOfText? (s : String) : Option Value :=
  match leadingNumber s.toList with
  | some (v, []) => some v
  | _ => none

/-! ### Writing reals -/

/-- A real has fifteen digits at most; it is positional from `1e-4` up to below `1e15`. -/
def realStyle : NumberStyle where
  plainFrom := -4
  plainBelow := 15
  pointed := true
  signed := true
  exponentWidth := 2

/-- A decimal constant with fifty-three bits, the nearest that there is. -/
def constant (digits : Nat) (exponent : Int) : Binary64 := .ofDecimal digits exponent

/-- What is added before all but fifteen digits are cut off: half a unit of the last one, as a
product of two constants. -/
def halfUnit : Extended := .ofBinary64 ((constant 5 (-5)).mul (constant 1 (-10)))

/-- Multiplies a scale by a power of ten as often as it stays within a number, and adds to its
exponent as often; the last argument bounds the steps. -/
def widen (v power : Extended) (size : Int) : Nat → Extended × Int → Extended × Int
  | 0, s => s
  | n + 1, (scale, e) =>
    let next := scale.mul power
    if next.ble v then widen v power size n (next, e + size) else (scale, e)

/-- Multiplies a number by a power of ten until it reaches a limit, and subtracts from its exponent
as often; the last argument bounds the steps. -/
def lift (limit power : Extended) (size : Int) : Nat → Extended × Int → Extended × Int
  | 0, v => v
  | n + 1, (v, e) =>
    if limit.ble v then (v, e) else lift limit power size n (v.mul power, e - size)

/-- A positive number as one from one up to below ten and a power of ten. -/
def normalised (v : Extended) : Extended × Int :=
  let ten := Extended.ofNat 10
  let one := Extended.ofNat 1
  let (scale, e) := widen v (.ofBinary64 (constant 1 100)) 100 10 (one, 0)
  let (scale, e) := widen v (.ofBinary64 (constant 1 10)) 10 10 (scale, e)
  let (scale, e) := widen v ten 1 10 (scale, e)
  let low := lift (.ofBinary64 (constant 1 (-8))) (.ofBinary64 (constant 1 8)) 8 50 (v.div scale, e)
  lift one ten 1 10 low

/-- The first digits of a number below ten, continuing a number. -/
def cutDigits : Nat → Nat → Extended → Nat
  | 0, n, _ => n
  | count + 1, n, v => cutDigits count (10 * n + v.floor) (v.fraction.mul (.ofNat 10))

/-- The first fifteen digits of the magnitude of a finite number, and where its point stands. -/
def leadingDigits (x : Binary64) : Decimal :=
  if x.significand = 0 then ⟨0, 0⟩
  else
    let (v, e) := normalised (.ofBinary64 x)
    let v := v.add halfUnit
    let (v, e) :=
      if (Extended.ofNat 10).ble v then (v.mul (.ofBinary64 (constant 1 (-1))), e + 1) else (v, e)
    Decimal.stripZeros 15 ⟨cutDigits 15 0 v, e - 14⟩

/-- The text that a real becomes. Both zeros have the same text, and infinities are told by a word.
-/
def realText (x : Binary64) : String :=
  let magnitude :=
    if x.isFinite then String.ofList (realStyle.layout (leadingDigits x)) else "Inf"
  if x.isNegative && !(x.isFinite && x.significand == 0) then "-" ++ magnitude else magnitude

end NamedSql.Sql
