import NamedSql.Number.Binary64

/-!
# Extended binary numbers

Numbers that are not negative, with significands of sixty-four bits and exponents without a bound.
A computation in several steps that is carried out in them loses less than one in `Binary64`: every
step is rounded to sixty-four bits, and only its outcome to fifty-three.

## Scope

The significand of a number may have zeros at its end, so one number has several forms. Rounding
goes to the nearest number, and from halfway to the one with an even significand.

## Main definitions

* `Extended` — a significand and a power of two
* `Extended.add`, `Extended.mul`, `Extended.div` — arithmetic, each step rounded
* `Extended.powerOfTen` — powers of ten by repeated squaring
* `Extended.toBinary64` — the nearest number of fifty-three bits

## Main results

* `Extended.halfEven_eq_shiftRight` — nothing is rounded where nothing is lost
* `Extended.halfEven_le`, `Extended.le_halfEven` — rounding moves by half a unit at most
-/

namespace NamedSql

/-- The number `significand * 2 ^ scale`, with more bits than a number of 64 bits has. Numerals are
read through such numbers. -/
structure Extended where
  significand : Nat
  scale : Int
deriving DecidableEq, Repr, Inhabited

namespace Extended

/-! ### Rounding -/

/-- The integer nearest to `m / 2 ^ n`, and the even one from halfway. -/
def halfEven (m n : Nat) : Nat :=
  let q := m >>> n
  match compare (2 * (m % 1 <<< n)) (1 <<< n) with
  | .lt => q
  | .eq => q + q % 2
  | .gt => q + 1

theorem shiftRight_eq_div (m n : Nat) : m >>> n = m / 1 <<< n := by
  rw [Nat.shiftRight_eq_div_pow, Nat.one_shiftLeft]

theorem shiftLeft_eq_mul (m n : Nat) : m <<< n = m * 1 <<< n := by
  rw [Nat.shiftLeft_eq, Nat.one_shiftLeft]

theorem one_shiftLeft_pos (n : Nat) : 0 < 1 <<< n := by
  rw [Nat.one_shiftLeft]
  exact Nat.two_pow_pos n

theorem halfEven_eq_shiftRight {m n : Nat} (h : m % 1 <<< n = 0) : halfEven m n = m >>> n := by
  have hc : compare 0 (1 <<< n) = .lt := Nat.compare_eq_lt.2 (one_shiftLeft_pos n)
  simp [halfEven, h, hc]

theorem halfEven_le (m n : Nat) : 2 * halfEven m n <<< n ≤ 2 * m + 1 <<< n := by
  rw [shiftLeft_eq_mul, halfEven, shiftRight_eq_div]
  generalize 1 <<< n = p
  have hd := Nat.div_add_mod m p
  have hq : (m / p + 1) * p = p * (m / p) + p := by
    rw [Nat.add_mul, Nat.one_mul, Nat.mul_comm]
  have h0 : m / p * p = p * (m / p) := Nat.mul_comm ..
  split
  · omega
  · rename_i h
    have h := Nat.compare_eq_eq.1 h
    rcases Nat.mod_two_eq_zero_or_one (m / p) with e | e
    · rw [e, Nat.add_zero]; omega
    · rw [e]; omega
  · rename_i h
    have h := Nat.compare_eq_gt.1 h
    omega

theorem le_halfEven (m n : Nat) : 2 * m ≤ 2 * halfEven m n <<< n + 1 <<< n := by
  have hm := Nat.mod_lt m (one_shiftLeft_pos n)
  rw [shiftLeft_eq_mul, halfEven, shiftRight_eq_div]
  generalize 1 <<< n = p at hm ⊢
  have hd := Nat.div_add_mod m p
  have hq : (m / p + 1) * p = p * (m / p) + p := by
    rw [Nat.add_mul, Nat.one_mul, Nat.mul_comm]
  have h0 : m / p * p = p * (m / p) := Nat.mul_comm ..
  split
  · rename_i h
    have h := Nat.compare_eq_lt.1 h
    omega
  · rename_i h
    have h := Nat.compare_eq_eq.1 h
    rcases Nat.mod_two_eq_zero_or_one (m / p) with e | e
    · rw [e, Nat.add_zero]; omega
    · rw [e]; omega
  · omega

/-- The number of bits of a significand, to which sums and products are rounded. -/
def precision : Nat := 64

/-- The extended number nearest to `m * 2 ^ q`; of two that are equally near the one with an even
significand. -/
def round (m : Nat) (q : Int) : Extended :=
  let extra := m.log2 + 1 - precision
  ⟨halfEven m extra, q + extra⟩

/-! ### Conversion -/

/-- An integer as an extended number, rounded if it has too many bits. -/
def ofNat (n : Nat) : Extended := round n 0

/-- The magnitude of a finite number, which loses nothing here. -/
def ofBinary64 (x : Binary64) : Extended := ⟨x.significand, x.scale⟩

/-- The number of fifty-three bits nearest to an extended number, or an infinity. Bits below
`2 ^ (-1074)` are not kept. -/
def toBinary64 (a : Extended) : Binary64 :=
  if a.significand = 0 then ⟨0⟩
  else
    let unit := max (a.scale + a.significand.log2 - 52) (-1074)
    let kept := halfEven (a.significand <<< (a.scale - unit).toNat) (unit - a.scale).toNat
    ⟨UInt64.ofNat (min ((unit + 1074).toNat <<< 52 + kept) (2047 <<< 52))⟩

/-! ### Arithmetic -/

/-- The sum, rounded to the bits that there are. -/
def add (a b : Extended) : Extended :=
  let e := min a.scale b.scale
  round (a.significand <<< (a.scale - e).toNat + b.significand <<< (b.scale - e).toNat) e

/-- The product, rounded to the bits that there are. -/
def mul (a b : Extended) : Extended := round (a.significand * b.significand) (a.scale + b.scale)

/-- The quotient. It is first taken to more bits than are kept, of which the last one tells whether
there is a remainder, so that rounding it comes to the same as rounding the exact quotient. -/
def div (a b : Extended) : Extended :=
  let shift := precision + 2 + b.significand.log2 - a.significand.log2
  let n := a.significand <<< shift
  let rest := if n % b.significand = 0 then 0 else 1
  round (2 * (n / b.significand) + rest) (a.scale - b.scale - shift - 1)

/-- Whether a number is not greater than another one, compared exactly. -/
def ble (a b : Extended) : Bool :=
  Binary64.compareScaled a.significand a.scale b.significand b.scale != .gt

/-- The greatest integer that is not above the number, which is never negative. -/
def floor (a : Extended) : Nat := a.significand <<< a.scale.toNat >>> (-a.scale).toNat

/-- The number less its greatest integer, with which its digits behind the point are found. -/
def fraction (a : Extended) : Extended :=
  ⟨a.significand % 1 <<< (-a.scale).toNat, a.scale⟩

/-- Multiplies by a power, which is made from the squares of its base, with a rounding at every
step. -/
def timesPower (r base : Extended) (n : Nat) : Extended :=
  if h : n = 0 then r
  else timesPower (if n % 2 = 1 then r.mul base else r) (base.mul base) (n / 2)
termination_by n
decreasing_by omega

/-- A power of ten, made by repeated squaring and rounded at each step. -/
def powerOfTen (n : Nat) : Extended := timesPower (ofNat 1) (ofNat 10) n

end Extended

end NamedSql
