/-!
# Binary64 numbers

Floating point numbers of 64 bits, kept as their bits. Equality of two such numbers is equality of
the bits, so it is decidable and tells the two zeros apart; the numeric order is a function of its
own, computed on exact integers.

## Scope

Arithmetic and conversion from an integer are those of `Float`. Everything else is decoded from the
bits, so that it can be reasoned about.

## Main definitions

* `Binary64` — the bits of a number
* `Binary64.significand`, `Binary64.scale` — the magnitude `significand * 2 ^ scale`
* `Binary64.compare?` — the numeric order, which a NaN takes no part in
* `Binary64.toInt?` — the integer that a number is, if it is one
-/

namespace NamedSql

/-- A floating point number of 64 bits. It is its bits, so that what is no number and both zeros are
told apart where equality is that of data. -/
structure Binary64 where
  /-- Sign, exponent and fraction, from the highest bit to the lowest. Any bits stand for something.
  -/
  bits : UInt64
deriving DecidableEq, Repr, Inhabited

namespace Binary64

/-- The number that core's `Float` holds, bit by bit. -/
def ofFloat (x : Float) : Binary64 := ⟨x.toBits⟩

/-- The number as core's `Float`, with which products and quotients are computed. -/
def toFloat (x : Binary64) : Float := Float.ofBits x.bits

/-- The number nearest to an integer; of two that are equally near the even one. -/
def ofInt (n : Int) : Binary64 := ofFloat (Float.ofInt n)

/-- The number nearest to `digits * 10 ^ exponent`. It is an infinity if that is too large. -/
def ofDecimal (digits : Nat) (exponent : Int) : Binary64 :=
  ofFloat (Float.ofScientific digits (exponent < 0) exponent.natAbs)

/-- The number with the other sign, which zero has as well. -/
def neg (x : Binary64) : Binary64 := ⟨x.bits ^^^ 0x8000000000000000⟩

/-- The sum, rounded to nearest. Sums of what is infinite with opposite signs are no number. -/
def add (x y : Binary64) : Binary64 := ofFloat (x.toFloat + y.toFloat)

/-- The product, rounded to the nearest number that there is. -/
def mul (x y : Binary64) : Binary64 := ofFloat (x.toFloat * y.toFloat)

/-- The quotient, rounded to the nearest number that there is. -/
def div (x y : Binary64) : Binary64 := ofFloat (x.toFloat / y.toFloat)

/-- What is greater than every number: the positive infinity. -/
def infinity : Binary64 := ⟨0x7FF0000000000000⟩

/-- Whether the sign bit is set, as it is for one of the two zeros. -/
def isNegative (x : Binary64) : Bool := 1 <<< 63 ≤ x.bits.toNat

/-- The eleven bits of the exponent, as they stand: neither shifted nor signed. -/
def exponentField (x : Binary64) : Nat := x.bits.toNat >>> 52 % 1 <<< 11

/-- The fifty-two bits of the fraction, without the bit in front of them that is not written. -/
def fraction (x : Binary64) : Nat := x.bits.toNat % 1 <<< 52

/-- Whether the number is neither an infinity nor a NaN, and so stands for a number. -/
def isFinite (x : Binary64) : Bool := x.exponentField != 2047

/-- Whether this is not a number. There are many bit patterns for that, which differ nowhere in what
they do. -/
def isNaN (x : Binary64) : Bool := !x.isFinite && x.fraction != 0

/-- The significand of a finite number, as an integer, with the bit that is not written. -/
def significand (x : Binary64) : Nat :=
  if x.exponentField = 0 then x.fraction else 1 <<< 52 + x.fraction

/-- The power of two that the significand of a finite number is multiplied by. -/
def scale (x : Binary64) : Int :=
  if x.exponentField = 0 then -1074 else (x.exponentField : Int) - 1075

/-- The significand of a finite number with its sign. Both zeros have the same one. -/
def signedSignificand (x : Binary64) : Int :=
  if x.isNegative then -(x.significand : Int) else x.significand

/-! ### Order -/

/-- Compares `a * 2 ^ p` with `b * 2 ^ q` exactly, by bringing both to the lower power. -/
def compareScaled (a p b q : Int) : Ordering :=
  let e := min p q
  compare (a <<< (p - e).toNat) (b <<< (q - e).toNat)

/-- The numeric order, which holds between any two numbers but a NaN. It is computed on integers,
without rounding. -/
def compare? (x y : Binary64) : Option Ordering :=
  if x.isNaN || y.isNaN then none
  else if x.isFinite && y.isFinite then
    some (compareScaled x.signedSignificand x.scale y.signedSignificand y.scale)
  else if x.bits == y.bits then some .eq
  else if !x.isFinite then some (if x.isNegative then .lt else .gt)
  else some (if y.isNegative then .gt else .lt)

/-- Numeric equality: the two zeros are equal, and a NaN equals nothing, not even itself. -/
def numEq (x y : Binary64) : Bool := x.compare? y == some .eq

/-- The numeric order between an integer and a number that is not a NaN. -/
def compareInt (n : Int) (y : Binary64) : Ordering :=
  if y.isFinite then compareScaled n 0 y.signedSignificand y.scale
  else if y.isNegative then .gt else .lt

/-- The integer that the number is, if it is one. Zero is one under both signs. -/
def toInt? (x : Binary64) : Option Int :=
  if !x.isFinite then none
  else if 0 ≤ x.scale then some (x.signedSignificand <<< x.scale.toNat)
  else
    let unit : Nat := 1 <<< (-x.scale).toNat
    if x.significand % unit = 0 then some (x.signedSignificand / (unit : Int)) else none

end Binary64

end NamedSql
