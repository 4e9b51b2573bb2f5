import NamedSql.Sql.Affinity

/-!
# Order of values

Values of different types are ordered by type: nothing comes first, then numbers, then texts, then
runs of bytes. Numbers are compared exactly, whether they are integers or reals; texts by their
code points.

## Main definitions

* `compareValues` — the order
* `addValues`, `subtractValues`, `negateValue`, `joinValues` — arithmetic and concatenation
* `Truth` — the truth value of a condition, which may be unknown

## Main results

* `Truth.and_comm`, `Truth.or_comm`, `Truth.not_not` — the laws of conditions
* `Truth.ofValue_toValue` — a truth value is read back from the value it becomes
-/

namespace NamedSql.Sql

/-- The place of a value's type in the order. Integers and reals share one, since they are compared
as numbers. -/
def typeRank : Value → Nat
  | .null => 0
  | .integer _ | .real _ => 1
  | .text _ => 2
  | .blob _ => 3

/-- The order of values, which puts any two of them in order. It decides comparisons as well as
orderings. -/
def compareValues : Value → Value → Ordering
  | .integer m, .integer n => compare m.toInt n.toInt
  | .integer m, .real y => Binary64.compareInt m.toInt y
  | .real x, .integer n => (Binary64.compareInt n.toInt x).swap
  | .real x, .real y => (x.compare? y).getD .eq
  | .text s, .text t => compare s t
  | .blob s, .blob t => compare (s.map UInt8.toNat) (t.map UInt8.toNat)
  | u, v => compare (typeRank u) (typeRank v)

/-- Whether two values are the same by the order, as an integer and the real of the same number are.
-/
def sameValue (u v : Value) : Bool := compareValues u v == .eq

/-! ### Numbers in expressions -/

/-- The number that a value counts as: the one that its characters start with, or zero. -/
def numeric : Value → Value
  | .text s => ((leadingNumber s.toList).map (·.1)).getD (.integer 0)
  | .blob bytes =>
    ((leadingNumber (bytes.map fun b => Char.ofNat b.toNat)).map (·.1)).getD (.integer 0)
  | v => v

/-- A number as a real. What is no number counts as zero. -/
def toReal : Value → Binary64
  | .integer n => Binary64.ofInt n.toInt
  | .real x => x
  | _ => Binary64.ofInt 0

/-- A real that is not a number is nothing. Every other real is a value. -/
def notNaN (x : Binary64) : Value := if x.isNaN then .null else .real x

/-- The outcome of an operation on integers, or what it is on the same numbers as reals if it is too
large for an integer. -/
def integerOr (n : Int) (otherwise : Binary64) : Value :=
  if inInt64 n then .integer (Int64.ofInt n) else .real otherwise

/-- The sum of two values, taken as numbers. It is nothing if one of them is, and a real if it is
too large for an integer. -/
def addValues (u v : Value) : Value :=
  match numeric u, numeric v with
  | .null, _ | _, .null => .null
  | .integer m, .integer n =>
    integerOr (m.toInt + n.toInt) ((Binary64.ofInt m.toInt).add (Binary64.ofInt n.toInt))
  | x, y => notNaN ((toReal x).add (toReal y))

/-- The difference of two values, taken as numbers. It is nothing if one of them is, and a real if
it is too large for an integer. -/
def subtractValues (u v : Value) : Value :=
  match numeric u, numeric v with
  | .null, _ | _, .null => .null
  | .integer m, .integer n =>
    integerOr (m.toInt - n.toInt) ((Binary64.ofInt m.toInt).add (Binary64.ofInt n.toInt).neg)
  | x, y => notNaN ((toReal x).add (toReal y).neg)

/-- Zero less a value. A text becomes the number that it starts with, with the other sign. -/
def negateValue (v : Value) : Value := subtractValues (.integer 0) v

/-- The texts of two values, one behind the other. Joined with nothing, every text becomes nothing.
-/
def joinValues (u v : Value) : Value :=
  match asText u, asText v with
  | some s, some t => .text (s ++ t)
  | _, _ => .null
where
  /-- The text of a value that is something. Bytes are taken as characters, and numbers as they are
  shown. -/
  asText : Value → Option String
    | .null => none
    | .blob bytes => some (String.ofList (bytes.map fun b => Char.ofNat b.toNat))
    | v =>
      match Affinity.textOf v with
      | .text s => some s
      | _ => none

/-! ### Conditions -/

/-- What a condition comes out as. A comparison with nothing is neither true nor false. -/
inductive Truth where
  | no
  | unknown
  | yes
deriving DecidableEq, Repr, Inhabited

namespace Truth

/-- The truth value of something decided, which is never unknown. -/
def ofBool (b : Bool) : Truth := if b then .yes else .no

/-- The truth value of a value: a number is true unless it is zero, and everything else is the
number that it starts with. -/
def ofValue (v : Value) : Truth :=
  match numeric v with
  | .null => .unknown
  | .real x => ofBool (!x.numEq (Binary64.ofInt 0))
  | n => ofBool (n != .integer 0)

/-- The truth value as a value: an integer if it is known, and nothing if it is not. -/
def toValue : Truth → Value
  | .no => .integer 0
  | .unknown => .null
  | .yes => .integer 1

/-- The opposite. What is unknown stays unknown. -/
def not : Truth → Truth
  | .no => .yes
  | .unknown => .unknown
  | .yes => .no

/-- Both conditions hold. A false one decides, whatever is unknown of the other. -/
def and : Truth → Truth → Truth
  | .no, _ | _, .no => .no
  | .yes, t => t
  | t, .yes => t
  | .unknown, .unknown => .unknown

/-- One of the conditions holds. A true one decides, whatever is unknown of the other. -/
def or (s t : Truth) : Truth := (s.not.and t.not).not

theorem and_comm (s t : Truth) : s.and t = t.and s := by cases s <;> cases t <;> rfl

theorem or_comm (s t : Truth) : s.or t = t.or s := by simp only [or, and_comm]

theorem not_not (t : Truth) : t.not.not = t := by cases t <;> rfl

theorem ofValue_toValue (t : Truth) : ofValue t.toValue = t := by cases t <;> decide

end Truth

end NamedSql.Sql
