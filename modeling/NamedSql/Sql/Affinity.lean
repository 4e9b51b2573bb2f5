import NamedSql.Sql.Numeral

/-!
# Affinities

A column accepts values of every type, but it has an affinity, which follows from its declared
type: a value that is stored in the column is converted if that loses nothing. The affinities of
two compared expressions likewise decide how they are converted before the comparison.

## Main definitions

* `Affinity`, `Affinity.ofType` — the affinities and the declared types that lead to them
* `Affinity.store` — a value as a column stores it
* `Affinity.compared` — a value as a comparison sees it

## Main results

* `Affinity.store_null`, `Affinity.store_none` — nothing stays nothing, and a column without a
  type stores what it is given
* `Affinity.ofComparison_comm` — the two sides of a comparison are treated alike
-/

namespace NamedSql.Sql

/-- A real as an integer, if that loses nothing and is not at the bounds. -/
def integerOfReal (x : Binary64) : Value :=
  match x.toInt? with
  | some n =>
    if Int64.minValue.toInt < n && n < Int64.maxValue.toInt then .integer (Int64.ofInt n)
    else .real x
  | none => .real x

/-! ### Affinities -/

/-- What a column makes of the values that it is given. A value that cannot be turned into what is
preferred stays as it is. -/
inductive Affinity where
  /-- Values stay as they are, whatever their type. -/
  | none
  /-- Numbers become texts; everything else stays as it is. -/
  | text
  /-- Texts that are numbers become numbers, and reals without a fraction become integers where one
  stands for the same number. -/
  | numeric
  /-- Texts that are numbers become reals, and integers do. A real without a fraction goes through
  its integer, which has no negative zero. -/
  | real
deriving DecidableEq, Repr, Inhabited

namespace Affinity

/-- Whether a text occurs in another one. Declared types are told by what occurs in them. -/
def occursIn (pattern : List Char) : List Char → Bool
  | [] => pattern.isEmpty
  | c :: r => pattern.isPrefixOf (c :: r) || occursIn pattern r

/-- The affinity of a declared type, by the first of several words that occurs in it in either case.
A type with none of them prefers numbers, and no type at all prefers nothing. -/
def ofType (declared : String) : Affinity :=
  let s := declared.toList.map Char.toUpper
  let has (pattern : String) := occursIn pattern.toList s
  if declared.isEmpty then .none
  else if has "INT" then .numeric
  else if has "CHAR" || has "CLOB" || has "TEXT" then .text
  else if has "BLOB" then .none
  else if has "REAL" || has "FLOA" || has "DOUB" then .real
  else .numeric

/-- The text of a number, as it would be shown in a result; other values stay as they are. -/
def textOf : Value → Value
  | .integer n => .text (toString n.toInt)
  | .real x => .text (realText x)
  | v => v

/-- The number of a text, if it is one; other values stay as they are. -/
def numberOf : Value → Value
  | .text s => (numberOfText? s).getD (.text s)
  | v => v

/-- A real that is an integer as that integer; other values stay as they are. -/
def narrowed : Value → Value
  | .real x => integerOfReal x
  | v => v

/-- An integer as a real, rounded where it has too many digits; other values stay as they are. -/
def widened : Value → Value
  | .integer n => .real (Binary64.ofInt n.toInt)
  | v => v

/-- A value as a column stores it. Conversions that would lose anything are not made. -/
def store : Affinity → Value → Value
  | .none, v => v
  | .text, v => textOf v
  | .numeric, v => narrowed (numberOf v)
  | .real, v => widened (narrowed (numberOf v))

/-- Whether texts that are numbers count as numbers, in comparisons as well as where values are
stored. -/
def isNumeric : Affinity → Bool
  | .numeric | .real => true
  | _ => false

/-- The affinity by which the operands of a comparison are converted, from what they ask for. A
column always asks for its own affinity, other expressions for nothing. -/
def ofComparison : Option Affinity → Option Affinity → Affinity
  | some a, some b => if a.isNumeric || b.isNumeric then .numeric else .none
  | some a, Option.none => a
  | Option.none, some b => b
  | Option.none, Option.none => .none

/-- A value as a comparison with another one sees it. Numbers become texts only beside a text. -/
def compared : Affinity → Value → Value → Value
  | .none, v, _ => v
  | .text, v, .text _ => textOf v
  | .text, v, _ => v
  | .numeric, v, _ | .real, v, _ => numberOf v

@[simp] theorem store_null (a : Affinity) : a.store .null = .null := by cases a <;> rfl

@[simp] theorem store_none (v : Value) : Affinity.none.store v = v := rfl

@[simp] theorem compared_null (a : Affinity) (v : Value) : a.compared .null v = .null := by
  cases a <;> cases v <;> rfl

theorem ofComparison_comm (a b : Option Affinity) : ofComparison a b = ofComparison b a := by
  rcases a with _ | a <;> rcases b with _ | b <;> try rfl
  simp [ofComparison, Bool.or_comm]

end Affinity

end NamedSql.Sql
