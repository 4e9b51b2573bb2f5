import NamedSql.Number.Decimal
import NamedSql.Text.Visible

/-!
# Values

The values that a query takes as parameters and returns in its rows.

## Scope

There are two equalities. `=` is equality of what is stored, down to the bits of a real; it is
decidable. `Value.agrees` compares reals as numbers, so it takes the two zeros for one and a NaN
for nothing.

## Main definitions

* `Value` — nothing, an integer, a real, a text or a run of bytes
* `ToValue` — the types that values are made from
* `Value.agrees` — equality with reals compared as numbers
* `Value.shown` — a value as the log shows it
-/

namespace NamedSql

/-- A value of a column or a parameter, in one of the five types that the engine stores. What stands
for true and false elsewhere are the integers one and zero here. -/
inductive Value where
  | null
  | integer (n : Int64)
  | real (x : Binary64)
  | text (s : String)
  | blob (bytes : List UInt8)
deriving DecidableEq, Repr, Inhabited

namespace Value

/-- Equality with reals compared as numbers, which is not reflexive: what is no number differs from
itself. -/
def agrees : Value → Value → Bool
  | .real x, .real y => x.numEq y
  | u, v => u == v

/-! ### What the log shows -/

/-- The numbers from `1e-4` up to below `1e16` are shown positionally. -/
def shownReal : NumberStyle where
  plainFrom := -4
  plainBelow := 16
  pointed := false
  signed := false
  exponentWidth := 1

/-- A real as the log shows it, by the fewest digits that read back as the same number. -/
def showReal (x : Binary64) : String :=
  if x.isNaN then "NaN"
  else
    let magnitude :=
      if x.isFinite then String.ofList (shownReal.layout (Decimal.shortest .awayFromZero x))
      else "inf"
    if x.isNegative then "-" ++ magnitude else magnitude

/-- Items between brackets, separated by commas, with nothing behind the last one. -/
def showList (items : List String) : String := "[" ++ ", ".intercalate items ++ "]"

/-- A value as the log shows it: its type, and between parentheses what it holds. -/
def shown : Value → String
  | .null => "Null"
  | .integer n => "Integer(" ++ toString n.toInt ++ ")"
  | .real x => "Real(" ++ showReal x ++ ")"
  | .text s => "Text(" ++ Text.quoted s ++ ")"
  | .blob bytes => "Blob(" ++ showList (bytes.map fun b => toString b.toNat) ++ ")"

end Value

/-! ### Making values -/

/-- The types that values are made from. Options make values too, and an option that is nothing
makes the null value. -/
class ToValue (α : Type) where
  /-- The value made from `a`. -/
  toValue : α → Value

export ToValue (toValue)

instance : ToValue Value := ⟨id⟩
instance : ToValue String := ⟨.text⟩
instance : ToValue Int64 := ⟨.integer⟩
instance : ToValue Int32 := ⟨fun n => .integer n.toInt64⟩
instance : ToValue UInt32 := ⟨fun n => .integer n.toUInt64.toInt64⟩
instance : ToValue Binary64 := ⟨.real⟩
instance : ToValue Bool := ⟨fun b => .integer (if b then 1 else 0)⟩
instance : ToValue (List UInt8) := ⟨.blob⟩
instance {α : Type} [ToValue α] : ToValue (Option α) := ⟨fun a => a.elim .null toValue⟩

@[simp] theorem toValue_value (v : Value) : toValue v = v := rfl

@[simp] theorem toValue_none {α : Type} [ToValue α] : toValue (none : Option α) = .null := rfl

@[simp] theorem toValue_some {α : Type} [ToValue α] (a : α) : toValue (some a) = toValue a := rfl

end NamedSql
