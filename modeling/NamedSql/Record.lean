import NamedSql.Json

/-!
# Records and parameters

A record lists columns with their values, in order. Rows are records, and so are the named
parameters of a call.

## Scope

A record built by `insert` has no column twice. A row may have, since a query may name several
result columns alike; `get?` then sees the first.

## Main definitions

* `Record`, `Record.insert`, `Record.get?` — columns with values
* `Record.toJson`, `Record.serialized` — the object of a record, and its text in column order
* `Params` — the parameters of a call

## Main results

* `Record.columns_insert`, `Record.get?_insert_self`, `Record.get?_insert_of_ne` — what an
  insertion does to the columns and to the values
-/

namespace NamedSql

/-- Columns with values, in order. Nothing keeps a column from occurring twice: a row of a statement
may return two columns of one name. -/
structure Record where
  entries : List (String × Value)
deriving DecidableEq, Repr, Inhabited

namespace Record

/-- The record without columns. -/
def empty : Record := ⟨[]⟩

/-- Sets the value of a column among entries: in place if the column is there, else at the end. -/
def setEntry (column : String) (v : Value) : List (String × Value) → List (String × Value)
  | [] => [(column, v)]
  | (c, w) :: rest => if c = column then (c, v) :: rest else (c, w) :: setEntry column v rest

/-- Sets the value of a column: in place if the record has it, else at the end. -/
def insert {α : Type} [ToValue α] (r : Record) (column : String) (a : α) : Record :=
  ⟨setEntry column (toValue a) r.entries⟩

/-- The record made by inserting pairs in turn, in which every column occurs once and has the value
that was inserted last. -/
def ofList {α : Type} [ToValue α] (pairs : List (String × α)) : Record :=
  pairs.foldl (fun r p => r.insert p.1 p.2) empty

/-- The value of the first column of that name. -/
def get? (r : Record) (column : String) : Option Value := r.entries.lookup column

/-- The value of a column, if it is a text. Without that column, or with another type, there is
none. -/
def text? (r : Record) (column : String) : Option String :=
  match r.get? column with
  | some (.text s) => some s
  | _ => none

/-- The value of a column, if it is an integer. Reals are not taken for integers, even if they are
whole numbers. -/
def integer? (r : Record) (column : String) : Option Int64 :=
  match r.get? column with
  | some (.integer n) => some n
  | _ => none

/-- The columns, in order. -/
def columns (r : Record) : List String := r.entries.map (·.1)

/-- The values, in column order, as a call binds them that goes by position. -/
def values (r : Record) : List Value := r.entries.map (·.2)

/-- The number of columns. -/
def size (r : Record) : Nat := r.entries.length

/-- Whether the record has no columns. -/
def isEmpty (r : Record) : Bool := r.entries.isEmpty

/-- Equality with reals compared as numbers: one that is no number equals nothing, and both zeros
are the same. The order of the columns counts. -/
def agrees (r s : Record) : Bool :=
  r.size == s.size &&
    (r.entries.zip s.entries).all fun p => p.1.1 == p.2.1 && p.1.2.agrees p.2.2

/-! ### JSON -/

/-- The members that the entries make, in column order. -/
def members (r : Record) : List (String × Json) := r.entries.map fun e => (e.1, e.2.toJson)

/-- The record as a JSON object, sorted by column; of repeated columns the last wins. -/
def toJson (r : Record) : Json := Json.ofMembers r.members

/-- The text of the record as JSON, with every entry in column order. -/
def serialized (r : Record) : String := (Json.object r.members).render

/-- The record as the log shows it. -/
def shown (r : Record) : String :=
  "Record \x7b entries: " ++
    Value.showList (r.entries.map fun e => "(" ++ Text.quoted e.1 ++ ", " ++ e.2.shown ++ ")") ++
    " \x7d"

/-! ### Insertion -/

theorem map_fst_setEntry (column : String) (v : Value) (entries : List (String × Value)) :
    (setEntry column v entries).map (·.1) =
      if column ∈ entries.map (·.1) then entries.map (·.1) else entries.map (·.1) ++ [column] := by
  induction entries with
  | nil => simp [setEntry]
  | cons e rest ih =>
    obtain ⟨c, w⟩ := e
    by_cases h : c = column
    · simp [setEntry, h]
    · have h' : ¬ column = c := fun hc => h hc.symm
      by_cases hm : column ∈ rest.map (·.1)
      · rw [if_pos hm] at ih
        rw [if_pos (by simpa using Or.inr (by simpa using hm))]
        simp [setEntry, h, ih]
      · rw [if_neg hm] at ih
        rw [if_neg (by simpa [h'] using hm)]
        simp [setEntry, h, ih]

theorem columns_insert {α : Type} [ToValue α] (r : Record) (column : String) (a : α) :
    (r.insert column a).columns =
      if column ∈ r.columns then r.columns else r.columns ++ [column] :=
  map_fst_setEntry column (toValue a) r.entries

theorem get?_insert_self {α : Type} [ToValue α] (r : Record) (column : String) (a : α) :
    (r.insert column a).get? column = some (toValue a) := by
  obtain ⟨entries⟩ := r
  simp only [insert, get?]
  induction entries with
  | nil => simp [setEntry]
  | cons e rest ih =>
    obtain ⟨c, w⟩ := e
    by_cases h : c = column
    · simp [setEntry, h]
    · have h' : (column == c) = false := by simpa using fun hc => h hc.symm
      simp [setEntry, h, List.lookup_cons, h', ih]

theorem get?_insert_of_ne {α : Type} [ToValue α] (r : Record) {column other : String} (a : α)
    (h : other ≠ column) : (r.insert column a).get? other = r.get? other := by
  obtain ⟨entries⟩ := r
  simp only [insert, get?]
  induction entries with
  | nil =>
    have : (other == column) = false := by simp [h]
    simp [setEntry, List.lookup_cons, this]
  | cons e rest ih =>
    obtain ⟨c, w⟩ := e
    by_cases hc : c = column
    · have : (other == column) = false := by simp [h]
      simp [setEntry, hc, List.lookup_cons, this]
    · simp [setEntry, hc, List.lookup_cons, ih]

end Record

/-! ### Parameters -/

/-- The parameters of a call: none, values in the order of the placeholders, or values under the
names of the placeholders. -/
inductive Params where
  | none
  | positional (values : List Value)
  | named (record : Record)
deriving DecidableEq, Repr, Inhabited

namespace Params

/-- Positional parameters from anything that makes values, all of one type. -/
def ofValues {α : Type} [ToValue α] (values : List α) : Params := .positional (values.map toValue)

/-- Equality with reals compared as numbers. -/
def agrees : Params → Params → Bool
  | .none, .none => true
  | .positional us, .positional vs =>
    us.length == vs.length && (us.zip vs).all fun p => p.1.agrees p.2
  | .named r, .named s => r.agrees s
  | _, _ => false

/-- The parameters as the log shows them, with the values in full. -/
def shown : Params → String
  | .none => "None"
  | .positional values => "Positional(" ++ Value.showList (values.map Value.shown) ++ ")"
  | .named record => "Named(" ++ record.shown ++ ")"

end Params

end NamedSql
