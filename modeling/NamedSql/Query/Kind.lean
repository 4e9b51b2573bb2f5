/-!
# Kinds of queries

The kind of a query fixes how it is called and what it returns. The set of kinds is closed, and
one table gives the identifier by which each is written.

## Main definitions

* `QueryKind` — the kinds
* `QueryKind.table` — the identifier of every kind, in the order in which kinds are listed
* `QueryShape` — a kind together with the column it returns, if it returns one

## Main results

* `QueryKind.ofIdentifier?_identifier` — the identifier of a kind reads back as that kind
* `QueryKind.eq_of_ofIdentifier?` — no kind has a second identifier
-/

namespace NamedSql

/-- The calling and return contract of a query, which the header of the query names. -/
inductive QueryKind where
  /-- Executes, and returns the number of changes and the last rowid together. -/
  | run
  /-- Executes, and returns the number of changed rows. -/
  | changes
  /-- Executes, and returns the rowid inserted last. -/
  | lastRowId
  /-- Returns the first row, or one column of it. -/
  | get
  /-- Returns every row, or one column of each. -/
  | all
  /-- Returns the first column of the first row. -/
  | one
  /-- Returns the first column of every row. -/
  | list
  /-- Tells whether there is a row, whatever stands in it. -/
  | exists
  /-- Inserts, one record or many, and returns the last rowid. Only queries of this kind take
  records. -/
  | insert
deriving DecidableEq, Repr, Inhabited

namespace QueryKind

/-- The identifier under which a kind is written, in headers as well as in messages. -/
def identifier : QueryKind → String
  | .run => "run"
  | .changes => "changes"
  | .lastRowId => "lastRowID"
  | .get => "get"
  | .all => "all"
  | .one => "one"
  | .list => "list"
  | .exists => "exists"
  | .insert => "insert"

/-- Every kind, in the order in which kinds are listed. No kind is left out, since they are read
through this list. -/
def values : List QueryKind :=
  [.run, .changes, .lastRowId, .get, .all, .one, .list, .exists, .insert]

/-- Identifiers with their kinds, from which identifiers are read. -/
def table : List (String × QueryKind) := values.map fun k => (k.identifier, k)

/-- The kind that an identifier stands for, if it stands for one. Case counts. -/
def ofIdentifier? (identifier : String) : Option QueryKind := table.lookup identifier

/-- Whether a query of this kind may name the column that it returns. For the others an argument is
an error and not ignored. -/
def acceptsArgument : QueryKind → Bool
  | .get | .all => true
  | _ => false

@[simp] theorem ofIdentifier?_identifier (k : QueryKind) : ofIdentifier? k.identifier = some k := by
  cases k <;> decide

theorem eq_of_ofIdentifier? {s : String} {k : QueryKind} (h : ofIdentifier? s = some k) :
    s = k.identifier := by
  have key : ∀ l : List QueryKind,
      (l.map fun k => (k.identifier, k)).lookup s = some k → s = k.identifier := by
    intro l
    induction l with
    | nil => simp
    | cons j l ih =>
      by_cases hj : s = j.identifier
      · intro h
        simp [hj] at h
        rw [hj, h]
      · have : (s == j.identifier) = false := by simpa using hj
        simp only [List.map_cons, List.lookup_cons, this]
        exact ih
  exact key _ h

end QueryKind

/-! ### Shapes -/

/-- A kind together with the column that it returns, where the kind allows one. -/
inductive QueryShape where
  | run
  | changes
  | lastRowId
  | get (column : Option String)
  | all (column : Option String)
  | one
  | list
  | exists
  | insert
deriving DecidableEq, Repr, Inhabited

namespace QueryShape

/-- The shape of a kind. The column matters only to the kinds that accept an argument. -/
def ofKind (kind : QueryKind) (column : Option String) : QueryShape :=
  match kind with
  | .run => .run
  | .changes => .changes
  | .lastRowId => .lastRowId
  | .get => .get column
  | .all => .all column
  | .one => .one
  | .list => .list
  | .exists => .exists
  | .insert => .insert

/-- The kind of a shape, without the column. -/
def kind : QueryShape → QueryKind
  | .run => .run
  | .changes => .changes
  | .lastRowId => .lastRowId
  | .get _ => .get
  | .all _ => .all
  | .one => .one
  | .list => .list
  | .exists => .exists
  | .insert => .insert

/-- The column that is returned of a row, if it is one; none if whole records are returned or
something else. -/
def column : QueryShape → Option String
  | .get column | .all column => column
  | _ => none

/-- The shape as it is written behind the colon of a header. -/
def display (shape : QueryShape) : String :=
  match shape.column with
  | some column => shape.kind.identifier ++ "(" ++ column ++ ")"
  | none => shape.kind.identifier

@[simp] theorem kind_ofKind (kind : QueryKind) (column : Option String) :
    (ofKind kind column).kind = kind := by cases kind <;> rfl

end QueryShape

end NamedSql
