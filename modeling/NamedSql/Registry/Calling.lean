import NamedSql.Registry.Basic

/-!
# Calling

How loaded queries are called. A call in general returns what the shape of the query prescribes;
a call by one of the accessors is refused, before anything runs, unless the query has the shape
that belongs to the accessor.

## Main definitions

* `QueryOutput` — what a call returns
* `Accessor` — the ways to call a query of a known shape
* `Registry.typed` — the query of a name, if it has the shape of an accessor
* `Registry.invoke` — runs the statement of a query
* `Registry.call` — a call in general; `Registry.run`, `Registry.get` and so on — the accessors

## Main results

* `Accessor.accepts_ofShape` — every shape belongs to an accessor
* `Accessor.eq_ofShape` — and to no other one
-/

namespace NamedSql

/-- What a statement that is run for its effect returns: two numbers that the connection holds, and
holds on to while statements run that do not set them. -/
structure RunResult where
  /-- The number of rows changed, as the connection tells it after the statement. A statement that
  changes no rows leaves the number of an earlier one. -/
  changes : Nat
  lastRowid : Int64
deriving DecidableEq, Repr, Inhabited

namespace RunResult

/-- The result as a JSON object with one member for each number. -/
def toJson (r : RunResult) : Json :=
  .object [("changes", .integer r.changes), ("last_insert_rowid", .integer r.lastRowid.toInt)]

end RunResult

/-- What a call returns, by the kind of its query. The kind is written in the header of the query,
so a caller knows which of these to expect. -/
inductive QueryOutput where
  | run (r : RunResult)
  | changes (n : Nat)
  | lastRowId (n : Int64)
  | row (r : Option Record)
  | rows (rs : List Record)
  | value (v : Option Value)
  | values (vs : List Value)
  | exists (b : Bool)
  | insertId (n : Int64)
deriving DecidableEq, Repr, Inhabited

/-- The ways to call a query of a known shape. Each returns a plain value where a call in general
returns one of many kinds, and refuses queries of every other shape before anything is executed. -/
inductive Accessor where
  | run
  | changes
  | lastRowId
  | get
  | getValue
  | all
  | allValues
  | one
  | list
  | exists
  | insert
deriving DecidableEq, Repr, Inhabited

namespace Accessor

/-- The accessor that a shape belongs to. A shape with a column has another one than the same shape
without. -/
def ofShape : QueryShape → Accessor
  | .run => .run
  | .changes => .changes
  | .lastRowId => .lastRowId
  | .get none => .get
  | .get (some _) => .getValue
  | .all none => .all
  | .all (some _) => .allValues
  | .one => .one
  | .list => .list
  | .exists => .exists
  | .insert => .insert

/-- The shape that an accessor wants, in the words that the error about a mismatch uses for it. -/
def expected : Accessor → String
  | .run => "run"
  | .changes => "changes"
  | .lastRowId => "lastRowID"
  | .get => "get"
  | .getValue => "get(<column>)"
  | .all => "all"
  | .allValues => "all(<column>)"
  | .one => "one"
  | .list => "list"
  | .exists => "exists"
  | .insert => "insert"

/-- Whether a query of some shape can be called by the accessor. Which column a shape names does not
matter, but whether it names one does. -/
def accepts (a : Accessor) (shape : QueryShape) : Bool :=
  match a, shape with
  | .run, .run | .changes, .changes | .lastRowId, .lastRowId => true
  | .get, .get column => column.isNone
  | .getValue, .get column => column.isSome
  | .all, .all column => column.isNone
  | .allValues, .all column => column.isSome
  | .one, .one | .list, .list | .exists, .exists | .insert, .insert => true
  | _, _ => false

theorem accepts_ofShape (shape : QueryShape) : (ofShape shape).accepts shape = true := by
  cases shape with
  | get column => cases column <;> rfl
  | all column => cases column <;> rfl
  | _ => rfl

theorem eq_ofShape {a : Accessor} {shape : QueryShape} (h : a.accepts shape = true) :
    a = ofShape shape := by
  cases shape with
  | get column => cases column <;> cases a <;> first | rfl | cases h
  | all column => cases column <;> cases a <;> first | rfl | cases h
  | _ => cases a <;> first | rfl | cases h

end Accessor

namespace Registry

open Op

variable {σ : Type}

/-! ### Looking up -/

/-- The query of that name, if there is one; otherwise the name is reported as unknown, and nothing
else happens. -/
def lookUp (name : String) : Op (Registry σ) Query := do
  match (← state).query? name with
  | some q => return q
  | none => throw (.unknownQuery name)

/-- The query of that name, if it has the shape of an accessor. Both errors, for an unknown name and
for another shape, come before the statement is looked at. -/
def typed (a : Accessor) (name : String) : Op (Registry σ) Query := do
  let q ← lookUp name
  if a.accepts q.shape then return q
  else throw (.kindMismatch name a.expected q.shape.display)

/-! ### Running -/

variable [Engine σ]

/-- The note that a statement is about to run, with the statement without the blanks at its end and
with the parameters as they were given. It is logged for calls of verbose registries only. -/
def executingNote (q : Query) (params : Params) : Log.Event :=
  .note .debug "executing query"
    [(Log.FieldName.queryName.key, .text q.name),
      (Log.FieldName.queryKind.key, .shown q.shape.display),
      ("sql", .text (String.ofList (Text.trimEnd q.sql.toList))), ("params", .shown params.shown)]

/-- The error of a query whose statement fails, with the wording of the failure and the engine's
code, if it comes from the engine. -/
def callError (q : Query) (f : Sql.Failure) : Error := .queryExecution q.name f.message f.code?

/-- Runs the statement of a query, and reads what it has delivered. The engine goes on from where
it has got to whether or not that succeeds: a call that fails has done to it whatever its statement
did before it failed. -/
def invoke {α : Type} (q : Query) (params : Params)
    (read : Sql.Execution → Except Sql.Failure α) : Op (Registry σ) α := do
  if (← state).verbose then log (executingNote q params)
  let (session, execution) := Engine.call (← state).session q.sql params
  change fun r => { r with session }
  ofResult ((execution.bind read).mapError (callError q))

/-- Runs a query for its effect, which returns no rows. The two numbers are read off the connection
afterwards, whatever statement was the last to set them. -/
def write (q : Query) (params : Params) : Op (Registry σ) RunResult := do
  invoke q params (·.written)
  let s := (← state).session
  return ⟨Engine.changes s, Engine.lastRowid s⟩

/-- The first row of a query, or nothing if it has none. Whatever comes of the rows behind it is not
looked at. -/
def firstRow (q : Query) (params : Params) : Op (Registry σ) (Option Record) :=
  invoke q params fun e => e.first e.record

/-- Every row of a query, in the order in which the engine delivers them; one that cannot be
delivered fails them all. -/
def everyRow (q : Query) (params : Params) : Op (Registry σ) (List Record) :=
  invoke q params fun e => e.every e.record

/-- One value of the first row: that of a column, or the first. Without a row nothing is looked up,
so that an unknown column goes unnoticed. -/
def firstValue (column : Option String) (q : Query) (params : Params) :
    Op (Registry σ) (Option Value) :=
  invoke q params fun e => e.first (e.pluck column)

/-- One value of every row: that of a column, which is looked up in each row again, or the first. -/
def everyValue (column : Option String) (q : Query) (params : Params) :
    Op (Registry σ) (List Value) :=
  invoke q params fun e => e.every (e.pluck column)

/-- Whether a query has a row. What stands in the row does not matter, not even whether it can be
read. -/
def hasRow (q : Query) (params : Params) : Op (Registry σ) Bool := invoke q params (·.hasRow)

/-- Runs a query and returns what its shape prescribes. This is the one place where the shape of a
query decides what is done. -/
def perform (q : Query) (params : Params) : Op (Registry σ) QueryOutput :=
  match q.shape with
  | .run => .run <$> write q params
  | .changes => (fun r => .changes r.changes) <$> write q params
  | .lastRowId => (fun r => .lastRowId r.lastRowid) <$> write q params
  | .insert => (fun r => .insertId r.lastRowid) <$> write q params
  | .get none => .row <$> firstRow q params
  | .get (some column) => .value <$> firstValue (some column) q params
  | .all none => .rows <$> everyRow q params
  | .all (some column) => .values <$> everyValue (some column) q params
  | .one => .value <$> firstValue none q params
  | .list => .values <$> everyValue none q params
  | .exists => .exists <$> hasRow q params

/-! ### Calls -/

/-- Calls a query by name, whatever its shape is. The accessors below come to the same for queries
of their own shapes. -/
def call (name : String) (params : Params) : Op (Registry σ) QueryOutput := do
  perform (← lookUp name) params

/-- The number of changed rows and the rowid inserted last, for a query that is run for both. -/
def run (name : String) (params : Params) : Op (Registry σ) RunResult := do
  write (← typed .run name) params

/-- The number of changed rows alone, for a query that is run for nothing else. -/
def changes (name : String) (params : Params) : Op (Registry σ) Nat := do
  return (← write (← typed .changes name) params).changes

/-- The rowid inserted last, for a query that is run for nothing else. -/
def lastRowId (name : String) (params : Params) : Op (Registry σ) Int64 := do
  return (← write (← typed .lastRowId name) params).lastRowid

/-- The first row as a record, if there is one, for a query that does not name a column. -/
def get (name : String) (params : Params) : Op (Registry σ) (Option Record) := do
  firstRow (← typed .get name) params

/-- The column of the first row that the query names in its header. The outer option tells whether
there was a row, and a value that is null is a value. -/
def getValue (name : String) (params : Params) : Op (Registry σ) (Option Value) := do
  let q ← typed .getValue name
  firstValue q.shape.column q params

/-- Every row as a record, for a query that does not name a column. -/
def all (name : String) (params : Params) : Op (Registry σ) (List Record) := do
  everyRow (← typed .all name) params

/-- The column of every row that the query names in its header. -/
def allValues (name : String) (params : Params) : Op (Registry σ) (List Value) := do
  let q ← typed .allValues name
  everyValue q.shape.column q params

/-- The first column of the first row, if there is one, however that column is called. -/
def one (name : String) (params : Params) : Op (Registry σ) (Option Value) := do
  firstValue none (← typed .one name) params

/-- The first column of every row, however that column is called. -/
def list (name : String) (params : Params) : Op (Registry σ) (List Value) := do
  everyValue none (← typed .list name) params

/-- Whether there is a row, for a query that is asked for nothing else. -/
def hasAny (name : String) (params : Params) : Op (Registry σ) Bool := do
  hasRow (← typed .exists name) params

/-- Inserts a record, whose columns are the parameters of the query by name, and returns the rowid
that the connection tells afterwards. -/
def insertOne (name : String) (record : Record) : Op (Registry σ) Int64 := do
  return (← write (← typed .insert name) (.named record)).lastRowid

end Registry

end NamedSql
