import NamedSql.Sql.Evaluation
import NamedSql.Sql.Missing

/-!
# Changes of rows

How rows are inserted, changed and deleted. Rows are treated one after the other, and every row is
held against the rules of its table before it is stored. What a violation leads to is up to the
statement.

## Scope

A change that stops tells how far it came and what is to be done about it; whether anything is
undone is not decided here. Keys of other tables are counted while rows are treated, and the counts
are looked at afterwards.

## Main definitions

* `Change`, `Changing` — how far a change has come, and a step of it
* `Stop` — why a change stops, and what is to be done about it
* `InsertPlan.run`, `UpdatePlan.run`, `DeletePlan.run` — changes of a database

## Main results

* `Change.through_nil`, `Change.through_cons_ok`, `Change.through_cons_error` — items are treated
  in order up to the first that stops
-/

namespace NamedSql.Sql

/-- How far a change of rows has come. It is kept when a row stops the change, since the rows before
it may be meant to stay. -/
structure Change where
  database : Database
  /-- The number of rows changed, each counted once it is stored or deleted. -/
  count : Nat
  /-- The rowid of the last row inserted; rows that are left out or changed in place set none. -/
  lastRowid : Option Int64
  /-- What the change returns: a row of values for every row changed, if the statement asks for any.
  -/
  returned : List (List Value)
  missing : Missing
  memo : Memo
deriving Inhabited

/-- Why a change stops, and what is to be done about it: to undo nothing, the statement or the whole
transaction. -/
structure Stop where
  fault : Fault
  conflict : Conflict
deriving Repr

namespace Stop

/-- A fault that undoes the statement, as every one does that no conflict clause is about. -/
def abort (fault : Fault) : Stop := ⟨fault, .abort⟩

end Stop

/-- A step of a change, which carries on from how far the change has come, or stops it. -/
abbrev Changing := StateT Change (Except Stop)

namespace Change

/-- Nothing has been changed yet. What is missing in the database before counts from the beginning.
-/
def start (d : Database) (missing : Missing) : Change := ⟨d, 0, none, [], missing, []⟩

/-- Treats items in turn, up to the first that stops. What was done for the items before it is not
lost. -/
def through {α : Type} (step : α → Changing Unit) : List α → Change → Change × Option Stop
  | [], c => (c, none)
  | a :: rest, c =>
    match (step a).run c with
    | .ok (_, c) => through step rest c
    | .error stop => (c, some stop)

@[simp] theorem through_nil {α : Type} (step : α → Changing Unit) (c : Change) :
    through step [] c = (c, none) := rfl

theorem through_cons_ok {α : Type} {step : α → Changing Unit} {c d : Change} {a : α}
    (h : (step a).run c = .ok ((), d)) (rest : List α) :
    through step (a :: rest) c = through step rest d := by simp [through, h]

theorem through_cons_error {α : Type} {step : α → Changing Unit} {c : Change} {a : α} {stop : Stop}
    (h : (step a).run c = .error stop) (rest : List α) :
    through step (a :: rest) c = (c, some stop) := by simp [through, h]

end Change

namespace Changing

/-- The table of that name, as the change has left it so far. The name was resolved before, so the
table is there. -/
def table (name : String) : Changing Table := do
  return ((← get).database.find? name).getD default

/-- Puts a table into the database, in the place of the table that has its name. -/
def putTable (t : Table) : Changing Unit :=
  modify fun c => { c with database := c.database.put t }

/-- Evaluates something in the database as it is. A fault undoes the statement. -/
def evaluate {α : Type} (parameters : List Value) (e : Scope → Eval α) : Changing α := fun c =>
  match e ⟨c.database, parameters, []⟩ c.memo with
  | .ok (a, memo) => .ok (a, { c with memo })
  | .error f => .error (.abort f)

/-- Counts the keys that are missing, before the database is changed in what they are counted by. -/
def count (f : Database → Missing → Missing) : Changing Unit :=
  modify fun c => { c with missing := f c.database c.missing }

/-- Takes a row out of its table. Rows that refer to it are counted as missing their key from then
on. -/
def erase (keys : KeyChecks) (table : String) (r : Row) : Changing Unit := do
  let t ← Changing.table table
  count fun d m => m.leaving keys d t r
  putTable (t.erase r.rowid)

/-- Counts a row, and adds what the statement returns for it, if it returns anything. -/
def finish (parameters : List Value) (returning : List Term) (r : Row) : Changing Unit := do
  modify fun c => { c with count := c.count + 1 }
  if !returning.isEmpty then
    let values ← evaluate parameters fun s => evalAll (s.within r) returning
    modify fun c => { c with returned := c.returned ++ [values] }

end Changing

/-! ### Rules of a table -/

/-- What a violated rule leads to: the row is left out, or the statement stops. Where there are no
rows to replace, replacing means to abort. -/
def violated (conflict : Conflict) (fault : Fault) : Except Stop (Option Row) :=
  match conflict with
  | .ignore => .ok none
  | .replace => .error (.abort fault)
  | c => .error ⟨fault, c⟩

/-- Holds a row against the columns that must not be nothing. Where rows are replaced, nothing is
replaced by the default value of the column, if there is one. -/
def checkNulls (conflict : Conflict) (t : Table) :
    Nat → List Column → Row → Except Stop (Option Row)
  | _, [], r => .ok (some r)
  | i, c :: rest, r =>
    if c.notNull && r.value i == .null && t.rowidColumn != some i then
      if conflict == .replace && c.default != .null then
        checkNulls conflict t (i + 1) rest { r with values := r.values.set i c.default }
      else violated conflict (.nullValue t.name c.name)
    else checkNulls conflict t (i + 1) rest r

/-- Holds a row against the conditions of its table. A condition that comes out unknown is
satisfied. -/
def checkConditions (conflict : Conflict) (parameters : List Value) :
    List CheckPlan → Row → Changing (Option Row)
  | [], r => return some r
  | check :: rest, r => do
    match ← Changing.evaluate parameters fun s =>
      check.condition.eval (s.within r) (.condition true) with
    | .integer 0 => violated conflict (.failedCheck check.label)
    | _ => checkConditions conflict parameters rest r

/-- A row as its table stores it: every value has been converted as its column asks for, and the
column of the rowid holds the rowid. -/
def Table.stored (t : Table) (r : Row) : Row :=
  { r with values := (List.range t.columns.length).map fun i =>
      if t.rowidColumn = some i then .integer r.rowid else (t.columnAffinity i).store (r.value i) }

/-- The fault of a row whose values in a key are those of another row. -/
def Table.duplicateFault (t : Table) (key : Key) : Fault :=
  .notUnique key.kind t.name (key.columns.map t.columnName)

/-- The fault of a row whose rowid is that of another row. It names the column that stands for the
rowid, where there is one. -/
def Table.rowidFault (t : Table) : Fault :=
  match t.rowidColumn with
  | some i => .notUnique .primary t.name [t.columnName i]
  | none => .notUnique .rowid t.name ["rowid"]

/-- How rows are stored: in which table, under which rules, and with which answer to a violated one.
-/
structure Storing where
  table : String
  conflict : Conflict
  parameters : List Value
  checks : List CheckPlan
  /-- What has to be looked at for rows that are replaced, which leave their table as deleted rows
  do. -/
  replacedKeys : KeyChecks

namespace Storing

/-- Makes room for a row where another one is in the way, which stops the statement, leaves the row
out, or deletes the other one. Tells whether there is room. -/
def makeRoom (s : Storing) (other : Option Row) (fault : Fault) : Changing Bool :=
  match other, s.conflict with
  | none, _ => return true
  | some _, .ignore => return false
  | some other, .replace => do
    Changing.erase s.replacedKeys s.table other
    return true
  | some _, c => throw ⟨fault, c⟩

/-- Makes room for a stored row in every key of its table, the key declared last being looked at
first. The row that it takes the place of is in nobody's way. -/
def makeRoomInKeys (s : Storing) (r : Row) (self : Option Int64) : List Key → Changing Bool
  | [] => return true
  | key :: rest => do
    let t ← Changing.table s.table
    let other := t.duplicate? key.columns (r.key key.columns) self
    if ← s.makeRoom other (t.duplicateFault key) then s.makeRoomInKeys r self rest
    else return false

/-- A row as it can be stored, once there is room for it; nothing if the row is left out. -/
def accept (s : Storing) (self : Option Int64) (r : Row) : Changing (Option Row) := do
  let t ← Changing.table s.table
  let some r ← checkNulls s.conflict t 0 t.columns r | return none
  let r := t.stored r
  let some r ← checkConditions s.conflict s.parameters s.checks r | return none
  let other := if self = some r.rowid then none else t.row? r.rowid
  if !(← s.makeRoom other t.rowidFault) then return none
  if !(← s.makeRoomInKeys r self t.keys.reverse) then return none
  return some r

/-- Stores a row for which there is room. Keys that the row misses are counted, and those that
missed it are not any longer. -/
def enter (s : Storing) (keys : KeyChecks) (r : Row) : Changing Unit := do
  let t ← Changing.table s.table
  Changing.count fun d m => m.entering keys d t r
  Changing.putTable (t.insert r)

end Storing

/-- The integer that a value asks for as a rowid. A value that is none, even once converted, is
refused. -/
def rowidOf (v : Value) : Except Stop Int64 :=
  match Affinity.numeric.store v with
  | .integer n => .ok n
  | _ => .error (.abort .datatypeMismatch)

/-! ### Insertion -/

namespace InsertPlan

/-- How the rows are stored. The rows that are replaced are held against the same keys as those
inserted. -/
def storing (p : InsertPlan) (parameters : List Value) : Storing :=
  ⟨p.table, p.conflict, parameters, p.checks, p.keys⟩

/-- The values given for a row, which cannot depend on a row of the table. -/
def given (parameters : List Value) (row : List Term) : Changing (List Value) :=
  Changing.evaluate parameters fun s => evalAll s.entered row

/-- Refuses a row that misses a key, if that is to be done at once. -/
def refuseOrphan (p : InsertPlan) : Changing Unit := do
  if p.atOnce && 0 < (← get).missing.immediate then throw (.abort .foreignKey)

/-- Inserts a row of which some values are given. Columns that are given none take their default
value, and a rowid that is given as nothing is a fresh one. -/
def store (p : InsertPlan) (parameters : List Value) (given : List Value) : Changing Unit := do
  let t ← Changing.table p.table
  let rowid ←
    match (p.rowid.bind (given[·]?)).getD .null with
    | .null => pure t.freshRowid
    | v => liftM (rowidOf v)
  let values := (p.positions.zip t.columns).map fun (position, column) =>
    (position.bind (given[·]?)).getD column.default
  let values := t.rowidColumn.elim values fun i => values.set i (.integer rowid)
  let storing := p.storing parameters
  if let some r ← storing.accept none ⟨rowid, values⟩ then
    storing.enter p.keys r
    p.refuseOrphan
    modify fun c => { c with lastRowid := some r.rowid }
    Changing.finish parameters p.returning r

/-- Inserts every row. The values of all rows are evaluated ahead where the plan says so, and
otherwise each in the database that the rows before have changed. -/
def run (p : InsertPlan) (parameters : List Value) (c : Change) : Change × Option Stop :=
  if p.ahead then
    match (p.rows.mapM (given parameters)).run c with
    | .ok (rows, c) => Change.through (p.store parameters) rows c
    | .error stop => (c, some stop)
  else
    Change.through (fun row => do p.store parameters (← given parameters row)) p.rows c

end InsertPlan

/-! ### Change and deletion -/

namespace Selection

/-- The rows that a statement has to look at, in the order of the path that was chosen for it. -/
def candidates (rows : Selection) (parameters : List Value) : Changing (List Row) :=
  Changing.evaluate parameters rows.start

/-- Whether a row is selected, in the database as the change has left it so far. -/
def selects (rows : Selection) (parameters : List Value) (r : Row) : Changing Bool :=
  Changing.evaluate parameters fun s => rows.holds (s.within r)

/-- The rowids of the selected rows in ascending order. All of them are known before the first row
is changed. -/
def rowids (rows : Selection) (parameters : List Value) : Changing (List Int64) := do
  let selected ← (← rows.candidates parameters).filterM (rows.selects parameters)
  return (selected.map Row.rowid).mergeSort

end Selection

/-- Treats items that have to be found first. A fault in finding them stops the change before it has
changed anything. -/
def throughFound {α : Type} (found : Changing (List α)) (step : α → Changing Unit) (c : Change) :
    Change × Option Stop :=
  match found.run c with
  | .ok (items, c) => Change.through step items c
  | .error stop => (c, some stop)

namespace UpdatePlan

/-- Changes the row with a rowid, if it is still there. Its new values are evaluated in the row as
it was, and all of them are put in place at once. -/
def step (p : UpdatePlan) (parameters : List Value) (rowid : Int64) : Changing Unit := do
  let t ← Changing.table p.table
  if let some old := t.row? rowid then
    let evaluated (terms : List Term) : Changing (List Value) :=
      Changing.evaluate parameters fun s => evalAll (s.within old) terms
    let newRowid ←
      match ← evaluated p.rowid.toList with
      | v :: _ => liftM (rowidOf v)
      | [] => pure rowid
    let given ← evaluated (p.values.map (·.2))
    let values := ((p.values.map (·.1)).zip given).foldl (fun vs a => vs.set a.1 a.2) old.values
    let values := t.rowidColumn.elim values fun i => values.set i (.integer newRowid)
    let storing : Storing := ⟨p.table, p.conflict, parameters, p.checks, p.replacedKeys⟩
    if let some r ← storing.accept (some rowid) ⟨newRowid, values⟩ then
      Changing.erase p.keys p.table old
      storing.enter p.keys r
      Changing.finish parameters p.returning r

/-- Changes every selected row. Where a change may move rows within what is enumerated, all of them
are found ahead. -/
def run (p : UpdatePlan) (parameters : List Value) (c : Change) : Change × Option Stop :=
  if p.ahead then throughFound (p.rows.rowids parameters) (p.step parameters) c
  else
    throughFound (p.rows.candidates parameters) (fun r => do
      if ← p.rows.selects parameters r then p.step parameters r.rowid) c

end UpdatePlan

namespace DeletePlan

/-- Deletes the row with a rowid, if it is still there. What is returned for it is evaluated in the
row that was deleted. -/
def step (p : DeletePlan) (parameters : List Value) (rowid : Int64) : Changing Unit := do
  if let some old := (← Changing.table p.table).row? rowid then
    Changing.erase p.keys p.table old
    Changing.finish parameters p.returning old

/-- Deletes every selected row. They are found before the first is deleted, so that none is passed
over. -/
def run (p : DeletePlan) (parameters : List Value) (c : Change) : Change × Option Stop :=
  throughFound (p.rows.rowids parameters) (p.step parameters) c

end DeletePlan

end NamedSql.Sql
