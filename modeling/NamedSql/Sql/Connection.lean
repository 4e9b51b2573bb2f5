import NamedSql.Sql.Change
import NamedSql.Sql.Journal
import NamedSql.Sql.Resolution
import NamedSql.Sql.Switch

/-!
# Connections

A connection holds a database and, while one is open, a transaction. A transaction remembers the
database as it was, and so does every savepoint in it; rolling back puts the remembered database
in the place of the current one. Without an open transaction every statement is one of its own.

## Scope

A key of another table that may be missing until the end of a transaction is counted while the
transaction is open, and the transaction cannot be committed while the count is positive.

What is undone was secured by a journal before. Where no journal is kept the engine leaves it open
what comes of a rollback. In memory everything stays; in a file that is what has reached the file,
which depends on how much of it is cached. The files say whether changes reach them before their
transaction ends, all of them or none, and no result depends on what they say.

A statement is prepared for the tables as they are. A connection counts what puts prepared
statements out of date: new definitions of tables concern those that look at tables, and everything
else concerns all of them.

## Main definitions

* `Transaction`, `Savepoint` — what is remembered
* `Connection` — the state of a connection
* `Connection.prepare` — a statement ready to run
* `Connection.control` — the statements that control transactions
* `Connection.applyChange` — what becomes of a change of rows
* `Connection.perform` — what a statement does and delivers

## Main results

* `Connection.database_prepare` — preparing a statement changes no table
* `Connection.database_query` — a query changes no table
* `Connection.control_begin`, `Connection.control_rollback` — a transaction that is rolled back
  leaves the database as it was when the transaction began, if it can be undone
* `Connection.database_perform_readOnly` — what cannot be written is not written
-/

namespace NamedSql.Sql

/-- A point of a transaction to which it can be rolled back. It remembers the database and the count
of missing keys as they were. -/
structure Savepoint where
  name : String
  database : Database
  deferred : Int

/-- An open transaction: what it goes back to if it is rolled back, and what its end has to take
care of. -/
structure Transaction where
  /-- The database as it was when the transaction began. Rolling back puts it in the place of the
  current one. -/
  before : Database
  /-- How many more keys are missing than when the transaction began, of those that may be. -/
  deferred : Int
  /-- The savepoints, the last one first. Several may have one name, of which the last one counts.
  -/
  savepoints : List Savepoint
  /-- Whether the transaction began with a savepoint, whose release then commits it, as the end of
  the outermost part. -/
  bySavepoint : Bool
  /-- Whether anything has been written, after which the journal mode cannot be changed any more. -/
  written : Bool
  /-- Whether tables have been defined or dropped, so that a rollback puts statements out of date
  too. -/
  redefined : Bool

namespace Transaction

/-- A transaction that begins. It goes back to the database as it is now, and has no savepoints. -/
def new (d : Database) : Transaction := ⟨d, 0, [], false, false, false⟩

end Transaction

/-- What puts prepared statements out of date, counted. A statement is up to date as long as the
counts are what they were when it was prepared. -/
structure Age where
  /-- What concerns the statements that look at tables: definitions of tables, by this connection.
  -/
  definitions : Nat
  /-- What concerns every statement, such as a new function, a changed setting or a rollback of
  definitions. -/
  all : Nat
deriving DecidableEq, Repr, Inhabited

/-- The state of a connection, but for the statements that it has prepared. These are remembered
beside it, in a session. -/
structure Connection where
  storage : Storage
  journal : JournalMode
  companions : Companions
  /-- Whether nothing can be written. Queries run all the same, and so does whatever begins or ends
  a transaction. -/
  readOnly : Bool
  database : Database
  transaction : Option Transaction
  functions : List Function
  /-- Whether keys of other tables are enforced, as they are from the start. -/
  foreignKeys : Bool
  age : Age
  /-- How many rows the last statement that changes rows has changed. Statements of other kinds
  leave it alone. -/
  changes : Nat
  /-- The rowid of the row inserted last. It stays when the row is rolled back or deleted. -/
  lastRowid : Int64

/-- What a statement delivers: rows, and the fault that ended it, if one did. -/
structure Output where
  rows : List (List Value)
  fault : Option Fault
deriving Repr

namespace Output

/-- No rows and no fault: the statement has run and has nothing to tell. -/
def nothing : Output := ⟨[], none⟩

/-- A fault before the first row. Rows that were returned until then are not delivered. -/
def failure (f : Fault) : Output := ⟨[], some f⟩

/-- The rows of a query, and the fault that ended them. Rows that came before a fault are delivered
all the same. -/
def ofDelivery (d : Delivery (List Value)) : Output :=
  match d.ending with
  | .ok _ => ⟨d.items, none⟩
  | .error f => ⟨d.items, some f⟩

/-- The fault of a statement that is stepped once: a row comes before the fault. -/
def firstFault (o : Output) : Option Fault := if o.rows.isEmpty then o.fault else none

end Output

namespace Connection

/-- A connection to a database in a storage, as it is opened: no transaction, no functions, and
nothing changed yet. -/
def toDatabase (storage : Storage) (journal : JournalMode) (database : Database) : Connection where
  storage := storage
  journal := journal
  companions := .none
  readOnly := false
  database := database
  transaction := none
  functions := []
  foreignKeys := true
  age := ⟨0, 0⟩
  changes := 0
  lastRowid := 0

/-- A connection to a new database in memory, which nobody else can see and which ends with the
connection. -/
def inMemory : Connection := toDatabase .memory .memory .empty

/-- Whether every statement is a transaction of its own, which is so as long as none is open. -/
def isAutocommit (c : Connection) : Bool := c.transaction.isNone

/-- The database without what an open transaction has changed: what would be left if that were
rolled back. -/
def committed (c : Connection) : Database := (c.transaction.map Transaction.before).getD c.database

/-- How many more keys are missing, of those that may be missing until the end of a transaction. -/
def deferred (c : Connection) : Int := (c.transaction.map Transaction.deferred).getD 0

/-- Whether the open transaction has written anything. There is nothing to tell of without an open
one. -/
def hasWritten (c : Connection) : Bool := c.transaction.any Transaction.written

/-- Whether the open transaction has defined or dropped tables, which a rollback would take back. -/
def hasRedefined (c : Connection) : Bool := c.transaction.any Transaction.redefined

/-! ### Preparing -/

/-- Puts every prepared statement out of date, so that each is prepared again before it runs the
next time. -/
def expire (c : Connection) : Connection := { c with age := { c.age with all := c.age.all + 1 } }

/-- What the names of a statement are looked up in: the tables as they are, and the functions that
are known so far. -/
def names (c : Connection) : Names where
  database := c.database
  functions := c.functions
  foreignKeys := c.foreignKeys
  levels := []
  height := 0
  inCheck := false

/-- The setting that a statement makes when it is prepared: whether keys of other tables are
enforced. -/
def setting? : Statement → Option Bool
  | .pragma name (some value) =>
    if Token.sameName name "foreign_keys" then some (Switch.isOn value) else none
  | _ => none

/-- The connection once a statement is prepared. A setting cannot be made in a transaction. -/
def configured (c : Connection) (s : Statement) : Connection :=
  match setting? s with
  | some on => if c.isAutocommit then { c with foreignKeys := on } else c
  | none => c

/-- A statement ready to run, or the fault that keeps it from being prepared. A setting is made even
if the statement never runs. -/
def prepare (c : Connection) (s : Statement) : Connection × Except Fault Resolved :=
  (c.configured s, c.names.resolve s)

/-- Whether a new function puts the prepared statements out of date: so far its name and number of
arguments stand for a function that takes just so many, a registered one or one that is always
there. Where a function that takes any number is what they stand for, statements go on with that
one. -/
def outdates (c : Connection) (f : Function) : Bool :=
  c.functions.any f.replaces ||
    f.arity.any fun count => (Function.resolve c.functions f.name count).isBuiltIn

/-- Adds a function, in the place of the one of its name that takes the same number of arguments, if
there is one. -/
def addFunction (c : Connection) (f : Function) : Connection :=
  let added := { c with functions := c.functions.filter (fun g => !f.replaces g) ++ [f] }
  if c.outdates f then added.expire else added

/-! ### Writing -/

/-- The connection after something was written: the files beside that of the database may be there,
and the open transaction has written. -/
def wrote (c : Connection) : Connection :=
  { c with
    companions :=
      if c.storage.isFile then c.companions.written c.journal c.transaction.isSome
      else c.companions
    transaction := c.transaction.map fun t => { t with written := true } }

/-- The connection after a look at the tables, for which a write-ahead log has to be opened where
one is kept. -/
def looked (c : Connection) : Connection :=
  { c with companions := c.companions.looked c.journal }

/-- Puts a database with other tables in the place of the current one. Statements that look at
tables are out of date then. -/
def define (c : Connection) (d : Database) : Connection :=
  let c := c.wrote
  { c with
    database := d
    age := { c.age with definitions := c.age.definitions + 1 }
    transaction := c.transaction.map fun t => { t with redefined := true } }

/-! ### Transactions -/

/-- The connection after its transaction, in whichever way it ended. The files beside that of the
database are put in order. -/
def ended (c : Connection) : Connection :=
  { c with transaction := none, companions := c.companions.ended c.journal }

/-- Whether transactions and parts of them can be undone, for which a journal has to be kept. -/
def undoesTransactions (c : Connection) : Bool := c.journal != .off

/-- Whether the database goes back when a transaction is given up: it can be undone, or none of its
changes has got to where the database is kept. -/
def goesBack (c : Connection) : Bool := c.undoesTransactions || !c.storage.keepsUnsecured

/-- The database once the open transaction is given up, if there is one. Where it cannot go back,
what was changed stays. -/
def abandoned (c : Connection) : Database := if c.goesBack then c.committed else c.database

/-- Rolls the open transaction back, if there is one. If it has defined tables, every statement is
prepared again afterwards. -/
def rollBack (c : Connection) : Connection :=
  let restored := { c.ended with database := c.abandoned }
  if c.hasRedefined then restored.expire else restored

/-- Commits the open transaction, unless keys are missing. A transaction that cannot be committed
stays open. -/
def commit (c : Connection) (t : Transaction) : Connection × Option Fault :=
  if 0 < t.deferred then (c, some .foreignKey) else (c.ended, none)

/-- The savepoints behind the last one of that name, and that one first. None are left if there is
no savepoint of that name. -/
def fromSavepoint (name : String) : List Savepoint → List Savepoint
  | [] => []
  | s :: rest => if Token.sameName s.name name then s :: rest else fromSavepoint name rest

/-- Begins or ends a transaction or a part of one. Where that does not fit what is open, nothing
happens and there is a fault. -/
def control (c : Connection) (command : Control) : Connection × Option Fault :=
  match command, c.transaction with
  | .begin, none => ({ c with transaction := some (.new c.database) }, none)
  | .begin, some _ => (c, some .nestedTransaction)
  | .commit, none => (c, some .noTransactionToCommit)
  | .commit, some t => c.commit t
  | .rollback, none => (c, some .noTransactionToRollBack)
  | .rollback, some _ => (c.rollBack, none)
  | .savepoint name, none =>
    let t : Transaction :=
      { Transaction.new c.database with
        savepoints := [⟨name, c.database, 0⟩]
        bySavepoint := true }
    ({ c with transaction := some t }, none)
  | .savepoint name, some t =>
    let s : Savepoint := ⟨name, c.database, t.deferred⟩
    ({ c with transaction := some { t with savepoints := s :: t.savepoints } }, none)
  | .release name, none | .rollbackTo name, none => (c, some (.noSuchSavepoint name))
  | .release name, some t =>
    match fromSavepoint name t.savepoints with
    | [] => (c, some (.noSuchSavepoint name))
    | _ :: rest =>
      if rest.isEmpty && t.bySavepoint then c.commit t
      else ({ c with transaction := some { t with savepoints := rest } }, none)
  | .rollbackTo name, some t =>
    match fromSavepoint name t.savepoints with
    | [] => (c, some (.noSuchSavepoint name))
    | s :: rest =>
      let restored := { c with
        database := if c.undoesTransactions then s.database else c.database
        transaction := some { t with deferred := s.deferred, savepoints := s :: rest } }
      (if t.redefined then restored.expire else restored, none)

/-! ### Changes of rows -/

/-- Where a change of rows begins: in the database as it is, with what the open transaction still
misses. -/
def beginChange (c : Connection) : Change := .start c.database ⟨0, c.deferred⟩

/-- Puts a changed database in the place of the current one, with so many keys missing. Without an
open transaction that is refused if any are missing. -/
def keep (c : Connection) (d : Database) (deferred : Int) : Connection × Option Fault :=
  match c.transaction with
  | some t => ({ c with database := d, transaction := some { t with deferred } }, none)
  | none => if 0 < deferred then (c, some .foreignKey) else ({ c with database := d }, none)

/-- The connection after a statement that has made a changed database fails. The statement is a
part of the open transaction or a transaction of its own. -/
def undo (c : Connection) (changed : Database) : Connection :=
  if if c.isAutocommit then c.goesBack else c.undoesTransactions then c
  else { c with database := changed }

/-- What becomes of a change of rows: it is kept or undone, or the whole transaction is, as the
conflict clause has it. Keys that must not be missing for a moment count as a fault of the
statement. -/
def applyChange (c : Connection) (change : Change) (stop : Option Stop) : Connection × Output :=
  let c := { c with lastRowid := change.lastRowid.getD c.lastRowid, changes := 0 }
  let c := if change.count = 0 then c else c.wrote
  let isComplete := stop.all (·.conflict == .fail)
  let stop :=
    if isComplete && 0 < change.missing.immediate then some (.abort .foreignKey) else stop
  match stop with
  | none =>
    match c.keep change.database change.missing.deferred with
    | (c, none) => ({ c with changes := change.count }, ⟨change.returned, none⟩)
    | (c, some f) => (c.undo change.database, ⟨change.returned, some f⟩)
  | some ⟨f, .fail⟩ =>
    match c.keep change.database change.missing.deferred with
    | (c, none) => ({ c with changes := change.count }, .failure f)
    | (c, some f) => (c.undo change.database, .failure f)
  | some ⟨f, .rollback⟩ =>
    let failed := { c with database := change.database }
    (if c.isAutocommit then c.undo change.database else failed.rollBack, .failure f)
  | some ⟨f, _⟩ => (c.undo change.database, .failure f)

/-! ### Definitions of tables -/

/-- What becomes of a database and of the keys that are missing when the rows of a table are deleted
one after the other. -/
def emptied (c : Connection) (t : Table) (keys : KeyChecks) : Database × Missing :=
  t.rows.foldl (fun (d, m) r =>
    let t := (d.find? t.name).getD t
    (d.put (t.erase r.rowid), m.dropping keys d t r)) (c.database, ⟨0, c.deferred⟩)

/-- Drops a table. A table that others refer to is emptied before, which counts as a deletion of
its rows and must not leave a key missing. So is a table that refers to keys that may be missing,
but only while keys are missing. -/
def dropTable (c : Connection) (t : Table) (keys : KeyChecks) : Connection × Output :=
  let isReferred := !keys.referring.isEmpty
  if isReferred || keys.own.any (·.deferred) then
    let c := { c with changes := 0 }
    if isReferred || c.deferred != 0 then
      let (d, missing) := c.emptied t keys
      if missing.immediate != 0 then (c.undo d, .failure .foreignKey)
      else
        match c.keep d missing.deferred with
        | (c, none) => ({ c.define (d.erase t.name) with changes := t.rows.length }, .nothing)
        | (c, some f) => (c.undo d, .failure f)
    else (c.define (c.database.erase t.name), .nothing)
  else (c.define (c.database.erase t.name), .nothing)

/-- Whether a row is held against a condition in vain. Nothing but a false condition counts, so an
unknown one is met. -/
def violates (c : Connection) (r : Row) (check : CheckPlan) : Bool :=
  match check.condition.eval (Scope.within ⟨c.database, [], []⟩ r) (.condition true) [] with
  | .ok (.integer 0, _) => true
  | _ => false

/-- Adds a column to a table; its rows get the default value of the column. The rows that are there
have to meet the conditions of the column. -/
def addColumn (c : Connection) (p : ColumnPlan) : Connection × Output :=
  let rows := ((c.database.find? p.definition.name).getD p.definition).rows.map fun r =>
    { r with values := r.values ++ [p.column.default] }
  let fault :=
    if rows.isEmpty then none
    else if rows.any fun r => p.checks.any (c.violates r) then p.fault <|> some .addedCheck
    else p.fault
  match fault with
  | some f => (c, .failure f)
  | none => (c.define (c.database.put { p.definition with rows }), .nothing)

/-! ### Journal modes -/

/-- Why a write-ahead log cannot be begun or given up, if it cannot. -/
def logFault? (c : Connection) (into : Bool) : Option Fault :=
  let leavesRoom : Bool :=
    match c.storage with
    | .file _ traits => traits.leavesRoom
    | _ => true
  if !c.isAutocommit then some (.journalModeFixed into)
  else if c.readOnly then some .readOnly
  else if into && !leavesRoom then some .cannotOpen
  else none

/-- Changes the journal mode, and with it what files there are beside that of the database. -/
def changeMode (c : Connection) (m : JournalMode) : Connection :=
  { c with journal := m, companions := c.companions.changed c.journal m }

/-- Asks for the journal mode, or for a change of it. A mode that the storage does not allow is not
taken, nor is any in a transaction that has written something. -/
def journalMode (c : Connection) (word : Option String) : Connection × Output :=
  let answer (c : Connection) : Connection × Output := (c, ⟨[[.text c.journal.name]], none⟩)
  match c.storage with
  | .unusable f => (c, .failure f)
  | storage =>
    match (word.bind JournalMode.ofWord?).filter storage.allows with
    | none => answer c
    | some m =>
      if m = c.journal || c.hasWritten then answer c
      else if m = .wal || c.journal = .wal then
        match c.logFault? (m = .wal) with
        | some f => (c, .failure f)
        | none => answer (c.changeMode m)
      else answer (c.changeMode m)

/-! ### Statements -/

/-- What a statement does to the connection, and what it delivers, if nothing keeps it from
running. -/
def run (c : Connection) (parameters : List Value) : Plan → Connection × Output
  | .query q => (c, .ofDelivery (q.results ⟨c.database, parameters, []⟩ false []))
  | .insert p =>
    let (change, stop) := p.run parameters c.beginChange
    c.applyChange change stop
  | .update p =>
    let (change, stop) := p.run parameters c.beginChange
    c.applyChange change stop
  | .delete p =>
    let (change, stop) := p.run parameters c.beginChange
    c.applyChange change stop
  | .createTable none | .dropTable none | .idle => (c, .nothing)
  | .createTable (some t) => (c.define (c.database.put t), .nothing)
  | .dropTable (some (name, keys)) =>
    match c.database.find? name with
    | none => (c, .nothing)
    | some t => c.dropTable t keys
  | .addColumn p => c.addColumn p
  | .control command =>
    let (c, fault) := c.control command
    (c, ⟨[], fault⟩)
  | .journalMode word => c.journalMode word
  | .expire => (c.expire, .nothing)

/-- A statement that cannot be run because nothing can be written. The count of changed rows starts
anew all the same if rows were to be changed. -/
def refuse (c : Connection) (p : Plan) : Connection × Output :=
  (if p.changesRows then { c with changes := 0 } else c, .failure .readOnly)

/-- What a statement does to the connection, and what it delivers. A connection that cannot write
refuses whatever would write. -/
def perform (c : Connection) (parameters : List Value) (p : Plan) : Connection × Output :=
  let c := if p.looksAtTables then c.looked else c
  if c.readOnly && p.writes then c.refuse p else c.run parameters p

/-! ### What stays as it is -/

@[simp] theorem database_looked (c : Connection) : c.looked.database = c.database := rfl

theorem database_prepare (c : Connection) (s : Statement) :
    (c.prepare s).1.database = c.database := by
  unfold prepare configured
  split
  · split <;> rfl
  · rfl

theorem database_query (c : Connection) (parameters : List Value) (q : QueryPlan) :
    (c.perform parameters (.query q)).1.database = c.database := by
  simp only [perform, Plan.writes, Bool.and_false, Bool.false_eq_true, if_false, run]
  split <;> rfl

theorem database_perform_readOnly {c : Connection} {p : Plan} (hc : c.readOnly = true)
    (hp : p.writes = true) (parameters : List Value) :
    (c.perform parameters p).1.database = c.database ∧
      (c.perform parameters p).2 = .failure .readOnly := by
  have hl := Plan.looksAtTables_of_writes hp
  simp only [perform, hl, hp, looked, hc, Bool.and_self, if_true, refuse, and_true]
  split <;> rfl

theorem database_journalMode (c : Connection) (word : Option String) :
    (c.journalMode word).1.database = c.database := by
  unfold journalMode changeMode
  dsimp only
  repeat' split
  all_goals rfl

theorem goesBack_of_undoesTransactions {c : Connection} (h : c.undoesTransactions = true) :
    c.goesBack = true := by
  rw [goesBack, h, Bool.true_or]

theorem control_begin {c : Connection} (h : c.transaction = none) :
    c.control .begin = ({ c with transaction := some (.new c.database) }, none) := by
  simp [control, h]

theorem control_rollback {c : Connection} {t : Transaction} (h : c.transaction = some t)
    (hj : c.undoesTransactions = true) :
    (c.control .rollback).1.database = t.before ∧ (c.control .rollback).1.transaction = none := by
  simp only [control, h, rollBack, abandoned, goesBack_of_undoesTransactions hj, ended, committed,
    expire]
  split <;> exact ⟨rfl, rfl⟩

end Connection

end NamedSql.Sql
