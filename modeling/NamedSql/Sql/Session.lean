import NamedSql.Record
import NamedSql.Sql.Connection
import NamedSql.Sql.Failure
import NamedSql.Sql.Grammar

/-!
# Sessions

A session is a connection with the statements that it has prepared. A prepared statement is kept
under its text, so that it need not be read again, and the statements that have not been used for
the longest time are given up when there are too many.

## Scope

A prepared statement is run as it was prepared, unless it is out of date; then it is prepared anew
before it runs. The names of its columns are announced before that.

## Main definitions

* `Prepared` — a statement that has been prepared
* `Session` — a connection with prepared statements
* `Session.countStatements`, `Session.runBatch` — texts with several statements
* `Session.call` — runs a statement with parameters
* `Execution` — what a call has delivered, and how it can be read

## Main results

* `Session.database_prepare` — preparing a statement changes no table
* `Session.renewed_of_isCurrent` — a statement that is not out of date is run as it was prepared
* `bindPositional_isOk_iff` — positional parameters fit exactly if their number does
-/

namespace NamedSql.Sql

/-- A statement that has been prepared: as it was read, and as its names were looked up. -/
structure Prepared where
  parsed : Statement.Parsed
  resolved : Resolved
  /-- The age of the connection when the statement was prepared, by which it is known whether it is
  out of date. -/
  age : Age

namespace Prepared

/-- Whether a statement need not be prepared anew. Definitions of tables do not concern a statement
that looks at none. -/
def isCurrent (p : Prepared) (age : Age) : Bool :=
  p.age.all == age.all &&
    (p.age.definitions == age.definitions || !p.resolved.plan.looksAtTables)

end Prepared

/-- A connection with the statements that it has prepared. Both change when a statement is run. -/
structure Session where
  connection : Connection
  /-- The prepared statements by their texts, the one used last first. Each text is there once. -/
  prepared : List (String × Prepared)
  /-- How many prepared statements are kept. Beyond that the one not used for the longest time is
  given up. -/
  capacity : Nat

/-! ### Parameters -/

/-- A value as it is bound: what is not a number is nothing. -/
def bound : Value → Value
  | .real x => if x.isNaN then .null else .real x
  | v => v

/-- The name by which a parameter is looked up: without the marks in front, and made from its
number if it has no name. -/
def parameterKey (placeholder : String) : String :=
  String.ofList (placeholder.toList.dropWhile fun c => c == ':' || c == '$' || c == '@')

/-- What a parameter is called in its statement; the number counts from one. -/
def placeholder (number : Nat) (name : Option String) : String :=
  name.getD ("?" ++ toString number)

/-- The values of parameters from a record, each looked up by its name. Fields of the record that no
parameter asks for are ignored. -/
def bindNamed (r : Record) : Nat → List (Option String) → Except Failure (List Value)
  | _, [] => .ok []
  | number, name :: rest =>
    let placeholder := placeholder number name
    match r.get? (parameterKey placeholder) with
    | none => .error (.parameterName placeholder)
    | some v => do return bound v :: (← bindNamed r (number + 1) rest)

/-- The values of parameters by their positions. There must be exactly as many as there are
parameters. -/
def bindPositional (values : List Value) (names : List (Option String)) :
    Except Failure (List Value) :=
  if values.length = names.length then .ok (values.map bound)
  else .error (.parameterCount values.length names.length)

/-- The values of the parameters of a statement, from whichever way they were given. -/
def bindParameters (names : List (Option String)) : Params → Except Failure (List Value)
  | .none => bindPositional [] names
  | .positional values => bindPositional values names
  | .named r => bindNamed r 1 names

theorem bindPositional_isOk_iff (values : List Value) (names : List (Option String)) :
    (bindPositional values names).isOk = true ↔ values.length = names.length := by
  unfold bindPositional
  split <;> simp_all [Except.isOk, Except.toBool]

/-! ### What a call delivers -/

/-- What a call has delivered: the rows, the fault that ended them, and under which names they can
be read. -/
structure Execution where
  /-- The names of the columns that the statement had before it ran, which a record takes. -/
  announced : List String
  /-- The names of the columns of its rows, by which a single column is found. -/
  columns : List String
  output : Output

namespace Execution

/-- The failure that ended the rows. Without one all of them have been delivered. -/
def ending (e : Execution) : Except Failure Unit :=
  match e.output.fault with
  | some f => .error (.failed f)
  | none => .ok ()

/-- A statement that is run for its effect returns no row. If it does, that is a failure, although
its effect is there. -/
def written (e : Execution) : Except Failure Unit :=
  if e.output.rows.isEmpty then e.ending else .error .returnedRow

/-- A row under the announced columns. A row that has more values than were announced loses the last
of them. -/
def record (e : Execution) (row : List Value) : Except Failure Record :=
  if e.announced.length ≤ row.length then .ok ⟨e.announced.zip row⟩
  else .error (.columnIndex row.length)

/-- One value of a row: that of the leftmost column of a name, or the first. -/
def pluck (e : Execution) (column : Option String) (row : List Value) : Except Failure Value :=
  match column with
  | none =>
    match row with
    | v :: _ => .ok v
    | [] => .error (.columnIndex 0)
  | some c =>
    match e.columns.findIdx? (Token.sameName c) with
    | none => .error (.columnName c)
    | some i =>
      match row[i]? with
      | some v => .ok v
      | none => .error (.columnIndex i)

/-- The first row, read in some way. What would end the rows behind it does not matter then. -/
def first {α : Type} (e : Execution) (read : List Value → Except Failure α) :
    Except Failure (Option α) :=
  match e.output.rows with
  | row :: _ => some <$> read row
  | [] => do
    e.ending
    return none

/-- Every row, read in some way. A row that cannot be read comes before the failure that ended the
rows. -/
def every {α : Type} (e : Execution) (read : List Value → Except Failure α) :
    Except Failure (List α) := do
  let rows ← e.output.rows.mapM read
  e.ending
  return rows

/-- Whether there is a row. Nothing in the row is read for that. -/
def hasRow (e : Execution) : Except Failure Bool := do
  return (← e.first fun _ => .ok ()).isSome

end Execution

namespace Session

/-- A session without prepared statements, as one begins. -/
def new (c : Connection) (capacity : Nat) : Session := ⟨c, [], capacity⟩

/-! ### Reading statements -/

/-- A statement ready to run, stamped with the age at which it was prepared. A setting that it makes
is made. -/
def prepareParsed (s : Session) (parsed : Statement.Parsed) : Session × Except Fault Prepared :=
  let (c, resolved) := s.connection.prepare parsed.statement
  ({ s with connection := c }, resolved.map fun resolved => ⟨parsed, resolved, c.age⟩)

/-- What stands at the start of a text: a statement ready to run, or nothing, and the rest. -/
structure Start where
  found : Option Prepared
  rest : List Char

/-- The start of a text. What is left is shorter, or nothing is left. -/
def start (s : Session) (text : List Char) : Session × Except Failure Start :=
  let refused (f : Fault) : Failure := .refused f (String.ofList text)
  match Statement.read text with
  | .error f => (s, .error (refused f))
  | .ok reading =>
    let rest := if reading.rest = 0 then [] else Grammar.dropBytes reading.rest text
    match reading.parsed with
    | none => (s, .ok ⟨none, rest⟩)
    | some parsed =>
      match s.prepareParsed parsed with
      | (s, .error f) => (s, .error (refused f))
      | (s, .ok p) => (s, .ok ⟨some p, rest⟩)

/-- The number of statements in a text, up to a limit, continuing a number; the second argument
bounds the steps. -/
def countFrom (limit : Nat) : Nat → Nat → Session → List Char → Session × Except Failure Nat
  | 0, count, s, _ => (s, .ok count)
  | _, count, s, [] => (s, .ok count)
  | fuel + 1, count, s, text =>
    if limit ≤ count then (s, .ok count)
    else
      match s.start text with
      | (s, .error f) => (s, .error f)
      | (s, .ok start) =>
        countFrom limit fuel (if start.found.isSome then count + 1 else count) s start.rest

/-- The number of statements in a text, up to a limit. Every counted statement is prepared, and what
follows the last one is not looked at. -/
def countStatements (s : Session) (limit : Nat) (sql : String) : Session × Except Failure Nat :=
  countFrom limit (sql.length + 1) 0 s sql.toList

/-- Runs the statements of a text, each up to its first row; the first argument bounds the
steps. -/
def runFrom : Nat → Session → List Char → Session × Option Failure
  | 0, s, _ => (s, none)
  | _, s, [] => (s, none)
  | fuel + 1, s, text =>
    match s.start text with
    | (s, .error f) => (s, some f)
    | (s, .ok ⟨none, rest⟩) => runFrom fuel s rest
    | (s, .ok ⟨some p, rest⟩) =>
      let (c, output) :=
        s.connection.perform (p.parsed.parameters.map fun _ => .null) p.resolved.plan
      let s := { s with connection := c }
      match output.firstFault with
      | some f => (s, some (.failed f))
      | none => runFrom fuel s rest

/-- Runs the statements of a text, up to the first that fails. What those before it have done stays
done. -/
def runBatch (s : Session) (sql : String) : Session × Option Failure :=
  runFrom (sql.length + 1) s sql.toList

/-! ### Prepared statements -/

/-- Keeps a prepared statement as the one used last. If there are too many then, the last one is
given up. -/
def keep (s : Session) (sql : String) (p : Prepared) : Session :=
  { s with prepared := ((sql, p) :: s.prepared.filter (·.1 != sql)).take s.capacity }

/-- Sets how many prepared statements are kept, and gives up those that are too many. -/
def setCapacity (s : Session) (capacity : Nat) : Session :=
  { s with capacity := capacity, prepared := s.prepared.take capacity }

/-- A statement that does nothing, which stands for a text without a statement. -/
def empty (s : Session) : Prepared := ⟨⟨.pragma "" none, []⟩, ⟨.idle, []⟩, s.connection.age⟩

/-- The statement of a trimmed text, prepared before or anew. A text without a statement is one that
does nothing. -/
def find (s : Session) (sql : String) : Session × Except Failure Prepared :=
  match s.prepared.lookup sql with
  | some p => (s, .ok p)
  | none =>
    let (s, start) := s.start sql.toList
    (s, start.map fun start => start.found.getD s.empty)

/-- Prepares the statement of a text, and keeps it. A statement that cannot be prepared is not kept.
-/
def prepare (s : Session) (sql : String) : Session × Option Failure :=
  let sql := Text.trimmed sql
  match s.find sql with
  | (s, .ok p) => (s.keep sql p, none)
  | (s, .error f) => (s, some f)

/-! ### Calls -/

/-- A statement that is not out of date. If it was, it is prepared anew, which may fail by now. -/
def renewed (s : Session) (p : Prepared) : Session × Except Fault Prepared :=
  if p.isCurrent s.connection.age then (s, .ok p) else s.prepareParsed p.parsed

/-- Runs a prepared statement, prepared anew if need be. It is kept in either case, under the
columns announced before. -/
def execute (s : Session) (sql : String) (p : Prepared) (values : List Value) :
    Session × Execution :=
  let announced := p.resolved.columns
  match s.renewed p with
  | (s, .error f) => (s.keep sql p, ⟨announced, announced, .failure f⟩)
  | (s, .ok p) =>
    let (c, output) := s.connection.perform values p.resolved.plan
    let s := { s with connection := c }
    (s.keep sql p, ⟨announced, p.resolved.columns, output⟩)

/-- Runs the statement of a text with parameters. One that was prepared before runs without being
read again. -/
def call (s : Session) (sql : String) (params : Params) : Session × Except Failure Execution :=
  let sql := Text.trimmed sql
  match s.find sql with
  | (s, .error f) => (s, .error f)
  | (s, .ok p) =>
    match bindParameters p.parsed.parameters params with
    | .error f => (s.keep sql p, .error f)
    | .ok values =>
      let (s, e) := s.execute sql p values
      (s, .ok e)

/-- Begins or ends a transaction, for which no statement has to be prepared. -/
def control (s : Session) (command : Control) : Session × Option Fault :=
  let (c, fault) := s.connection.control command
  ({ s with connection := c }, fault)

@[simp] theorem connection_keep (s : Session) (sql : String) (p : Prepared) :
    (s.keep sql p).connection = s.connection := rfl

@[simp] theorem connection_setCapacity (s : Session) (capacity : Nat) :
    (s.setCapacity capacity).connection = s.connection := rfl

theorem renewed_of_isCurrent {s : Session} {p : Prepared}
    (h : p.isCurrent s.connection.age = true) : s.renewed p = (s, .ok p) := by
  simp [renewed, h]

theorem database_prepareParsed (s : Session) (parsed : Statement.Parsed) :
    (s.prepareParsed parsed).1.connection.database = s.connection.database :=
  s.connection.database_prepare parsed.statement

theorem database_start (s : Session) (text : List Char) :
    (s.start text).1.connection.database = s.connection.database := by
  unfold start
  dsimp only
  split
  · rfl
  · split
    · rfl
    · rename_i parsed _
      have h := s.database_prepareParsed parsed
      split <;> simpa [*] using h

theorem database_find (s : Session) (sql : String) :
    (s.find sql).1.connection.database = s.connection.database := by
  unfold find
  split
  · rfl
  · exact s.database_start sql.toList

theorem database_prepare (s : Session) (sql : String) :
    (s.prepare sql).1.connection.database = s.connection.database := by
  have h := s.database_find (Text.trimmed sql)
  unfold prepare
  dsimp only
  revert h
  rcases s.find (Text.trimmed sql) with ⟨t, p | f⟩ <;> exact id

end Session

end NamedSql.Sql
