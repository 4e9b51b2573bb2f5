import NamedSql.Config
import NamedSql.Files
import NamedSql.Registry.Basic

/-!
# Opening

How the database of a registry is opened. Every connection has the same settings: keys of other
tables are enforced, and changes are secured by a write-ahead log where the storage allows it.
Then the SQL of the configuration is run.

## Main definitions

* `Connection.openAt` — the connection to the database of a location
* `Connection.configure` — the settings of every connection
* `Connection.journalModeName` — asking for the journal mode
* `Registry.open` — the registry of a configuration

## Main results

* `Connection.database_configure` — the settings do not touch the tables
-/

namespace NamedSql

/-- An error of the connection during an operation, with the wording of the engine but without its
code. -/
def Error.ofFault (op : String) (f : Sql.Fault) : Error := .persistence op f.message

/-- An error while a file is read, which names the file by the path it was asked for under. -/
def Error.ofFile (path : String) (f : FileFault) : Error := .io ("read " ++ path) f.message

namespace Sql.Connection

/-- The connection to the database of a location, and the files with it, among which there may be a
new one. A location that cannot be read, or leads nowhere, is reported with its text. -/
def openAt (location : String) (f : Files) : Except Error (Connection × Files) :=
  match Location.read location with
  | .error fault => .error (.persistence "open" fault.message)
  | .ok l =>
    match f.openDatabase l with
    | some opened => .ok opened
    | none => .error (.persistence "open" (Fault.cannotOpen.message ++ ": " ++ location))

/-- How changes are secured, in lower case, as a connection answers when it is asked. Only an answer
of another form than that of the engine is an error here. -/
def journalModeName (c : Connection) : Except Error String :=
  match (c.journalMode none).2 with
  | ⟨(.text mode :: _) :: _, _⟩ => .ok (Token.fold mode)
  | ⟨_, some f⟩ => .error (.ofFault "pragma journal_mode" f)
  | _ => .error (.ofFault "pragma journal_mode" .incomplete)

/-- The settings of every connection: keys of other tables are enforced, and a write-ahead log is
asked for. A storage that does not allow one keeps its mode, which is no error. -/
def configure (c : Connection) : Connection × Except Error Unit :=
  let (c, output) := ({ c with foreignKeys := true } : Connection).journalMode (some "WAL")
  match output.firstFault with
  | some f => (c, .error (.ofFault "pragma journal_mode" f))
  | none => (c, .ok ())

theorem database_configure (c : Connection) : c.configure.1.database = c.database := by
  have h := database_journalMode ({ c with foreignKeys := true } : Connection) (some "WAL")
  unfold configure
  dsimp only
  split <;> exact h

end Sql.Connection

namespace Registry

open Op

/-- The note that a connection has its settings, with the journal mode that has come of asking for
one. -/
def configuredNote (mode : String) : Log.Event :=
  .note .debug "connection configured" [("journal_mode", .shown mode)]

/-- Runs the SQL of a schema, up to the first statement that fails. What the statements before it
have done stays. -/
def runSql (s : Sql.Session) (sql : String) : Sql.Session × Except Error Unit :=
  match s.runBatch sql with
  | (s, none) => (s, .ok ())
  | (s, some fault) => (s, .error (.persistence "schema" fault.message))

/-- Runs the SQL in the file of a configuration, if there is one. A file that cannot be read fails
the whole opening. -/
def runSchemaFile (config : Config) (f : Files) (s : Sql.Session) :
    Sql.Session × Except Error Unit :=
  match config.schemaPath with
  | none => (s, .ok ())
  | some path =>
    match f.readText path with
    | .ok sql => runSql s sql
    | .error fault => (s, .error (.ofFile path fault))

/-- Runs the SQL of a configuration: that of its file, and then its own. -/
def runSchema (config : Config) (f : Files) (s : Sql.Session) : Sql.Session × Except Error Unit :=
  match runSchemaFile config f s, config.schemaSql with
  | (s, .ok ()), some sql => runSql s sql
  | outcome, _ => outcome

/-- Opens the database of a configuration and runs its SQL. What a failed attempt has committed to a
file stays there, and the connection itself is closed. -/
def connect (config : Config) : Op Files Registry := do
  let (c, f) ← ofResult (Sql.Connection.openAt config.location (← state))
  change fun _ => f
  let (c, configured) := c.configure
  ofResult configured
  log (configuredNote (← ofResult c.journalModeName))
  let registry := Registry.new c config.verbose
  let (session, outcome) := runSchema config f registry.session
  match outcome with
  | .ok () => return { registry with session }
  | .error e =>
    change fun f => f.store session.connection
    throw e

/-- Opens a registry, between the events that log the start and the end of it with the location. -/
protected def «open» (config : Config) : Op Files Registry :=
  bracket "open" [("location", .shown config.location)] (fun _ => []) (connect config)

end Registry

end NamedSql
