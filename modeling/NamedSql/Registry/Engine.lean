import NamedSql.Sql.Session

/-!
# Engines

What a registry asks of the engine below it. A registry hands texts, parameters, functions and
commands down, and gets back results, faults and two numbers. It never looks at what the engine
keeps, so nothing that it does depends on how the engine is made.

## Scope

The values, the executions and the faults that cross the border are those of `Sql`. The types of
what is kept behind it are left open. A registry is opened on a session, which is the engine that
all of this is run with.

## Main definitions

* `Engine` — what an engine does for a registry
-/

namespace NamedSql

/-- What an engine does for a registry. Each operation takes the state of the engine and gives the
next one, whether or not it fails. -/
class Engine (σ : Type) where
  /-- Runs the statement of a text with parameters, preparing it first if it is not kept ready. -/
  call : σ → String → Params → σ × Except Sql.Failure Sql.Execution
  /-- Begins or ends a transaction, or tells why that cannot be done. -/
  control : σ → Sql.Control → σ × Option Sql.Fault
  /-- Counts the statements of a text, but stops counting at a limit. -/
  countStatements : σ → Nat → String → σ × Except Sql.Failure Nat
  /-- Prepares the statement of a text and keeps it ready for the calls to come. -/
  prepare : σ → String → σ × Option Sql.Failure
  /-- Sets how many prepared statements are kept ready. -/
  setCapacity : σ → Nat → σ
  /-- Makes a function callable from statements. -/
  addFunction : σ → Sql.Function → σ
  /-- How many rows the statement has changed that was the last one to change any. -/
  changes : σ → Nat
  /-- The rowid of the row that was inserted last. -/
  lastRowid : σ → Int64

namespace Engine

instance : Engine Sql.Session where
  call := Sql.Session.call
  control := Sql.Session.control
  countStatements := Sql.Session.countStatements
  prepare := Sql.Session.prepare
  setCapacity := Sql.Session.setCapacity
  addFunction s f := { s with connection := s.connection.addFunction f }
  changes s := s.connection.changes
  lastRowid s := s.connection.lastRowid

variable (s : Sql.Session)

@[simp] theorem call_session (sql : String) (params : Params) :
    call s sql params = s.call sql params := rfl

@[simp] theorem control_session (command : Sql.Control) : control s command = s.control command :=
  rfl

@[simp] theorem countStatements_session (limit : Nat) (sql : String) :
    countStatements s limit sql = s.countStatements limit sql := rfl

@[simp] theorem prepare_session (sql : String) : prepare s sql = s.prepare sql := rfl

@[simp] theorem setCapacity_session (capacity : Nat) :
    setCapacity s capacity = s.setCapacity capacity := rfl

@[simp] theorem addFunction_session (f : Sql.Function) :
    addFunction s f = { s with connection := s.connection.addFunction f } := rfl

@[simp] theorem changes_session : changes s = s.connection.changes := rfl

@[simp] theorem lastRowid_session : lastRowid s = s.connection.lastRowid := rfl

end Engine

end NamedSql
