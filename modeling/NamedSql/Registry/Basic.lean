import NamedSql.Log.Event
import NamedSql.Query.Spec
import NamedSql.Registry.Engine
import NamedSql.Registry.Reserved
import Std.Data.TreeMap

/-!
# Registries

A registry holds the named queries that are loaded on one engine, the functions registered on it,
and how deep inside of units of work it is. What is done with a registry is logged.

The queries are held in a table by their names, and their names a second time in the order in which
they were loaded. Nothing in the type keeps the two in step: looking up, counting and asking for a
name go to the table, and listing goes to the order. That they agree is an invariant of what is done
with a registry, and it is proved of the loads, which alone add to either.

## Scope

Operations are functions from a state to a result and a state: there is no clock and nothing is
shared. An operation that fails keeps the state that it has reached. The engine is a parameter,
which is a session wherever nothing else is said.

## Main definitions

* `Query`, `Registry` — a loaded query, and a registry
* `Logged`, `Action`, `Op` — a state with its log, what acts on it, and what may fail
* `Outcome`, `Action.bracketed` — what leaves a trace whether or not it fails, and an operation
  between its log events
* `Registry.query?`, `Registry.names` — what is loaded, by the table and by the order
-/

namespace NamedSql

/-- A loaded query: a name for a statement, and how its rows become a result. The statement is kept
as text, exactly as it stood in its block, and is prepared again whenever the engine has given it
up. -/
structure Query where
  name : String
  sql : String
  /-- The line of its header in the text it was loaded from, which errors and introspection show. -/
  line : Nat
  shape : QueryShape
deriving DecidableEq, Repr, Inhabited

/-- Named queries on one engine, with everything that outlives a single call: the state of the
engine, two containers for the queries, the names of functions and the places of files that are
taken, and the state of the open unit of work. -/
structure Registry (σ : Type := Sql.Session) where
  session : σ
  /-- The loaded queries, each under its name. A call looks its query up here and nowhere else. -/
  queries : Std.TreeMap String Query
  /-- The names of the loaded queries in the order in which they were loaded. A table does not keep
  that order, so it is kept beside it. -/
  order : List String
  /-- The names of the registered functions, in lower case, because SQL does not tell names apart by
  the case of ASCII letters. -/
  functions : List String
  /-- The canonical places of the files that were loaded, so that loading one of them again, by
  whatever path, does nothing. -/
  sources : List (List String)
  /-- Whether a note with the statement and the parameters of every call is logged. -/
  verbose : Bool
  /-- How many units of work are open. Only the outermost one begins a transaction of the engine,
  and those inside of it join. -/
  depth : Nat
  /-- Whether the outermost unit is to be rolled back, because one inside it has failed. -/
  rollbackOnly : Bool

namespace Registry

/-- The least number of statements that are kept prepared. A registry with more queries makes room
for all of them when it loads them. -/
def leastCapacity : Nat := 16

/-- A registry without queries on a connection: nothing is prepared or loaded, and no unit of work
is open. -/
def new (connection : Sql.Connection) (verbose : Bool) : Registry where
  session := .new connection leastCapacity
  queries := ∅
  order := []
  functions := []
  sources := []
  verbose := verbose
  depth := 0
  rollbackOnly := false

variable {σ : Type}

/-! ### What is loaded -/

/-- The query that the table has under a name. Names of queries, unlike those of functions, are told
apart by case. -/
def query? (r : Registry σ) (name : String) : Option Query := r.queries[name]?

/-- The names of the queries in the order in which they were loaded. The table is not asked. -/
def names (r : Registry σ) : List String := r.order

/-- Whether the table has a query under that name, which is what a load asks before it adds one. -/
def contains (r : Registry σ) (name : String) : Bool := r.queries.contains name

/-- The number of queries in the table, by which the room for prepared statements is measured. -/
def size (r : Registry σ) : Nat := r.queries.size

/-- Whether the table has no queries. The list of names is not asked, so that the two agree is
something to be proved. -/
def isEmpty (r : Registry σ) : Bool := r.queries.isEmpty

/-- Whether a function of that name is registered, whatever the case of its ASCII letters. -/
def hasFunction (r : Registry σ) (name : String) : Bool :=
  r.functions.contains (Sql.Token.fold name)

theorem contains_eq_isSome (r : Registry σ) (name : String) :
    r.contains name = (r.query? name).isSome :=
  Std.TreeMap.contains_eq_isSome_getElem?

end Registry

/-! ### Actions -/

/-- A state with the log of what has been done to it. Operations act on both, so what they log is
part of what can be said of them. -/
structure Logged (σ : Type) where
  state : σ
  /-- The name under which operations are logged, the same for all that act on one state. -/
  component : String
  events : List Log.Event

/-- What acts on a state and its log. It does not fail; what may fail without undoing what it has
done is an `Op`. -/
abbrev Action (σ : Type) := StateM (Logged σ)

/-- What acts on a state and may fail. A failure keeps the state and the log as they were when it
came up: nothing is rolled back by failing. -/
abbrev Op (σ : Type) := ExceptT Error (Action σ)

/-- What comes of something that may fail and leaves a trace in any case. -/
structure Outcome (τ α : Type) where
  result : Except Error α
  trace : τ

namespace Action

variable {σ τ α : Type}

/-- The state. -/
def state : Action σ σ := do return (← get).state

/-- Changes the state. -/
def change (f : σ → σ) : Action σ Unit := modify fun l => { l with state := f l.state }

/-- Logs an event. -/
def log (e : Log.Event) : Action σ Unit := modify fun l => { l with events := l.events ++ [e] }

/-- An operation between the events that log its start and its end. Which end is logged, that of a
success or that of a failure, is decided by the result, and the trace of the body is handed on in
both cases. -/
def bracketed (name : String) (first : List (String × Log.FieldValue))
    (last : α → List (String × Log.FieldValue)) (body : Action σ (Outcome τ α)) :
    Action σ (Outcome τ α) := do
  let component := (← get).component
  log (.opStart component name first)
  let o ← body
  match o.result with
  | .ok a => log (.opEnd component name 0 (last a))
  | .error e => log (.opError component name e 0 [])
  return o

end Action

namespace Op

variable {σ τ α : Type}

/-- An action that does not fail, among others that may. -/
def ofAction (a : Action σ α) : Op σ α := ExceptT.lift a

/-- A result that has been computed without touching the state, as an operation that returns it or
fails with it. -/
def ofResult (r : Except Error α) : Op σ α := ExceptT.mk (pure r)

/-- The state. -/
def state : Op σ σ := ofAction Action.state

/-- Changes the state. -/
def change (f : σ → σ) : Op σ Unit := ofAction (Action.change f)

/-- Logs an event. -/
def log (e : Log.Event) : Op σ Unit := ofAction (Action.log e)

/-- What may fail, with a trace that says nothing, so that it can stand where a trace is asked for.
-/
def traced (op : Op σ α) : Action σ (Outcome Unit α) := do return ⟨← op.run, ()⟩

/-- What may fail, once nobody asks for its trace any more. -/
def untraced (body : Action σ (Outcome τ α)) : Op σ α := ExceptT.mk (do return (← body).result)

/-- An operation that leaves no trace, between the events that log its start and its end. -/
def bracket (name : String) (first : List (String × Log.FieldValue))
    (last : α → List (String × Log.FieldValue)) (body : Op σ α) : Op σ α :=
  untraced (Action.bracketed name first last (traced body))

end Op

end NamedSql
