import NamedSql.Registry.Functions
import NamedSql.Registry.Transaction

/-!
# Scripts

A script is a list of things to do with a registry: calls, insertions, and units of work that have
scripts of their own. Running a script gives an answer for every step that was run.

## Scope

Inside a unit of work a failed step is either swallowed or ends the unit with its error, as the
script says. The records of a batch may be preceded by scripts, which run when the record is asked
for.

## Main definitions

* `Step`, `Script`, `Batch` — what is to be done
* `Answer` — what a step has come out as
* `Script.run` — runs a script

## Main results

* `Script.run_nil` — nothing to do leaves the registry as it is
-/

namespace NamedSql

/-- How a unit of work ends if no step has ended it: it is kept, given up for a reason of the
caller's, or fails with an error that the caller has got from elsewhere. -/
inductive Finish where
  | keep
  | abort (reason : String)
  | raise (e : Error)
deriving DecidableEq, Repr, Inhabited

namespace Finish

/-- The result of a unit of work that ends in some way, which is what its body returns to the
registry. -/
def result : Finish → Except Error Unit
  | .keep => .ok ()
  | .abort reason => .error (.aborted reason)
  | .raise e => .error e

end Finish

mutual

/-- Something to be done with a registry that needs no more than to look at it and to call its
queries. Loads and registrations are not among them: they cannot be done inside of a unit of work.
-/
inductive Step where
  | names
  | contains (name : String)
  | hasFunction (name : String)
  | query (name : String)
  | call (name : String) (params : Params)
  | access (a : Accessor) (name : String) (params : Params)
  | insertOne (name : String) (record : Record)
  | insertMany (name : String) (batch : Batch)
  | transaction (body : Script) (finish : Finish)

/-- Steps in order. A step may be decisive, so that its failure ends the unit of work that it stands
in; other failures are swallowed, and the steps behind them run. -/
inductive Script where
  | nil
  | cons (decisive : Bool) (step : Step) (rest : Script)

/-- Records in order, each with the script that runs when it is asked for. So a batch can be
interrupted by other work on the same registry, as an iterator can that computes its items. -/
inductive Batch where
  | nil
  | cons (before : Script) (record : Record) (rest : Batch)

end

instance : Inhabited Step := ⟨.names⟩

instance : Inhabited Script := ⟨.nil⟩

instance : Inhabited Batch := ⟨.nil⟩

/-- What a step has come out as. A unit of work answers with its own result and with the answers of
the steps that were run in it. -/
inductive Answer where
  | names (names : List String)
  | flag (b : Bool)
  | query (q : Option Query)
  | output (r : Except Error QueryOutput)
  | insertedOne (r : Except Error Int64)
  /-- The answers to the scripts before the records are listed in one list. -/
  | insertedMany (r : Except Error (Option Int64)) (before : List Answer)
  | transaction (r : Except Error Unit) (steps : List Answer)
deriving Inhabited

namespace Answer

/-- The error that a step has failed with, if it has failed. Failures inside of a unit count only as
far as they have become the result of the unit. -/
def error? : Answer → Option Error
  | .output (.error e) | .insertedOne (.error e) | .insertedMany (.error e) _
  | .transaction (.error e) _ => some e
  | _ => none

end Answer

namespace Registry

open Op

variable {σ : Type} [Engine σ]

/-- A call by an accessor, with its value wrapped in the output that a call in general would return.
-/
def access (a : Accessor) (name : String) (params : Params) : Op (Registry σ) QueryOutput :=
  match a with
  | .run => .run <$> run name params
  | .changes => .changes <$> changes name params
  | .lastRowId => .lastRowId <$> lastRowId name params
  | .get => .row <$> get name params
  | .getValue => .value <$> getValue name params
  | .all => .rows <$> all name params
  | .allValues => .values <$> allValues name params
  | .one => .value <$> one name params
  | .list => .values <$> list name params
  | .exists => .exists <$> hasAny name params
  | .insert => do return .insertId (← write (← typed .insert name) params).lastRowid

end Registry

variable {σ : Type} [Engine σ]

open NamedSql.Action

mutual

/-- Runs a step. Steps that only look at the registry leave it as it is; a unit of work runs the
scripts that it is made of. -/
def Step.run : Step → Action (Registry σ) Answer
  | .names => do return .names (← state).names
  | .contains name => do return .flag ((← state).contains name)
  | .hasFunction name => do return .flag ((← state).hasFunction name)
  | .query name => do return .query ((← state).query? name)
  | .call name params => do return .output (← (Registry.call name params).run)
  | .access a name params => do return .output (← (Registry.access a name params).run)
  | .insertOne name record => do return .insertedOne (← (Registry.insertOne name record).run)
  | .insertMany name batch => do
    let o ← Registry.tracedBatch [] name fun q => batch.run q none 0
    return .insertedMany o.result o.trace
  | .transaction body finish => do
    let o ← Registry.tracedTransaction [] (do
      let (answers, failure) ← body.run
      return ⟨(failure.map .error).getD finish.result, answers⟩)
    return .transaction o.result o.trace

/-- Runs the steps of a script up to the first decisive one that fails, and gives the answers and
that failure. The answer of the step that failed is among them. -/
def Script.run : Script → Action (Registry σ) (List Answer × Option Error)
  | .nil => return ([], none)
  | .cons decisive step rest => do
    let answer ← step.run
    match if decisive then answer.error? else none with
    | some e => return ([answer], some e)
    | none =>
      let (answers, failure) ← rest.run
      return (answer :: answers, failure)

/-- Runs every step of a script, whichever of them are decisive: nothing is ended by a failure where
no unit of work is meant to fail with it. -/
def Script.runAll : Script → Action (Registry σ) (List Answer)
  | .nil => return []
  | .cons _ step rest => do
    let answer ← step.run
    return answer :: (← rest.runAll)

/-- Inserts the records of a batch in turn, up to the first that fails. The scripts before the
records up to that one have run by then, and those behind it do not run. -/
def Batch.run (q : Query) (last : Option Int64) (count : Nat) :
    Batch → Action (Registry σ) (Outcome (List Answer) (Option Int64 × Nat))
  | .nil => return ⟨.ok (last, count), []⟩
  | .cons before record rest => do
    let answers ← before.runAll
    match ← (Registry.write q (.named record)).run with
    | .error e => return ⟨.error e, answers⟩
    | .ok r =>
      let o ← rest.run q (some r.lastRowid) (count + 1)
      return { o with trace := answers ++ o.trace }

end

@[simp] theorem Script.run_nil (l : Logged (Registry σ)) :
    (Script.nil.run).run l = (([], none), l) := rfl

end NamedSql
