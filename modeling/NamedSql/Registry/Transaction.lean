import NamedSql.Registry.Calling
import NamedSql.Registry.Opening

/-!
# Transactions

Units of work, of which all changes are kept or none. A unit that begins while another one is open
joins it: it neither commits nor rolls back. If it fails, the outermost unit is marked, and rolls
back when it ends, even if the failure was swallowed.

## Scope

The depth of units is that of the registry. Whether the engine has a transaction of its own open is
not asked; a statement may end that transaction while the unit goes on.

## Main definitions

* `Registry.unit` — a unit of work, outermost or joined
* `Registry.transaction` — a unit of work whose errors are wrapped
* `Registry.insertMany` — the insertion of records as one unit

## Main results

* `Registry.settle_error` — a failed outermost unit returns its own error
* `Registry.depth_deepen` — a unit of work leaves the depth as it was, if its body does
-/

namespace NamedSql

namespace Registry

open NamedSql.Action

variable {σ τ α : Type} [Engine σ]

/-! ### Units of work -/

/-- Begins or ends a transaction of the engine. Its fault is handed to the caller and not raised,
because a rollback that fails must not hide why it was tried. -/
def control (command : Sql.Control) : Action (Registry σ) (Option Sql.Fault) := do
  let (session, fault) := Engine.control (← state).session command
  change fun r => { r with session }
  return fault

/-- Marks the outermost unit, so that it will be rolled back however its body ends, or removes the
mark when a unit begins or has ended. -/
def mark (rollbackOnly : Bool) : Action (Registry σ) Unit :=
  change fun r => { r with rollbackOnly }

/-- The note that a transaction could not be rolled back. It is all that comes of such a fault,
since the unit has an error of its own already. -/
def rollbackFailedNote (f : Sql.Fault) : Log.Event :=
  .note .warn "rollback failed" [("error", .shown f.message)]

/-- Rolls the transaction of the engine back, and logs a note if that fails. -/
def rollBack : Action (Registry σ) Unit := do
  match ← control .rollback with
  | some f => log (rollbackFailedNote f)
  | none => return

/-- What is done one unit deeper. The depth is counted down again whatever the body comes to, since
an action cannot break off. -/
def deepen (body : Action (Registry σ) α) : Action (Registry σ) α := do
  change fun r => { r with depth := r.depth + 1 }
  let a ← body
  change fun r => { r with depth := r.depth - 1 }
  return a

/-- A unit inside another one: it has no transaction of its own, and if it fails it marks the
outermost unit and hands its error on. -/
def joined (body : Action (Registry σ) (Outcome τ α)) : Action (Registry σ) (Outcome τ α) := do
  let o ← deepen body
  match o.result with
  | .ok _ => return o
  | .error _ =>
    mark true
    return o

/-- Commits the transaction of the engine, which is given up if that fails. The error is that of the
commit, whatever comes of giving up, and it carries the wording of the fault without its code. -/
def commit (a : α) : Action (Registry σ) (Except Error α) := do
  match ← control .commit with
  | none => return .ok a
  | some f =>
    let _ ← control .rollback
    return .error (.ofFault "commit" f)

/-- Ends the outermost unit: it is committed if its body has succeeded and no unit inside has
failed, and else rolled back. The mark is taken away in any case, so that the next unit starts
without one. -/
def settle (r : Except Error α) : Action (Registry σ) (Except Error α) := do
  let marked := (← state).rollbackOnly
  mark false
  match r with
  | .error e =>
    rollBack
    return .error e
  | .ok a =>
    if marked then
      rollBack
      return .error .rollbackOnly
    else commit a

/-- An outermost unit. If it cannot begin, its body does not run, and the given trace is left.
Otherwise its result is that of its end, not that of its body. -/
def outermost (skipped : τ) (body : Action (Registry σ) (Outcome τ α)) :
    Action (Registry σ) (Outcome τ α) := do
  match ← control .begin with
  | some f => return ⟨.error (.ofFault "begin" f), skipped⟩
  | none =>
    mark false
    let o ← deepen body
    return ⟨← settle o.result, o.trace⟩

/-- A unit of work, outermost or joined. Nothing but the depth decides which it is: whether the
engine has a transaction open is not asked here. -/
def unit (skipped : τ) (body : Action (Registry σ) (Outcome τ α)) :
    Action (Registry σ) (Outcome τ α) := do
  if 0 < (← state).depth then joined body else outermost skipped body

/-! ### Transactions -/

/-- The name by which transactions are logged. -/
def transactionName : String := "transaction"

/-- A transaction that leaves a trace. The event at its start says whether it stands inside of
another unit, since it neither commits nor rolls back there. -/
def tracedTransaction (skipped : τ) (body : Action (Registry σ) (Outcome τ α)) :
    Action (Registry σ) (Outcome τ α) := do
  let nested := decide (0 < (← state).depth)
  bracketed transactionName [("nested", .flag nested)] (fun _ => []) do
    let o ← unit skipped body
    return { o with result := o.result.mapError Error.wrap }

/-- Does something as one unit of work, whose changes are meant to be kept together or not at all.
If it fails, the error is wrapped, unless a unit inside has wrapped it already. -/
def transaction (body : Op (Registry σ) α) : Op (Registry σ) α :=
  .untraced (tracedTransaction () (Op.traced body))

/-! ### Batches -/

/-- The name by which batches are logged, which is that of the operation and not that of the query.
-/
def batchName : String := "insert_many"

/-- The insertion of a batch, which returns the rowid of its last record and the number of its
records. The query is looked up before anything is logged, so a name that does not fit leaves no
events. -/
def tracedBatch (skipped : τ) (name : String)
    (body : Query → Action (Registry σ) (Outcome τ (Option Int64 × Nat))) :
    Action (Registry σ) (Outcome τ (Option Int64)) := do
  match ← (typed .insert name).run with
  | .error e => return ⟨.error e, skipped⟩
  | .ok q =>
    let o ← bracketed batchName [(Log.FieldName.queryName.key, .text name)]
      (fun r => [(Log.FieldName.batchLen.key, .integer r.2)]) (unit skipped (body q))
    return { o with result := o.result.map (·.1) }

/-- Inserts records in turn, up to the first that fails. What is returned is the rowid that was
reported for the last one, and how many there were. -/
def insertAll (q : Query) (last : Option Int64) (count : Nat) :
    List Record → Op (Registry σ) (Option Int64 × Nat)
  | [] => return (last, count)
  | record :: rest => do
    let r ← write q (.named record)
    insertAll q (some r.lastRowid) (count + 1) rest

/-- Inserts every record as one unit of work, and returns the rowid of the last one, or nothing if
there are no records. Errors are not wrapped, as those of a transaction are. -/
def insertMany (name : String) (records : List Record) : Op (Registry σ) (Option Int64) :=
  .untraced (tracedBatch () name fun q => Op.traced (insertAll q none 0 records))

theorem settle_error (e : Error) (l : Logged (Registry σ)) :
    ((settle (.error e) : Action (Registry σ) (Except Error α)).run l).1 = .error e := rfl

omit [Engine σ] in
theorem depth_deepen {body : Action (Registry σ) α} {l : Logged (Registry σ)}
    (h : ∀ m, (body.run m).2.state.depth = m.state.depth) :
    ((deepen body).run l).2.state.depth = l.state.depth := by
  have hm := h { l with state := { l.state with depth := l.state.depth + 1 } }
  show
    (body.run { l with state := { l.state with depth := l.state.depth + 1 } }).2.state.depth - 1 =
      l.state.depth
  rw [hm]
  exact Nat.add_sub_cancel ..

end Registry

end NamedSql
