import NamedSql.Proofs.Registry.Accessors
import NamedSql.Proofs.Registry.Quiescence

/-!
# Causes of failures

What is at the bottom of the failure of a step. A failure passes through the closures that let it
through and is wrapped by transactions on its way, and nothing else becomes of it. So the cause is
found by following the run to the place where the failure began: a name that is refused, a statement
that cannot be called, an error of a closure's own, or a unit that does not begin or is not
committed.

## Scope

Failures that a closure swallows have no part in the cause, except that a unit that has failed keeps
the outermost one from being committed. An error that a closure raises is a cause of its own,
whatever it says.

## Main definitions

* `Cause`, `Cause.error` — the causes, and the error that each begins as
* `Cause.Possible` — what a cause can be, at a depth and with closures that raise some errors
* `Registry.failure?` — why the statement of a query cannot be called
* `Step.cause?`, `Script.cause?`, `Batch.cause?` — the cause of a failure, found along the run
* `Step.raised`, `Script.raised`, `Batch.raised` — what closures return of their own accord

## Main results

* `Step.rootCause_run` — the error of a step has the error of the cause at its bottom
* `Registry.rootCause_transacted` — the same of a transaction that returns something
* `Step.possible_of_cause?` — what is raised is raised by a closure inside, and inside of an open
  unit no cause is that of an outermost one
-/

namespace NamedSql

open Registry (transactionStart batchStart written callError)
open Transactional (isAutocommit)

variable {σ : Type}

/-! ### Errors of results -/

section

variable {ε δ α β : Type}

/-- The error of a result, if it is one. What a success has brought is dropped. -/
def errorOf? : Except ε α → Option ε
  | .error e => some e
  | .ok _ => none

@[simp] theorem errorOf?_error (e : ε) : errorOf? (.error e : Except ε α) = some e := rfl

@[simp] theorem errorOf?_ok (a : α) : errorOf? (.ok a : Except ε α) = none := rfl

@[simp] theorem errorOf?_map (f : α → β) (r : Except ε α) : errorOf? (r.map f) = errorOf? r := by
  cases r <;> rfl

@[simp] theorem errorOf?_mapError (f : ε → δ) (r : Except ε α) :
    errorOf? (r.mapError f) = (errorOf? r).map f := by
  cases r <;> rfl

theorem errorOf?_eq_some_iff {r : Except ε α} {e : ε} : errorOf? r = some e ↔ r = .error e := by
  cases r <;> simp

end

/-! ### Causes -/

/-- What is at the bottom of a failure, told apart by where it has come up. -/
inductive Cause where
  /-- The name or the kind of a query is refused, before anything is executed. -/
  | refused (e : Error)
  /-- The statement of a query cannot be called, or fails while it runs. -/
  | statement (q : Query) (f : Sql.Failure)
  /-- A closure has returned an error of its own, which may be any error. -/
  | raised (e : Error)
  /-- An outermost unit has not begun, since the engine refuses to begin a transaction. -/
  | unbegun (f : Sql.Fault)
  /-- An outermost unit may not be committed, because a unit inside it has failed. -/
  | marked
  /-- An outermost unit could not be committed, though its body has succeeded. -/
  | uncommitted (f : Sql.Fault)
deriving DecidableEq

namespace Cause

/-- The error that a failure begins as, before any unit of work has wrapped it. -/
def error : Cause → Error
  | .refused e => e
  | .statement q f => callError q f
  | .raised e => e.rootCause
  | .unbegun f => .ofFault "begin" f
  | .marked => .rollbackOnly
  | .uncommitted f => .ofFault "commit" f

/-- What a cause can be, by how many units are open and which errors the closures raise: only a name
or a kind is refused, only where no unit is open an outermost one begins and ends, and it does not
begin if the engine has a transaction of its own open. -/
def Possible (depth : Nat) (raised : List Error) : Cause → Prop
  | .refused e => e.isRefusal = true
  | .statement .. => True
  | .raised e => e ∈ raised
  | .unbegun f => depth = 0 ∧ f = .nestedTransaction
  | .marked | .uncommitted _ => depth = 0

theorem Possible.mono {depth depth' : Nat} {raised raised' : List Error} {c : Cause}
    (h : c.Possible depth raised) (hd : depth = 0 → depth' = 0)
    (hr : ∀ e ∈ raised, e ∈ raised') : c.Possible depth' raised' := by
  cases c with
  | refused e => exact h
  | statement q f => trivial
  | raised e => exact hr e h
  | unbegun f => exact ⟨hd h.1, h.2⟩
  | marked => exact hd h
  | uncommitted f => exact hd h

end Cause

namespace Registry

/-! ### Statements that cannot be called -/

/-- Reads what a statement has delivered as the shape of its query prescribes, and keeps only
whether that succeeds. -/
def readAs (shape : QueryShape) (e : Sql.Execution) : Except Sql.Failure Unit :=
  match shape with
  | .run | .changes | .lastRowId | .insert => e.written
  | .get none => (e.first e.record).map fun _ => ()
  | .get (some column) => (e.first (e.pluck (some column))).map fun _ => ()
  | .all none => (e.every e.record).map fun _ => ()
  | .all (some column) => (e.every (e.pluck (some column))).map fun _ => ()
  | .one => (e.first (e.pluck none)).map fun _ => ()
  | .list => (e.every (e.pluck none)).map fun _ => ()
  | .exists => e.hasRow.map fun _ => ()

variable {α : Type}

theorem errorOf?_fmap {β : Type} (f : α → β) (x : Op (Registry σ) α) (l : Logged (Registry σ)) :
    errorOf? ((f <$> x).run.run l).1 = errorOf? (x.run.run l).1 := by
  rw [Op.run_map, errorOf?_map]

theorem eq_ofShape_of_chosen {r : Registry σ} {a : Accessor} {name : String} {q : Query}
    (h : r.chosen a name = .ok q) : a = .ofShape q.shape := by
  rw [chosen] at h
  cases hf : r.found name with
  | error e =>
    rw [hf] at h
    cases h
  | ok q' =>
    rw [hf] at h
    dsimp only at h
    split at h
    · rename_i ha
      cases h
      exact Accessor.eq_ofShape ha
    · cases h

/-- A query that inserts is read as what is run for its effect. -/
theorem readAs_of_chosen {r : Registry σ} {name : String} {q : Query}
    (h : r.chosen .insert name = .ok q) (e : Sql.Execution) : readAs q.shape e = e.written := by
  have hs := eq_ofShape_of_chosen h
  obtain ⟨qname, sql, line, shape⟩ := q
  cases shape with
  | get column => cases column <;> cases hs
  | all column => cases column <;> cases hs
  | insert => rfl
  | _ => cases hs

theorem run_typed_bind (a : Accessor) (name : String) (f : Query → Op (Registry σ) α)
    (l : Logged (Registry σ)) :
    (typed a name >>= f).run.run l =
      match l.state.chosen a name with
      | .ok q => (f q).run.run l
      | .error e => (.error e, l) := by
  rw [Op.run_bind, run_typed]
  cases l.state.chosen a name with
  | error e => rfl
  | ok q => rfl

variable [Engine σ]

/-- Why the statement of a query cannot be called with parameters, if it cannot. -/
def failure? (q : Query) (params : Params) (s : σ) : Option Sql.Failure :=
  errorOf? ((Engine.call s q.sql params).2.bind (readAs q.shape))

/-- The error of a call that reads as the shape prescribes, and more. -/
theorem errorOf?_invoke {q : Query} {params : Params} {read : Sql.Execution → Except Sql.Failure α}
    (hread : ∀ e, (read e).map (fun _ => ()) = readAs q.shape e) (l : Logged (Registry σ)) :
    errorOf? ((invoke q params read).run.run l).1 =
      (failure? q params l.state.session).map (callError q) := by
  rw [run_invoke, errorOf?_mapError, failure?]
  cases (Engine.call l.state.session q.sql params).2 with
  | error f => rfl
  | ok e =>
    change (errorOf? (read e)).map _ = (errorOf? (readAs q.shape e)).map _
    rw [← hread, errorOf?_map]

theorem errorOf?_written {q : Query} (hq : ∀ e : Sql.Execution, readAs q.shape e = e.written)
    (params : Params) (s : σ) :
    errorOf? (written q params s) = (failure? q params s).map (callError q) := by
  rw [written, failure?, errorOf?_map, errorOf?_mapError]
  cases (Engine.call s q.sql params).2 with
  | error f => rfl
  | ok e =>
    change (errorOf? e.written).map _ = (errorOf? (readAs q.shape e)).map _
    rw [hq]

/-- A query fails in general exactly if its statement cannot be called. -/
theorem errorOf?_perform (q : Query) (params : Params) (l : Logged (Registry σ)) :
    errorOf? ((perform q params).run.run l).1 =
      (failure? q params l.state.session).map (callError q) := by
  obtain ⟨name, sql, line, shape⟩ := q
  have hw : ∀ q : Query, (∀ e : Sql.Execution, readAs q.shape e = e.written) →
      errorOf? ((write q params).run.run l).1 =
        (failure? q params l.state.session).map (callError q) := by
    intro q hq
    rw [run_write, errorOf?_written hq]
  cases shape with
  | run | changes | lastRowId | insert =>
    exact (errorOf?_fmap _ _ l).trans (hw _ fun _ => rfl)
  | get column | all column =>
    cases column <;> exact (errorOf?_fmap _ _ l).trans (errorOf?_invoke (fun _ => rfl) l)
  | one | list | «exists» =>
    exact (errorOf?_fmap _ _ l).trans (errorOf?_invoke (fun _ => rfl) l)

/-- An accessor that is let through does what a general call does. -/
theorem run_access (a : Accessor) (name : String) (params : Params) (l : Logged (Registry σ)) :
    (access a name params).run.run l =
      match l.state.chosen a name with
      | .ok q => (perform q params).run.run l
      | .error e => (.error e, l) := by
  have hm : ∀ {α : Type} (g : α → QueryOutput) (f : Query → Op (Registry σ) α),
      (g <$> (typed a name >>= f)).run.run l =
        match l.state.chosen a name with
        | .ok q => (g <$> f q).run.run l
        | .error e => (.error e, l) := by
    intro α g f
    rw [map_bind]
    exact run_typed_bind a name _ l
  -- One part of what a write returns may be taken before or after it becomes an output.
  have hw : ∀ {α : Type} (part : RunResult → α) (out : α → QueryOutput) (q : Query),
      (out <$> (write q params >>= fun r => pure (part r)) : Op (Registry σ) QueryOutput) =
        (fun r => out (part r)) <$> write q params := by
    intro α part out q
    rw [bind_pure_comp, Functor.map_map]
  cases hc : l.state.chosen a name with
  | error e =>
    rw [hc] at hm
    cases a with
    | insert => exact (run_typed_bind _ _ _ l).trans (by rw [hc])
    | _ => exact hm _ _
  | ok q =>
    rw [hc] at hm
    obtain rfl := eq_ofShape_of_chosen hc
    obtain ⟨qname, sql, line, shape⟩ := q
    cases shape with
    | changes =>
      refine (hm _ _).trans ?_
      dsimp only
      rw [hw RunResult.changes QueryOutput.changes]
      rfl
    | lastRowId =>
      refine (hm _ _).trans ?_
      dsimp only
      rw [hw RunResult.lastRowid QueryOutput.lastRowId]
      rfl
    | insert =>
      refine (run_typed_bind _ _ _ l).trans ?_
      dsimp only [Accessor.ofShape] at hc ⊢
      rw [hc]
      dsimp only
      rw [bind_pure_comp]
      rfl
    | get column => cases column <;> exact hm _ _
    | all column => cases column <;> exact hm _ _
    | _ => exact hm _ _

/-- What is returned of a query, called in general or by an accessor, is what performing it
returns. -/
theorem perform_of_returned {l : Logged (Registry σ)} {name : String} {q : Query} {params : Params}
    {out : QueryOutput} (hq : l.state.query? name = some q)
    (h : ((call name params).run.run l).1 = .ok out ∨
      ∃ a, ((access a name params).run.run l).1 = .ok out) :
    ((perform q params).run.run l).1 = .ok out := by
  rcases h with h | ⟨a, h⟩
  · rwa [run_call_of_query? hq] at h
  · rw [run_access, chosen, found_of_query? hq] at h
    dsimp only at h
    split at h
    · rename_i q' hchosen
      split at hchosen
      · cases hchosen
        exact h
      · cases hchosen
    · cases h

/-! ### Units -/

/-- What keeps a unit from being committed whose body has succeeded, if something does: an outermost
one may be marked, or the engine may not accept what has been done. -/
def obstacle? (l : Logged (Registry σ)) (left : Registry σ) : Option Cause :=
  if 0 < l.state.depth then none
  else if left.rollbackOnly then some .marked
  else (Engine.control left.session .commit).2.map .uncommitted

theorem errorOf?_verdict (r : Registry σ) (x : Except Error α) :
    errorOf? (r.verdict x) =
      (errorOf? x).or
        ((if r.rollbackOnly then some Cause.marked
          else (Engine.control r.session .commit).2.map .uncommitted).map Cause.error) := by
  cases x with
  | error e => rfl
  | ok a =>
    rw [verdict]
    cases r.rollbackOnly with
    | true => rfl
    | false =>
      simp only [Bool.false_eq_true, if_false]
      cases (Engine.control r.session .commit).2 with
      | none => rfl
      | some f => rfl

/-- A unit fails because it does not begin, because its body fails, or because something keeps it
from being committed. -/
theorem errorOf?_unit [Transactional σ] {τ : Type} (l : Logged (Registry σ)) (e : Log.Event)
    (skipped : τ) (body : Action (Registry σ) (Outcome τ α)) :
    errorOf? ((unit skipped body).run (l.noting e)).1.result =
      match l.entered e with
      | none => some (.ofFault "begin" .nestedTransaction)
      | some m =>
        (errorOf? (body.run m).1.result).or
          ((obstacle? l (body.run m).2.state).map Cause.error) := by
  unfold Logged.entered obstacle?
  by_cases hd : 0 < l.state.depth
  · have hn : 0 < (l.noting e).state.depth := hd
    rw [if_pos hd, run_unit_of_pos hn, run_joined]
    dsimp only
    rw [if_pos hd, Option.map_none, Option.or_none]
  · have hn : (l.noting e).state.depth = 0 := Nat.eq_zero_of_not_pos hd
    rw [if_neg hd, run_unit_of_zero hn]
    cases ha : isAutocommit l.state.session with
    | false =>
      have hc : isAutocommit (l.noting e).state.session = false := ha
      rw [run_outermost_of_open hc]
      rfl
    | true =>
      have hc : isAutocommit (l.noting e).state.session = true := ha
      rw [run_outermost hc]
      dsimp only
      rw [if_pos rfl, fst_run_settle, errorOf?_verdict]
      dsimp only
      rw [if_neg hd]
      rfl

/-- Why a unit fails that is announced by an event, if it does: it does not begin, its body fails,
or something keeps it from being committed. -/
def unitCause? [Transactional σ] (l : Logged (Registry σ)) (e : Log.Event)
    (inside : Logged (Registry σ) → Option Cause) (left : Logged (Registry σ) → Registry σ) :
    Option Cause :=
  match l.entered e with
  | none => some (.unbegun .nestedTransaction)
  | some m => (inside m).or (obstacle? l (left m))

/-- What keeps a unit from being committed is not wrapped, so it is its own cause. -/
theorem rootCause_obstacle (l : Logged (Registry σ)) (left : Registry σ) :
    ((obstacle? l left).map Cause.error).map Error.rootCause =
      (obstacle? l left).map Cause.error := by
  rw [obstacle?]
  split
  · rfl
  · split
    · rfl
    · cases (Engine.control left.session .commit).2 <;> rfl

/-- A unit whose body fails with its cause at the bottom does so too. -/
theorem rootCause_unit [Transactional σ] {τ : Type} {body : Action (Registry σ) (Outcome τ α)}
    {inside : Logged (Registry σ) → Option Cause}
    (h : ∀ m, (errorOf? (body.run m).1.result).map Error.rootCause = (inside m).map Cause.error)
    (l : Logged (Registry σ)) (e : Log.Event) (skipped : τ) :
    (errorOf? ((unit skipped body).run (l.noting e)).1.result).map Error.rootCause =
      (unitCause? l e inside fun m => (body.run m).2.state).map Cause.error := by
  rw [errorOf?_unit, unitCause?]
  cases l.entered e with
  | none => rfl
  | some m =>
    dsimp only
    rw [Option.map_or, Option.map_or, h, rootCause_obstacle]

end Registry

/-! ### The cause of a failure -/

variable [Engine σ]

open Registry (failure? unitCause?)

/-- Why a call fails whose query has been looked up, if it does. -/
def Registry.callCause? (q : Except Error Query) (params : Params) (s : σ) :
    Option Cause :=
  match q with
  | .error e => some (.refused e)
  | .ok q => (failure? q params s).map (.statement q)

mutual

/-- Why a step fails, if it does. The steps that only look something up never fail. -/
def Step.cause? [Transactional σ] (l : Logged (Registry σ)) : Step → Option Cause
  | .names | .contains _ | .hasFunction _ | .query _ => none
  | .call name params => Registry.callCause? (l.state.found name) params l.state.session
  | .access a name params => Registry.callCause? (l.state.chosen a name) params l.state.session
  | .insertOne name record =>
    Registry.callCause? (l.state.chosen .insert name) (.named record) l.state.session
  | .insertMany name batch =>
    match l.state.chosen .insert name with
    | .error e => some (.refused e)
    | .ok q =>
      unitCause? l (batchStart l name) (fun m => batch.cause? q m) fun m =>
        ((batch.run q none 0).run m).2.state
  | .transaction body finish =>
    unitCause? l (transactionStart l)
      (fun m => (body.cause? m).or ((errorOf? finish.result).map .raised)) fun m =>
        (body.run.run m).2.state

/-- Why a decisive step of a script fails, if one does. The first of them ends the script. -/
def Script.cause? [Transactional σ] (l : Logged (Registry σ)) : Script → Option Cause
  | .nil => none
  | .cons decisive step rest =>
    match if decisive then (step.run.run l).1.error? else none with
    | some _ => step.cause? l
    | none => rest.cause? (step.run.run l).2

/-- Why a record of a batch cannot be inserted, if one cannot. -/
def Batch.cause? [Transactional σ] (q : Query) (l : Logged (Registry σ)) : Batch → Option Cause
  | .nil => none
  | .cons before record rest =>
    let m := (before.runAll.run l).2
    match failure? q (.named record) m.state.session with
    | some f => some (.statement q f)
    | none => rest.cause? q (m.invoked ⟨q, .named record⟩)

end

/-- Why a closure fails, if it does: a decisive step does, or the closure makes an error of the
answers. -/
def Script.closureCause? [Transactional σ] {α : Type} (body : Script)
    (finish : List Answer → Except Error α) (m : Logged (Registry σ)) : Option Cause :=
  (body.cause? m).or ((errorOf? (finish (body.run.run m).1.1)).map .raised)

/-! ### Errors and their causes -/

namespace Error

theorem rootCause_wrap (e : Error) : e.wrap.rootCause = e.rootCause := by
  cases e <;> rfl

theorem rootCause_comp_wrap : rootCause ∘ wrap = rootCause := funext rootCause_wrap

theorem rootCause_of_isRefusal {e : Error} (h : e.isRefusal = true) : e.rootCause = e := by
  cases e with
  | unknownQuery name => rfl
  | kindMismatch name expected actual => rfl
  | _ => cases h

end Error

namespace Registry

section

omit [Engine σ]

variable {r : Registry σ} {a : Accessor} {name : String} {e : Error}

theorem rootCause_of_chosen (h : r.chosen a name = .error e) : e.rootCause = e :=
  Error.rootCause_of_isRefusal (isRefusal_of_chosen h)

theorem isRefusal_of_found (h : r.found name = .error e) : e.isRefusal = true := by
  rw [found] at h
  split at h
  · cases h
  · cases h
    rfl

theorem rootCause_of_found (h : r.found name = .error e) : e.rootCause = e :=
  Error.rootCause_of_isRefusal (isRefusal_of_found h)

end

/-- The error of a call whose query has been looked up, if it fails. -/
def callError? (q : Except Error Query) (params : Params) (s : σ) : Option Error :=
  match q with
  | .error e => some e
  | .ok q => (failure? q params s).map (callError q)

theorem rootCause_callError? {q : Except Error Query} (hq : ∀ e, q = .error e → e.rootCause = e)
    (params : Params) (s : σ) :
    (callError? q params s).map Error.rootCause = (callCause? q params s).map Cause.error := by
  cases q with
  | error e => exact congrArg some (hq e rfl)
  | ok q =>
    rw [callError?, callCause?]
    cases failure? q params s <;> rfl

end Registry

theorem Script.errorOf?_closure {α : Type} (body : Script) (finish : List Answer → Except Error α)
    (m : Logged (Registry σ)) :
    errorOf? ((body.closure finish).run m).1.result =
      (body.run.run m).1.2.or (errorOf? (finish (body.run.run m).1.1)) := by
  change errorOf? (((body.run.run m).1.2.map .error).getD (finish (body.run.run m).1.1)) = _
  cases (body.run.run m).1.2 <;> rfl

namespace Answer

theorem error?_output (r : Except Error QueryOutput) : (Answer.output r).error? = errorOf? r := by
  cases r <;> rfl

theorem error?_insertedOne (r : Except Error Int64) :
    (Answer.insertedOne r).error? = errorOf? r := by
  cases r <;> rfl

theorem error?_insertedMany (r : Except Error (Option Int64)) (before : List Answer) :
    (Answer.insertedMany r before).error? = errorOf? r := by
  cases r <;> rfl

theorem error?_transaction (r : Except Error Unit) (steps : List Answer) :
    (Answer.transaction r steps).error? = errorOf? r := by
  cases r <;> rfl

end Answer

namespace Registry

theorem errorOf?_call (name : String) (params : Params) (l : Logged (Registry σ)) :
    errorOf? ((call name params).run.run l).1 =
      callError? (l.state.found name) params l.state.session := by
  rw [call, Op.run_bind, run_lookUp]
  cases l.state.found name with
  | error e => rfl
  | ok q => exact errorOf?_perform q params l

theorem errorOf?_access (a : Accessor) (name : String) (params : Params) (l : Logged (Registry σ)) :
    errorOf? ((access a name params).run.run l).1 =
      callError? (l.state.chosen a name) params l.state.session := by
  rw [run_access]
  cases l.state.chosen a name with
  | error e => rfl
  | ok q => exact errorOf?_perform q params l

theorem errorOf?_insertOne (name : String) (record : Record) (l : Logged (Registry σ)) :
    errorOf? ((insertOne name record).run.run l).1 =
      callError? (l.state.chosen .insert name) (.named record) l.state.session := by
  cases hc : l.state.chosen .insert name with
  | error e =>
    rw [insertOne, run_typed_bind, hc]
    rfl
  | ok q =>
    rw [run_insertOne hc, errorOf?_map, errorOf?_written (readAs_of_chosen hc)]
    rfl

end Registry

variable [Transactional σ]

/-- The error of a closure, if that of its script has its cause at the bottom. -/
theorem Script.rootCause_closure_of {α : Type} {body : Script} {m : Logged (Registry σ)}
    (h : (body.run.run m).1.2.map Error.rootCause = (body.cause? m).map Cause.error)
    (finish : List Answer → Except Error α) :
    (errorOf? ((body.closure finish).run m).1.result).map Error.rootCause =
      (body.closureCause? finish m).map Cause.error := by
  rw [errorOf?_closure, closureCause?, Option.map_or, Option.map_or, h, Option.map_map]
  rfl

theorem Batch.rootCause_run {q : Query} (hq : ∀ e, Registry.readAs q.shape e = e.written) :
    ∀ (b : Batch) (last : Option Int64) (count : Nat) (l : Logged (Registry σ)),
    (errorOf? ((b.run q last count).run l).1.result).map Error.rootCause =
      (b.cause? q l).map Cause.error
  | .nil, _, _, _ => rfl
  | .cons before record rest, last, count, l => by
    have hw := Registry.errorOf?_written hq (.named record) (before.runAll.run l).2.state.session
    rw [run_cons, cause?]
    dsimp only
    cases hr : written q (.named record) (before.runAll.run l).2.state.session with
    | error e =>
      rw [hr] at hw
      obtain ⟨f, hf, rfl⟩ := Option.map_eq_some_iff.mp hw.symm
      rw [hf]
      rfl
    | ok r =>
      rw [hr] at hw
      rw [Option.map_eq_none_iff.mp hw.symm]
      exact rootCause_run hq rest _ _ _

mutual

/-- **The error of a step has the error of its cause at the bottom**, and a step without a cause
does not fail. -/
theorem Step.rootCause_run : ∀ (s : Step) (l : Logged (Registry σ)),
    (s.run.run l).1.error?.map Error.rootCause = (s.cause? l).map Cause.error
  | .names, _ | .contains _, _ | .hasFunction _, _ | .query _, _ => rfl
  | .call name params, l => by
    change (Answer.output ((Registry.call name params).run.run l).1).error?.map _ = _
    rw [Answer.error?_output, Registry.errorOf?_call]
    exact Registry.rootCause_callError? (fun _ => Registry.rootCause_of_found) params _
  | .access a name params, l => by
    change (Answer.output ((Registry.access a name params).run.run l).1).error?.map _ = _
    rw [Answer.error?_output, Registry.errorOf?_access]
    exact Registry.rootCause_callError? (fun _ => Registry.rootCause_of_chosen) params _
  | .insertOne name record, l => by
    change (Answer.insertedOne ((Registry.insertOne name record).run.run l).1).error?.map _ = _
    rw [Answer.error?_insertedOne, Registry.errorOf?_insertOne]
    exact Registry.rootCause_callError? (fun _ => Registry.rootCause_of_chosen) (.named record) _
  | .insertMany name batch, l => by
    rw [Registry.run_step_insertMany, Step.cause?]
    cases hc : l.state.chosen .insert name with
    | error e => exact congrArg some (Registry.rootCause_of_chosen hc)
    | ok q =>
      dsimp only
      rw [Answer.error?_insertedMany, errorOf?_map]
      exact Registry.rootCause_unit
        (fun m => batch.rootCause_run (Registry.readAs_of_chosen hc) none 0 m) l _ []
  | .transaction body finish, l => by
    rw [Registry.run_step_transaction, Answer.error?_transaction, errorOf?_mapError,
      Option.map_map, Error.rootCause_comp_wrap, Step.cause?]
    exact Registry.rootCause_unit
      (fun m => Script.rootCause_closure_of (body.rootCause_run m) fun _ => finish.result) l _ []

/-- The error that a decisive step has ended a script with has that of its cause at the bottom. -/
theorem Script.rootCause_run : ∀ (s : Script) (l : Logged (Registry σ)),
    (s.run.run l).1.2.map Error.rootCause = (s.cause? l).map Cause.error
  | .nil, _ => rfl
  | .cons decisive step rest, l => by
    rw [Script.run_cons, Script.cause?]
    dsimp only
    cases hd : if decisive then (step.run.run l).1.error? else none with
    | none => exact rest.rootCause_run _
    | some e =>
      have hs := step.rootCause_run l
      cases decisive with
      | false => cases hd
      | true =>
        rw [if_pos rfl] at hd
        rw [hd] at hs
        exact hs

end

/-! ### Transactions whose closures return something -/

namespace Registry

variable {α : Type}

/-- What a transaction returns, from what its script does and what its closure makes of the answers.
-/
def transacted (body : Script) (finish : List Answer → Except Error α) (l : Logged (Registry σ)) :
    Except Error α :=
  ((tracedTransaction [] (body.closure finish)).run l).1.result

/-- Why a transaction fails whose closure returns something, if it does: by its body, its beginning
or its end. -/
def transactionCause? (body : Script) (finish : List Answer → Except Error α)
    (l : Logged (Registry σ)) : Option Cause :=
  unitCause? l (transactionStart l) (body.closureCause? finish) fun m => (body.run.run m).2.state

/-- **The error of a transaction has the error of its cause at the bottom**, whatever its closure
makes of the answers. -/
theorem rootCause_transacted (body : Script) (finish : List Answer → Except Error α)
    (l : Logged (Registry σ)) :
    (errorOf? (transacted body finish l)).map Error.rootCause =
      (transactionCause? body finish l).map Cause.error := by
  rw [transacted, run_tracedTransaction]
  dsimp only
  rw [errorOf?_mapError, Option.map_map, Error.rootCause_comp_wrap]
  exact rootCause_unit (fun m => Script.rootCause_closure_of (body.rootCause_run m) finish) l _ []

end Registry

/-- A step that fails has a cause, whose error is at the bottom of its own. -/
theorem Step.cause?_of_run {s : Step} {l : Logged (Registry σ)} {e : Error}
    (h : (s.run.run l).1.error? = some e) : ∃ c, s.cause? l = some c ∧ c.error = e.rootCause := by
  have hc := s.rootCause_run l
  rw [h] at hc
  exact Option.map_eq_some_iff.mp hc.symm

/-- A transaction that fails has a cause, whose error is at the bottom of its own. -/
theorem Registry.transactionCause?_of_transacted {α : Type} {body : Script}
    {finish : List Answer → Except Error α} {l : Logged (Registry σ)} {e : Error}
    (h : transacted body finish l = .error e) :
    ∃ c, transactionCause? body finish l = some c ∧ c.error = e.rootCause := by
  have hc := rootCause_transacted body finish l
  rw [h] at hc
  exact Option.map_eq_some_iff.mp hc.symm

/-! ### What closures raise -/

mutual

/-- The errors that the closures inside of a step return of their own accord. -/
def Step.raised : Step → List Error
  | .insertMany _ batch => batch.raised
  | .transaction body finish => body.raised ++ (errorOf? finish.result).toList
  | _ => []

/-- The errors that the closures in a script return of their own accord. -/
def Script.raised : Script → List Error
  | .nil => []
  | .cons _ step rest => step.raised ++ rest.raised

/-- The errors that the closures in a batch return of their own accord. -/
def Batch.raised : Batch → List Error
  | .nil => []
  | .cons before _ rest => before.raised ++ rest.raised

end

namespace Registry

section

omit [Transactional σ]

theorem possible_of_callCause? {q : Except Error Query}
    (hq : ∀ e, q = .error e → e.isRefusal = true) {params : Params} {s : σ} {c : Cause}
    (h : callCause? q params s = some c) (depth : Nat) (raised : List Error) :
    c.Possible depth raised := by
  cases q with
  | error e =>
    cases h
    exact hq e rfl
  | ok q =>
    obtain ⟨f, -, rfl⟩ := Option.map_eq_some_iff.mp h
    trivial

theorem possible_of_obstacle? {l : Logged (Registry σ)} {left : Registry σ} {c : Cause}
    (h : obstacle? l left = some c) (raised : List Error) : c.Possible l.state.depth raised := by
  rw [obstacle?] at h
  split at h
  · cases h
  · rename_i hd
    have hz : l.state.depth = 0 := Nat.eq_zero_of_not_pos hd
    split at h
    · cases h
      exact hz
    · obtain ⟨f, -, rfl⟩ := Option.map_eq_some_iff.mp h
      exact hz

end

/-- A unit fails for a cause of its body, or where it begins and ends if it is outermost. -/
theorem possible_of_unitCause? {l : Logged (Registry σ)} {e : Log.Event}
    {inside : Logged (Registry σ) → Option Cause} {left : Logged (Registry σ) → Registry σ}
    {c : Cause} {raised : List Error}
    (hi : ∀ m : Logged (Registry σ), 0 < m.state.depth → inside m = some c →
      c.Possible l.state.depth raised)
    (h : unitCause? l e inside left = some c) : c.Possible l.state.depth raised := by
  rw [unitCause?, Logged.entered] at h
  split at h
  · rename_i hm
    cases h
    split at hm
    · cases hm
    · exact ⟨Nat.eq_zero_of_not_pos ‹_›, rfl⟩
  · rename_i m hm
    have hpos : 0 < m.state.depth := by
      split at hm
      · cases hm
        exact Nat.succ_pos _
      · split at hm
        · cases hm
          exact Nat.succ_pos _
        · cases hm
    rcases Option.or_eq_some_iff.mp h with hx | ⟨-, hx⟩
    · exact hi m hpos hx
    · exact possible_of_obstacle? hx raised

end Registry

theorem Batch.possible_of_cause? {q : Query} {c : Cause} (depth : Nat) (raised : List Error) :
    ∀ (b : Batch) {l : Logged (Registry σ)}, b.cause? q l = some c → c.Possible depth raised
  | .nil, _, h => absurd h.symm (Option.some_ne_none _)
  | .cons before record rest, l, h => by
    rw [Batch.cause?] at h
    split at h
    · cases h
      trivial
    · exact rest.possible_of_cause? depth raised h

mutual

/-- **What a step can fail for.** What is raised in it is raised by a closure inside of it, and
inside of an open unit no unit fails to begin, is marked, or is kept from being committed. -/
theorem Step.possible_of_cause? {c : Cause} : ∀ (s : Step) {l : Logged (Registry σ)},
    s.cause? l = some c → c.Possible l.state.depth s.raised
  | .names, _, h | .contains _, _, h | .hasFunction _, _, h | .query _, _, h =>
    absurd h.symm (Option.some_ne_none _)
  | .call .., _, h =>
    Registry.possible_of_callCause? (fun _ => Registry.isRefusal_of_found) h _ _
  | .access .., _, h | .insertOne .., _, h =>
    Registry.possible_of_callCause? (fun _ => Registry.isRefusal_of_chosen) h _ _
  | .insertMany name batch, l, h => by
    rw [Step.cause?] at h
    cases hc : l.state.chosen .insert name with
    | error e =>
      rw [hc] at h
      cases h
      exact Registry.isRefusal_of_chosen hc
    | ok q =>
      rw [hc] at h
      exact Registry.possible_of_unitCause? (fun m _ => batch.possible_of_cause? _ _) h
  | .transaction body finish, l, h => by
    rw [Step.cause?] at h
    refine Registry.possible_of_unitCause? (fun m hm hx => ?_) h
    rw [Step.raised]
    rcases Option.or_eq_some_iff.mp hx with hb | ⟨-, hf⟩
    · exact (body.possible_of_cause? hb).mono (fun hz => absurd hz (Nat.ne_of_gt hm))
        fun e => List.mem_append_left _
    · obtain ⟨y, hy, rfl⟩ := Option.map_eq_some_iff.mp hf
      exact List.mem_append_right _ (Option.mem_toList.mpr hy)

theorem Script.possible_of_cause? {c : Cause} : ∀ (s : Script) {l : Logged (Registry σ)},
    s.cause? l = some c → c.Possible l.state.depth s.raised
  | .nil, _, h => absurd h.symm (Option.some_ne_none _)
  | .cons decisive step rest, l, h => by
    rw [Script.cause?] at h
    rw [Script.raised]
    split at h
    · exact (step.possible_of_cause? h).mono id fun e => List.mem_append_left _
    · refine (rest.possible_of_cause? h).mono (fun hz => ?_) fun e => List.mem_append_right _
      -- An open unit is still open after the step.
      refine Nat.eq_zero_of_not_pos fun hd => ?_
      rw [step.state_run hd] at hz
      exact Nat.ne_of_gt hd hz

end

/-- What a transaction can fail for whose closure returns something. -/
theorem Registry.possible_of_transactionCause? {α : Type} {body : Script}
    {finish : List Answer → Except Error α} {l : Logged (Registry σ)} {c : Cause}
    (h : transactionCause? body finish l = some c) :
    ∃ raised, c.Possible l.state.depth raised ∧
      ∀ e ∈ raised, e ∈ body.raised ∨ ∃ answers, finish answers = .error e := by
  by_cases hr : ∃ answers x, finish answers = .error x ∧ c = .raised x
  · obtain ⟨answers, x, hx, rfl⟩ := hr
    exact ⟨[x], List.mem_singleton_self x, fun e he =>
      Or.inr ⟨answers, List.mem_singleton.mp he ▸ hx⟩⟩
  · refine ⟨body.raised, possible_of_unitCause? (fun m hm hx => ?_) h, fun e => Or.inl⟩
    rcases Option.or_eq_some_iff.mp hx with hb | ⟨-, hf⟩
    · exact (body.possible_of_cause? hb).mono (fun hz => absurd hz (Nat.ne_of_gt hm)) fun _ => id
    · obtain ⟨y, hy, rfl⟩ := Option.map_eq_some_iff.mp hf
      exact absurd ⟨_, y, errorOf?_eq_some_iff.mp hy, rfl⟩ hr

end NamedSql
