import NamedSql.Proofs.Registry.Units

/-!
# What a script executes

Inside an open unit of work a script does two things to a registry: it executes statements one after
the other, and it marks the outermost unit if a unit inside it fails. This file lists the statements
and reads the failed units off the answers, and proves that nothing else happens.

## Scope

Whether a statement is executed depends on what was executed before it, because a step that fails
may end the unit that it stands in. The list is therefore taken along the run, and starts in the
state in which the script does.

## Main definitions

* `Step.executed`, `Script.executed`, `Batch.executed` — the statements in the order of execution
* `Answer.failedUnit` — whether a unit has failed, however deep inside
* `Engine.after`, `Registry.went` — what statements and failed units do to a registry
* `Engine.keepsOpen` — whether no statement ends the transaction of the engine

## Main results

* `Script.state_run` — the state after a script, from what was executed and what was answered
* `Engine.origin_after` — statements that keep the transaction open keep its origin
-/

namespace NamedSql

/-! ### Statements in order -/

variable {σ : Type} [Engine σ]

namespace Engine

/-- The engine once statements have been executed in order. -/
def after (s : σ) (done : List Invocation) : σ :=
  done.foldl (fun s i => (call s i.query.sql i.params).1) s

@[simp] theorem after_nil (s : σ) : after s [] = s := rfl

theorem after_cons (s : σ) (i : Invocation) (rest : List Invocation) :
    after s (i :: rest) = after (call s i.query.sql i.params).1 rest := rfl

theorem after_append (s : σ) (done rest : List Invocation) :
    after s (done ++ rest) = after (after s done) rest := by
  rw [after, List.foldl_append]
  rfl

variable [Transactional σ]

/-- Whether a transaction is open after each of the statements that are executed in order. -/
def keepsOpen (s : σ) : List Invocation → Bool
  | [] => true
  | i :: rest =>
    let t := (call s i.query.sql i.params).1
    !Transactional.isAutocommit t && keepsOpen t rest

/-- Statements that keep the transaction open keep its origin. -/
theorem origin_after {s : σ} {d : Transactional.Database σ} {done : List Invocation}
    (h : Transactional.origin s = some d) (hk : keepsOpen s done = true) :
    Transactional.origin (after s done) = some d := by
  induction done generalizing s with
  | nil => exact h
  | cons i rest ih =>
    rw [keepsOpen, Bool.and_eq_true, Bool.not_eq_true',
      Transactional.isAutocommit_eq_false_iff] at hk
    obtain ⟨⟨e, he⟩, hr⟩ := hk
    rw [after_cons]
    refine ih ?_ hr
    rcases Transactional.origin_call h i.query.sql i.params with hd | hn
    · exact hd
    · rw [hn] at he
      cases he

end Engine

namespace Registry

/-- The registry once statements have been executed and, possibly, a unit has failed. -/
def went (r : Registry σ) (done : List Invocation) (failed : Bool) : Registry σ :=
  { r with session := Engine.after r.session done, rollbackOnly := r.rollbackOnly || failed }

@[simp] theorem went_nil (r : Registry σ) : r.went [] false = r := by
  simp [went]

theorem went_went (r : Registry σ) (done rest : List Invocation) (failed failed' : Bool) :
    (r.went done failed).went rest failed' = r.went (done ++ rest) (failed || failed') := by
  simp [went, Engine.after_append, Bool.or_assoc]

theorem state_invoked (l : Logged (Registry σ)) (i : Invocation) :
    (l.invoked i).state = l.state.went [i] false := by
  simp [Logged.invoked, went, Engine.after_cons]

theorem state_foldl_invoked (l : Logged (Registry σ)) (done : List Invocation) :
    (done.foldl Logged.invoked l).state = l.state.went done false := by
  induction done generalizing l with
  | nil => rw [went_nil]; rfl
  | cons i rest ih => rw [List.foldl_cons, ih, state_invoked, went_went]; rfl

/-! ### Refusals -/

end Registry

namespace Error

/-- Whether an error refuses a call because of the name or the kind of the query, before anything
is done. -/
def isRefusal : Error → Bool
  | .unknownQuery _ | .kindMismatch .. => true
  | _ => false

end Error

namespace Registry

omit [Engine σ] in
theorem isRefusal_of_chosen {r : Registry σ} {a : Accessor} {name : String} {e : Error}
    (h : r.chosen a name = .error e) : e.isRefusal = true := by
  rw [chosen, found] at h
  cases hq : r.query? name with
  | none =>
    rw [hq] at h
    cases h
    rfl
  | some q =>
    rw [hq] at h
    dsimp only at h
    split at h
    · cases h
    · cases h
      rfl

end Registry

/-! ### Failed units -/

mutual

/-- Whether a unit of work has failed: the transaction or the batch that the answer is to, or one
inside it. A batch that was refused has not begun. -/
def Answer.failedUnit : Answer → Bool
  | .transaction r steps => !r.isOk || Answer.anyFailedUnit steps
  | .insertedMany (.error e) _ => !e.isRefusal
  | .insertedMany (.ok _) before => Answer.anyFailedUnit before
  | _ => false

/-- Whether a unit of work has failed in any of the steps that the answers are to. -/
def Answer.anyFailedUnit : List Answer → Bool
  | [] => false
  | a :: rest => a.failedUnit || Answer.anyFailedUnit rest

end

theorem Answer.anyFailedUnit_append (answers rest : List Answer) :
    anyFailedUnit (answers ++ rest) = (anyFailedUnit answers || anyFailedUnit rest) := by
  induction answers with
  | nil => rfl
  | cons a answers ih => rw [List.cons_append, anyFailedUnit, anyFailedUnit, ih, Bool.or_assoc]

/-- Whether the answer is to a unit of work. A batch that was refused has not become one. -/
def Answer.isUnit : Answer → Bool
  | .transaction .. | .insertedMany (.ok _) _ => true
  | .insertedMany (.error e) _ => !e.isRefusal
  | _ => false

/-- A call or an insertion on its own may fail, and a batch may be refused, without a failed
unit. -/
theorem Answer.anyFailedUnit_eq_false {answers : List Answer}
    (h : ∀ a ∈ answers, a.isUnit = false) : anyFailedUnit answers = false := by
  induction answers with
  | nil => rfl
  | cons a answers ih =>
    have ha : a.failedUnit = false := by
      have hu := h a List.mem_cons_self
      match a with
      | .insertedMany (.error _) _ => exact hu
      | .names _ | .flag _ | .query _ | .output _ | .insertedOne _ => rfl
    rw [anyFailedUnit, ha, ih fun b hb => h b (List.mem_cons_of_mem a hb)]
    rfl

/-! ### Executed statements -/

open Registry (invocations transactionStart batchStart written)

mutual

/-- The statements that a step executes inside an open unit. -/
def Step.executed (l : Logged (Registry σ)) : Step → List Invocation
  | .names | .contains _ | .hasFunction _ | .query _ => []
  | .call name params => invocations (l.state.found name) params
  | .access a name params => invocations (l.state.chosen a name) params
  | .insertOne name record => invocations (l.state.chosen .insert name) (.named record)
  | .insertMany name batch =>
    match l.state.chosen .insert name with
    | .ok q => batch.executed q (l.noting (batchStart l name)).deeper
    | .error _ => []
  | .transaction body _ => body.executed (l.noting (transactionStart l)).deeper

/-- The statements that a script executes up to the first decisive step that fails. -/
def Script.executed (l : Logged (Registry σ)) : Script → List Invocation
  | .nil => []
  | .cons decisive step rest =>
    match if decisive then (step.run.run l).1.error? else none with
    | some _ => step.executed l
    | none => step.executed l ++ rest.executed (step.run.run l).2

/-- The statements that every step of a script executes. -/
def Script.executedAll (l : Logged (Registry σ)) : Script → List Invocation
  | .nil => []
  | .cons _ step rest => step.executed l ++ rest.executedAll (step.run.run l).2

/-- The statements that a batch executes up to the first record that cannot be inserted. -/
def Batch.executed (q : Query) (l : Logged (Registry σ)) : Batch → List Invocation
  | .nil => []
  | .cons before record rest =>
    let m := (before.runAll.run l).2
    let i : Invocation := ⟨q, .named record⟩
    match written q (.named record) m.state.session with
    | .error _ => before.executedAll l ++ [i]
    | .ok _ => before.executedAll l ++ i :: rest.executed q (m.invoked i)

end

/-- The closure of a unit of work: a script, and what becomes of its answers if no decisive step of
it has failed. -/
def Script.closure {α : Type} (body : Script) (finish : List Answer → Except Error α) :
    Action (Registry σ) (Outcome (List Answer) α) := do
  let (answers, failure) ← body.run
  return ⟨(failure.map .error).getD (finish answers), answers⟩

/-! ### Runs -/

theorem Script.run_cons (decisive : Bool) (step : Step) (rest : Script) (l : Logged (Registry σ)) :
    (Script.cons decisive step rest).run.run l =
      let p := step.run.run l
      match if decisive then p.1.error? else none with
      | some e => (([p.1], some e), p.2)
      | none =>
        let r := rest.run.run p.2
        ((p.1 :: r.1.1, r.1.2), r.2) := by
  rw [Script.run, Action.run_bind]
  dsimp only
  cases if decisive then (step.run.run l).1.error? else none with
  | none => rfl
  | some e => rfl

theorem Script.runAll_cons (decisive : Bool) (step : Step) (rest : Script)
    (l : Logged (Registry σ)) :
    (Script.cons decisive step rest).runAll.run l =
      let p := step.run.run l
      let r := rest.runAll.run p.2
      (p.1 :: r.1, r.2) := by
  rw [Script.runAll]
  rfl

theorem Batch.run_cons (q : Query) (last : Option Int64) (count : Nat) (before : Script)
    (record : Record) (rest : Batch) (l : Logged (Registry σ)) :
    ((Batch.cons before record rest).run q last count).run l =
      let p := before.runAll.run l
      let m := p.2.invoked ⟨q, .named record⟩
      match written q (.named record) p.2.state.session with
      | .error e => (⟨.error e, p.1⟩, m)
      | .ok r =>
        let o := (rest.run q (some r.lastRowid) (count + 1)).run m
        (⟨o.1.result, p.1 ++ o.1.trace⟩, o.2) := by
  rw [Batch.run, Action.run_bind, Action.run_bind, Registry.run_write]
  dsimp only
  cases written q (.named record) (before.runAll.run l).2.state.session with
  | error e => rfl
  | ok r => rfl

/-- A batch fails only because a record could not be inserted, which refuses nothing. -/
theorem Batch.isRefusal_run {q : Query} {e : Error} {b : Batch} {last : Option Int64} {count : Nat}
    {l : Logged (Registry σ)} (h : ((b.run q last count).run l).1.result = .error e) :
    e.isRefusal = false := by
  match b with
  | .nil => cases h
  | .cons before record rest =>
    rw [run_cons] at h
    dsimp only at h
    cases hw : written q (.named record) (before.runAll.run l).2.state.session with
    | error f =>
      rw [hw] at h
      cases h
      obtain ⟨g, rfl⟩ := Registry.eq_callError_of_written hw
      rfl
    | ok r =>
      rw [hw] at h
      exact Batch.isRefusal_run h

/-- A transaction inside another unit. -/
theorem Step.run_transaction {l : Logged (Registry σ)} (h : 0 < l.state.depth) (body : Script)
    (finish : Finish) :
    (Step.transaction body finish).run.run l =
      let p := body.run.run (l.noting (transactionStart l)).deeper
      let o : Outcome (List Answer) Unit := ⟨(p.1.2.map .error).getD finish.result, p.1.1⟩
      let r := o.result.mapError Error.wrap
      (.transaction r p.1.1,
        (p.2.shallower.marked o.failed).noting (Registry.transactionEnd l r)) := by
  have hc : (Step.transaction body finish).run.run l =
      let p := (Registry.tracedTransaction [] (body.closure fun _ => finish.result)).run l
      (.transaction p.1.result p.1.trace, p.2) := rfl
  rw [hc, Registry.run_tracedTransaction_of_pos h]
  rfl

/-- A batch inside another unit. -/
theorem Step.run_insertMany {l : Logged (Registry σ)} (h : 0 < l.state.depth) (name : String)
    (batch : Batch) :
    (Step.insertMany name batch).run.run l =
      match l.state.chosen .insert name with
      | .error e => (.insertedMany (.error e) [], l)
      | .ok q =>
        let p := (batch.run q none 0).run (l.noting (batchStart l name)).deeper
        (.insertedMany (p.1.result.map (·.1)) p.1.trace,
          (p.2.shallower.marked p.1.failed).noting (Registry.batchEnd l p.1.result)) := by
  have hc : (Step.insertMany name batch).run.run l =
      let p := (Registry.tracedBatch [] name fun q => batch.run q none 0).run l
      (.insertedMany p.1.result p.1.trace, p.2) := rfl
  rw [hc, Registry.run_tracedBatch_of_pos h]
  cases l.state.chosen .insert name with
  | error e => rfl
  | ok q => rfl

/-! ### What a run leaves -/

theorem isOk_mapError {ε δ α : Type} (f : ε → δ) (r : Except ε α) :
    (r.mapError f).isOk = r.isOk := by
  cases r with
  | error e => rfl
  | ok a => rfl

/-- What a unit inside another one has done is what its body has done, and the mark that its own
failure leaves. -/
theorem Registry.state_marked_shallower {l m : Logged (Registry σ)} {done : List Invocation}
    {failed : Bool} (h : m.state = l.deeper.state.went done failed) (failed' : Bool) :
    (m.shallower.marked failed').state = l.state.went done (failed' || failed) := by
  rw [Bool.or_comm]
  simp only [Logged.marked, Logged.shallower, h, Registry.went, Bool.or_assoc]
  rfl

mutual

/-- **Inside an open unit a step executes its statements and marks the outermost unit if a unit in
it fails, and it does nothing else.** -/
theorem Step.state_run : ∀ (s : Step) {l : Logged (Registry σ)}, 0 < l.state.depth →
    (s.run.run l).2.state = l.state.went (s.executed l) (s.run.run l).1.failedUnit
  | .names, l, _ | .contains _, l, _ | .hasFunction _, l, _ | .query _, l, _ =>
    (Registry.went_nil l.state).symm
  | .call name params, l, _ =>
    (congrArg Logged.state (Registry.state_run_call name params l)).trans
      (Registry.state_foldl_invoked l _)
  | .access a name params, l, _ =>
    (congrArg Logged.state (Registry.state_run_access a name params l)).trans
      (Registry.state_foldl_invoked l _)
  | .insertOne name record, l, _ =>
    (congrArg Logged.state (Registry.state_run_insertOne name record l)).trans
      (Registry.state_foldl_invoked l _)
  | .insertMany name batch, l, h => by
    rw [Step.run_insertMany h, Step.executed]
    cases hq : l.state.chosen .insert name with
    | error e =>
      dsimp only
      rw [Answer.failedUnit, Registry.isRefusal_of_chosen hq]
      exact (Registry.went_nil l.state).symm
    | ok q =>
      have hb := batch.state_run q none 0 (l := (l.noting (batchStart l name)).deeper)
        (Nat.succ_pos _)
      dsimp only
      rw [Logged.state_noting, Registry.state_marked_shallower hb, Logged.state_noting]
      -- The answer tells a failed batch from a refused one by its error.
      cases hr : ((batch.run q none 0).run (l.noting (batchStart l name)).deeper).1.result with
      | error e =>
        rw [Outcome.failed, hr, Except.map, Answer.failedUnit, Batch.isRefusal_run hr]
        rfl
      | ok r => rw [Outcome.failed, hr, Except.map, Answer.failedUnit]; rfl
  | .transaction body finish, l, h => by
    have hb := body.state_run (l := (l.noting (transactionStart l)).deeper) (Nat.succ_pos _)
    rw [Step.run_transaction h, Step.executed]
    dsimp only
    rw [Logged.state_noting, Registry.state_marked_shallower hb, Logged.state_noting,
      Answer.failedUnit, isOk_mapError, Outcome.failed]

/-- **Inside an open unit a script executes its statements in order and marks the outermost unit if
a unit in it fails, and it does nothing else.** -/
theorem Script.state_run : ∀ (s : Script) {l : Logged (Registry σ)}, 0 < l.state.depth →
    (s.run.run l).2.state =
      l.state.went (s.executed l) (Answer.anyFailedUnit (s.run.run l).1.1)
  | .nil, l, _ => (Registry.went_nil l.state).symm
  | .cons decisive step rest, l, h => by
    have hs := step.state_run h
    have hd : 0 < (step.run.run l).2.state.depth := by
      rw [hs]
      exact h
    have hr := rest.state_run hd
    rw [Script.run_cons, Script.executed]
    dsimp only
    split
    · rw [hs, Answer.anyFailedUnit, Answer.anyFailedUnit, Bool.or_false]
    · rw [hr, hs, Registry.went_went, Answer.anyFailedUnit]

theorem Script.state_runAll : ∀ (s : Script) {l : Logged (Registry σ)}, 0 < l.state.depth →
    (s.runAll.run l).2.state =
      l.state.went (s.executedAll l) (Answer.anyFailedUnit (s.runAll.run l).1)
  | .nil, l, _ => (Registry.went_nil l.state).symm
  | .cons decisive step rest, l, h => by
    have hs := step.state_run h
    have hd : 0 < (step.run.run l).2.state.depth := by
      rw [hs]
      exact h
    have hr := rest.state_runAll hd
    rw [Script.runAll_cons, Script.executedAll]
    dsimp only
    rw [hr, hs, Registry.went_went, Answer.anyFailedUnit]

theorem Batch.state_run : ∀ (b : Batch) (q : Query) (last : Option Int64) (count : Nat)
    {l : Logged (Registry σ)}, 0 < l.state.depth →
    ((b.run q last count).run l).2.state =
      l.state.went (b.executed q l) (Answer.anyFailedUnit ((b.run q last count).run l).1.trace)
  | .nil, _, _, _, l, _ => (Registry.went_nil l.state).symm
  | .cons before record rest, q, last, count, l, h => by
    have hp := before.state_runAll h
    have hm : ((before.runAll.run l).2.invoked ⟨q, .named record⟩).state =
        l.state.went (before.executedAll l ++ [⟨q, .named record⟩])
          (Answer.anyFailedUnit (before.runAll.run l).1) := by
      rw [Registry.state_invoked, hp, Registry.went_went, Bool.or_false]
    rw [Batch.run_cons, Batch.executed]
    dsimp only
    cases written q (.named record) (before.runAll.run l).2.state.session with
    | error e => exact hm
    | ok r =>
      have hd : 0 < ((before.runAll.run l).2.invoked ⟨q, .named record⟩).state.depth := by
        rw [hm]
        exact h
      dsimp only
      rw [rest.state_run q (some r.lastRowid) (count + 1) hd, hm, Registry.went_went,
        Answer.anyFailedUnit_append, List.append_assoc, List.singleton_append]

end

end NamedSql
