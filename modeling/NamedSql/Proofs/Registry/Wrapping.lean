import NamedSql.Proofs.Registry.Causes

/-!
# One wrapper around the cause

A transaction that fails returns its error in a wrapper, and the error inside is none. An error that
was wrapped by an inner transaction and is let through by the closures around it keeps its one
wrapper, so the innermost cause comes out of every nesting as it went in.

## Scope

A closure could build a wrapper of its own, or put several around each other. What it may return
here is an error that is no wrapper, or one that it has got from an operation on a registry, of any
registry in any state. The closures inside of that operation keep to the same rule. Of the engine it
matters only whether a transaction begins and whether it is committed.

## Main definitions

* `Error.Single` — at most one wrapper is around the cause of an error
* `Returnable` — what a closure may return
* `Registry.WrapsOnce` — what a transaction returns, by what its closure has returned
* `Registry.JoinsOpenly` — what a step inside of an open unit cannot fail with

## Main results

* `Returnable.single` — what a closure may return has at most one wrapper
* `Registry.wrapped_once` — what every transaction returns, at every depth
-/

namespace NamedSql

open Registry (transactionStart batchStart unitCause? obstacle?)
open Transactional (isAutocommit)

variable {σ : Type} [Engine σ]

namespace Error

/-- Whether an error is no wrapper, and so its own cause. -/
def isBare : Error → Bool
  | .transactionAborted _ => false
  | _ => true

/-- At most one wrapper is around the cause of an error, however many units it has passed. -/
def Single (e : Error) : Prop := e = e.rootCause ∨ e = .transactionAborted e.rootCause

/-- Whether an error is one that only the bounds of an outermost unit produce. -/
def isOfBounds : Error → Bool
  | .rollbackOnly | .persistence .. => true
  | _ => false

theorem isBare_rootCause (e : Error) : e.rootCause.isBare = true := by
  cases h : e.rootCause with
  | transactionAborted source => exact absurd h (e.rootCause_ne_wrapped source)
  | _ => rfl

theorem rootCause_of_isBare {e : Error} (h : e.isBare = true) : e.rootCause = e := by
  cases e with
  | transactionAborted source => cases h
  | _ => rfl

theorem single_of_isBare {e : Error} (h : e.isBare = true) : Single e :=
  Or.inl (rootCause_of_isBare h).symm

/-- Wrapping leaves one wrapper where there was at most one: a wrapper is not wrapped again. -/
theorem wrap_of_single {e : Error} (h : Single e) : e.wrap = .transactionAborted e.rootCause := by
  cases e with
  | transactionAborted source => exact h.resolve_left (rootCause_ne_wrapped _ source).symm
  | _ => rfl

theorem single_wrap {e : Error} (h : Single e) : Single e.wrap := by
  refine Or.inr ?_
  rw [rootCause_wrap]
  exact wrap_of_single h

theorem isBare_of_isRefusal {e : Error} (h : e.isRefusal = true) : e.isBare = true := by
  cases e with
  | transactionAborted source => cases h
  | _ => rfl

end Error

open Error (Single)

/-- What a closure may return: an error that is no wrapper, or what an operation on a registry has
failed with whose closures keep to the same rule. -/
inductive Returnable : Error → Prop
  | raised {e : Error} (h : e.isBare = true) : Returnable e
  | obtained {σ : Type} [Engine σ] [Transactional σ] {e : Error} (s : Step)
      (l : Logged (Registry σ)) (hs : ∀ x ∈ s.raised, Returnable x)
      (h : (s.run.run l).1.error? = some e) : Returnable e

/-! ### Single wrappers along a run -/

namespace Registry

variable {τ α : Type} {e : Error}

section

omit [Engine σ]

theorem isBare_of_found {r : Registry σ} {name : String} (h : r.found name = .error e) :
    e.isBare = true :=
  Error.isBare_of_isRefusal (isRefusal_of_found h)

theorem isBare_of_chosen {r : Registry σ} {a : Accessor} {name : String}
    (h : r.chosen a name = .error e) : e.isBare = true :=
  Error.isBare_of_isRefusal (isRefusal_of_chosen h)

end

/-- A call fails with an error that is no wrapper. -/
theorem single_callError? {q : Except Error Query} (hq : ∀ e, q = .error e → e.isBare = true)
    {params : Params} {s : σ} (h : callError? q params s = some e) : Single e := by
  cases q with
  | error x =>
    cases h
    exact Error.single_of_isBare (hq e rfl)
  | ok q =>
    obtain ⟨f, -, rfl⟩ := Option.map_eq_some_iff.mp h
    exact Error.single_of_isBare rfl

theorem single_obstacle {l : Logged (Registry σ)} {left : Registry σ}
    (h : (obstacle? l left).map Cause.error = some e) : Single e := by
  have hr := rootCause_obstacle l left
  rw [h] at hr
  exact Or.inl (Option.some.inj hr).symm

/-- A unit puts no wrapper around what its body returns. -/
theorem single_unit [Transactional σ] {body : Action (Registry σ) (Outcome τ α)}
    (hb : ∀ m e, (body.run m).1.result = .error e → Single e) {l : Logged (Registry σ)}
    {start : Log.Event} {skipped : τ}
    (h : ((unit skipped body).run (l.noting start)).1.result = .error e) : Single e := by
  have hu := errorOf?_unit l start skipped body
  rw [h, errorOf?_error] at hu
  cases hm : l.entered start with
  | none =>
    rw [hm] at hu
    cases hu
    exact Error.single_of_isBare rfl
  | some m =>
    rw [hm] at hu
    rcases Option.or_eq_some_iff.mp hu.symm with he | ⟨-, ho⟩
    · exact hb m e (errorOf?_eq_some_iff.mp he)
    · exact single_obstacle ho

/-- A closure returns what its script has ended with, or what it makes of the answers. -/
theorem single_closure {body : Script} {finish : List Answer → Except Error α}
    {m : Logged (Registry σ)} (hb : ∀ x, (body.run.run m).1.2 = some x → Single x)
    (hf : ∀ answers x, finish answers = .error x → Single x)
    (h : ((body.closure finish).run m).1.result = .error e) : Single e := by
  rw [← errorOf?_eq_some_iff, Script.errorOf?_closure] at h
  rcases Option.or_eq_some_iff.mp h with hx | ⟨-, hx⟩
  · exact hb e hx
  · exact hf _ e (errorOf?_eq_some_iff.mp hx)

end Registry

/-- A batch fails with an error that is no wrapper. -/
theorem Batch.single_run {q : Query} {e : Error} : ∀ (b : Batch) {last : Option Int64}
    {count : Nat} {l : Logged (Registry σ)}, ((b.run q last count).run l).1.result = .error e →
      Single e
  | .nil, _, _, _, h => nomatch h
  | .cons before record rest, last, count, l, h => by
    rw [Batch.run_cons] at h
    dsimp only at h
    cases hw : Registry.written q (.named record) (before.runAll.run l).2.state.session with
    | error x =>
      rw [hw] at h
      cases h
      obtain ⟨f, rfl⟩ := Registry.eq_callError_of_written hw
      exact Error.single_of_isBare rfl
    | ok r =>
      rw [hw] at h
      exact rest.single_run h

mutual

/-- **A step fails with at most one wrapper, if its closures raise no error with more.** -/
theorem Step.single_run [Transactional σ] : ∀ (s : Step) {l : Logged (Registry σ)} {e : Error},
    (∀ x ∈ s.raised, Single x) → (s.run.run l).1.error? = some e → Single e
  | .names, _, _, _, h | .contains _, _, _, _, h | .hasFunction _, _, _, _, h
  | .query _, _, _, _, h => absurd h.symm (Option.some_ne_none _)
  | .call name params, l, e, _, h => by
    change (Answer.output ((Registry.call name params).run.run l).1).error? = _ at h
    rw [Answer.error?_output, Registry.errorOf?_call] at h
    exact Registry.single_callError? (fun _ => Registry.isBare_of_found) h
  | .access a name params, l, e, _, h => by
    change (Answer.output ((Registry.access a name params).run.run l).1).error? = _ at h
    rw [Answer.error?_output, Registry.errorOf?_access] at h
    exact Registry.single_callError? (fun _ => Registry.isBare_of_chosen) h
  | .insertOne name record, l, e, _, h => by
    change (Answer.insertedOne ((Registry.insertOne name record).run.run l).1).error? = _ at h
    rw [Answer.error?_insertedOne, Registry.errorOf?_insertOne] at h
    exact Registry.single_callError? (fun _ => Registry.isBare_of_chosen) h
  | .insertMany name batch, l, e, _, h => by
    rw [Registry.run_step_insertMany] at h
    cases hc : l.state.chosen .insert name with
    | error x =>
      rw [hc] at h
      cases h
      exact Error.single_of_isBare (Registry.isBare_of_chosen hc)
    | ok q =>
      rw [hc] at h
      dsimp only at h
      rw [Answer.error?_insertedMany, errorOf?_map, errorOf?_eq_some_iff] at h
      exact Registry.single_unit (fun m x => batch.single_run) h
  | .transaction body finish, l, e, hr, h => by
    rw [Registry.run_step_transaction, Answer.error?_transaction, errorOf?_mapError] at h
    obtain ⟨x, hx, rfl⟩ := Option.map_eq_some_iff.mp h
    refine Error.single_wrap (Registry.single_unit (fun m y => ?_) (errorOf?_eq_some_iff.mp hx))
    refine Registry.single_closure (fun z => body.single_run ?_) fun _ z hz => ?_
    · exact fun w hw => hr w (List.mem_append_left _ hw)
    · exact hr z (List.mem_append_right _ (Option.mem_toList.mpr (errorOf?_eq_some_iff.mpr hz)))

theorem Script.single_run [Transactional σ] : ∀ (s : Script) {l : Logged (Registry σ)} {e : Error},
    (∀ x ∈ s.raised, Single x) → (s.run.run l).1.2 = some e → Single e
  | .nil, _, _, _, h => absurd h.symm (Option.some_ne_none _)
  | .cons decisive step rest, l, e, hr, h => by
    rw [Script.run_cons] at h
    dsimp only at h
    cases hd : if decisive then (step.run.run l).1.error? else none with
    | none =>
      rw [hd] at h
      exact rest.single_run (fun x hx => hr x (List.mem_append_right _ hx)) h
    | some x =>
      rw [hd] at h
      cases h
      cases decisive with
      | false => cases hd
      | true => exact step.single_run (fun x hx => hr x (List.mem_append_left _ hx)) hd

end

/-- What a closure may return has at most one wrapper, since what it got from steps has no more. -/
theorem Returnable.single {e : Error} (h : Returnable e) : Single e := by
  induction h with
  | raised h => exact Error.single_of_isBare h
  | obtained s l _ h ih => exact s.single_run ih h

/-- Inside of an open unit, only what a closure raises can look as if an outermost unit had failed
to begin or to end. -/
theorem Cause.Possible.eq_raised {depth : Nat} {raised : List Error} {c : Cause}
    (h : c.Possible depth raised) (hd : 0 < depth) (hb : c.error.isOfBounds = true) :
    ∃ x ∈ raised, c = .raised x := by
  cases c with
  | raised x => exact ⟨x, h, rfl⟩
  | refused e =>
    cases e with
    | rollbackOnly => cases h
    | persistence op cause => cases h
    | _ => cases hb
  | statement q f => cases hb
  | unbegun f => exact absurd h.1 (Nat.ne_of_gt hd)
  | marked => exact absurd h (Nat.ne_of_gt hd)
  | uncommitted f => exact absurd h (Nat.ne_of_gt hd)

/-! ### Transactions -/

variable [Transactional σ]

namespace Registry

variable {α : Type}

/-- What a transaction returns, by what its closure has returned and by how the transaction ends. -/
structure WrapsOnce (body : Script) (finish : List Answer → Except Error α)
    (l : Logged (Registry σ)) : Prop where
  /-- An error is wrapped, and inside is that of the cause, which is no wrapper. -/
  once : ∀ e, transacted body finish l = .error e → ∃ source, e = .transactionAborted source ∧
    source.isBare = true ∧ (transactionCause? body finish l).map Cause.error = some source
  /-- An outermost transaction does not begin. -/
  unbegun : l.state.depth = 0 → ∀ f, (Engine.control l.state.session .begin).2 = some f →
    transacted body finish l = .error (.transactionAborted (.ofFault "begin" f))
  /-- The closure returns an error, or one that an inner transaction has wrapped. -/
  failed : ∀ m, l.entered (transactionStart l) = some m → ∀ e,
    ((body.closure finish).run m).1.result = .error e → Single e ∧
      transacted body finish l = .error (.transactionAborted e.rootCause)
  /-- The closure of an outermost transaction succeeds, but a unit inside has failed. -/
  marked : l.state.depth = 0 → ∀ m, l.entered (transactionStart l) = some m → ∀ a,
    ((body.closure finish).run m).1.result = .ok a →
    Answer.anyFailedUnit ((body.closure finish).run m).1.trace = true →
      transacted body finish l = .error (.transactionAborted .rollbackOnly)
  /-- The closure of an outermost transaction succeeds, but it cannot be committed. -/
  uncommitted : l.state.depth = 0 → ∀ m, l.entered (transactionStart l) = some m → ∀ a,
    ((body.closure finish).run m).1.result = .ok a →
    Answer.anyFailedUnit ((body.closure finish).run m).1.trace = false →
    ∀ f, (Engine.control ((body.closure finish).run m).2.state.session .commit).2 = some f →
      transacted body finish l = .error (.transactionAborted (.ofFault "commit" f))
  /-- The closure of an outermost transaction succeeds, and so does the transaction. -/
  committed : l.state.depth = 0 → ∀ m, l.entered (transactionStart l) = some m → ∀ a,
    ((body.closure finish).run m).1.result = .ok a →
    Answer.anyFailedUnit ((body.closure finish).run m).1.trace = false →
    (Engine.control ((body.closure finish).run m).2.state.session .commit).2 = none →
      transacted body finish l = .ok a
  /-- The closure of an inner transaction succeeds, and so does the transaction. -/
  joined : 0 < l.state.depth → ∀ m, l.entered (transactionStart l) = some m → ∀ a,
    ((body.closure finish).run m).1.result = .ok a → transacted body finish l = .ok a
  /-- An inner transaction does not fail as an outermost one does, unless a closure says so. -/
  inside : 0 < l.state.depth → ∀ e, transacted body finish l = .error e →
    e.rootCause.isOfBounds = true →
    ∃ x, (x ∈ body.raised ∨ ∃ answers, finish answers = .error x) ∧ x.rootCause = e.rootCause

/-- What steps do inside of an open unit, where they put no wrapper around anything. -/
structure JoinsOpenly (l : Logged (Registry σ)) : Prop where
  /-- A batch succeeds whose insertions do. -/
  batch : ∀ name q, l.state.chosen .insert name = .ok q → ∀ (batch : Batch) r,
    ((batch.run q none 0).run (l.noting (batchStart l name)).deeper).1.result = .ok r →
      ∃ before, ((Step.insertMany name batch).run.run l).1 = .insertedMany (.ok r.1) before
  /-- No step fails as an outermost unit does, unless a closure in it says so. -/
  inside : ∀ (s : Step) e, (s.run.run l).1.error? = some e → e.rootCause.isOfBounds = true →
    ∃ x ∈ s.raised, x.rootCause = e.rootCause

theorem joinsOpenly {l : Logged (Registry σ)} (hd : 0 < l.state.depth) : JoinsOpenly l where
  batch name q hq batch r hr := by
    rw [Step.run_insertMany hd, hq]
    dsimp only
    rw [hr]
    exact ⟨_, rfl⟩
  inside s e he hb := by
    obtain ⟨c, hs, hce⟩ := Step.cause?_of_run he
    rw [← hce] at hb
    obtain ⟨x, hx, rfl⟩ := (s.possible_of_cause? hs).eq_raised hd hb
    exact ⟨x, hx, hce⟩

section Transacted

variable {body : Script} {finish : List Answer → Except Error α} {l m : Logged (Registry σ)}

/-- A transaction fails as its unit does, and wraps the error. -/
theorem errorOf?_transacted (body : Script) (finish : List Answer → Except Error α)
    (l : Logged (Registry σ)) :
    errorOf? (transacted body finish l) =
      (match l.entered (transactionStart l) with
        | none => some (Error.ofFault "begin" .nestedTransaction)
        | some m =>
          (errorOf? ((body.closure finish).run m).1.result).or
            ((obstacle? l ((body.closure finish).run m).2.state).map Cause.error)).map
        Error.wrap := by
  rw [transacted, run_tracedTransaction]
  dsimp only
  rw [errorOf?_mapError]
  exact congrArg (Option.map Error.wrap) (errorOf?_unit l (transactionStart l) [] _)

/-- The closure of an outermost transaction is entered in autocommit, where its body starts. -/
theorem entered_of_zero (hd : l.state.depth = 0)
    (hm : l.entered (transactionStart l) = some m) :
    isAutocommit l.state.session = true ∧ m = bodyStart l := by
  rw [Logged.entered, if_neg (Nat.not_lt.mpr (Nat.le_of_eq hd))] at hm
  split at hm
  · rename_i ha
    cases hm
    exact ⟨ha, rfl⟩
  · cases hm

theorem transacted_of_error (hm : l.entered (transactionStart l) = some m) {e : Error}
    (he : ((body.closure finish).run m).1.result = .error e) :
    transacted body finish l = .error e.wrap := by
  rw [← errorOf?_eq_some_iff, errorOf?_transacted, hm]
  dsimp only
  rw [he]
  rfl

/-- An outermost transaction whose closure succeeds returns what keeps it from being committed. -/
theorem errorOf?_transacted_of_ok (hd : l.state.depth = 0)
    (hm : l.entered (transactionStart l) = some m) {a : α}
    (ha : ((body.closure finish).run m).1.result = .ok a) :
    errorOf? (transacted body finish l) =
      (if Answer.anyFailedUnit ((body.closure finish).run m).1.trace then some .rollbackOnly
        else (Engine.control ((body.closure finish).run m).2.state.session .commit).2.map
          (Error.ofFault "commit")).map Error.wrap := by
  obtain ⟨-, rfl⟩ := entered_of_zero hd hm
  rw [errorOf?_transacted, hm]
  dsimp only
  rw [ha, errorOf?_ok, Option.none_or, obstacle?, if_neg (Nat.not_lt.mpr (Nat.le_of_eq hd)),
    rollbackOnly_run_closure]
  split
  · rfl
  · cases (Engine.control ((body.closure finish).run (bodyStart l)).2.state.session .commit).2 <;>
      rfl

theorem transacted_of_begin_fails (hd : l.state.depth = 0) {f : Sql.Fault}
    (hf : (Engine.control l.state.session .begin).2 = some f) :
    transacted body finish l = .error (.transactionAborted (.ofFault "begin" f)) := by
  obtain ⟨ha, hn⟩ := Transactional.begin_eq_some_iff.mp hf
  rw [← errorOf?_eq_some_iff, errorOf?_transacted, Logged.entered,
    if_neg (Nat.not_lt.mpr (Nat.le_of_eq hd)), ha, hn]
  rfl

/-- An inner transaction succeeds if its closure does. -/
theorem transacted_of_pos (hd : 0 < l.state.depth) (hm : l.entered (transactionStart l) = some m)
    {a : α} (ha : ((body.closure finish).run m).1.result = .ok a) :
    transacted body finish l = .ok a := by
  rw [Logged.entered, if_pos hd] at hm
  cases hm
  rw [transacted, run_tracedTransaction_of_pos hd]
  dsimp only
  rw [ha]
  rfl

/-- The error of a transaction whose closure returns no error with more than one wrapper. -/
theorem eq_wrapped_of_transacted
    (hs : ∀ (m : Logged (Registry σ)) e,
      ((body.closure finish).run m).1.result = .error e → Single e) {e : Error}
    (he : transacted body finish l = .error e) : e = .transactionAborted e.rootCause := by
  rw [transacted, run_tracedTransaction, ← errorOf?_eq_some_iff] at he
  dsimp only at he
  rw [errorOf?_mapError] at he
  obtain ⟨x, hx, rfl⟩ := Option.map_eq_some_iff.mp he
  rw [Error.rootCause_wrap]
  exact Error.wrap_of_single (single_unit hs (errorOf?_eq_some_iff.mp hx))

end Transacted

/-- **Every error of a transaction is in one wrapper**, at every depth of a nesting: inside is what
the closure has returned, without the wrapper if it was wrapped before, or why an outermost unit
could not begin or was not committed. A unit inside another one adds no error of its own. So it is
on every engine with transactions. -/
theorem wrapped_once (body : Script) (finish : List Answer → Except Error α)
    (hb : ∀ e ∈ body.raised, Returnable e)
    (hf : ∀ answers e, finish answers = .error e → Returnable e) (l : Logged (Registry σ)) :
    WrapsOnce body finish l ∧ (0 < l.state.depth → JoinsOpenly l) := by
  have hs : ∀ (m : Logged (Registry σ)) e,
      ((body.closure finish).run m).1.result = .error e → Single e := fun m e =>
    single_closure (fun _ => body.single_run fun x hx => (hb x hx).single)
      fun answers x hx => (hf answers x hx).single
  refine ⟨?_, joinsOpenly⟩
  exact
    { once := fun e he => by
        obtain ⟨c, hc, hce⟩ := transactionCause?_of_transacted he
        refine ⟨e.rootCause, eq_wrapped_of_transacted hs he, e.isBare_rootCause, ?_⟩
        rw [hc, ← hce]
        rfl
      unbegun := fun hd f hf => transacted_of_begin_fails hd hf
      failed := fun m hm e he => by
        have he' := hs m e he
        exact ⟨he', (transacted_of_error hm he).trans (congrArg _ (Error.wrap_of_single he'))⟩
      marked := fun hd m hm a ha hu => by
        rw [← errorOf?_eq_some_iff, errorOf?_transacted_of_ok hd hm ha, if_pos hu]
        rfl
      uncommitted := fun hd m hm a ha hu f hcommit => by
        rw [← errorOf?_eq_some_iff, errorOf?_transacted_of_ok hd hm ha, hu, hcommit]
        rfl
      committed := fun hd m hm a ha hu hcommit => by
        obtain ⟨hauto, rfl⟩ := entered_of_zero hd hm
        rw [session_run_closure] at hcommit
        exact (run_transaction_eq_ok_iff hd hauto body finish a).mpr ⟨ha, hu, hcommit⟩
      joined := fun hd m hm a ha => transacted_of_pos hd hm ha
      inside := fun hd e he hbounds => by
        obtain ⟨c, hc, hce⟩ := transactionCause?_of_transacted he
        rw [← hce] at hbounds
        obtain ⟨raised, hp, hr⟩ := possible_of_transactionCause? hc
        obtain ⟨x, hx, rfl⟩ := hp.eq_raised hd hbounds
        exact ⟨x, hr x hx, hce⟩ }

/-- An inner transaction that is given up, which is swallowed, and another one that inserts a code
which is there already, and whose error is let through. -/
def lettingThrough : Script :=
  .cons false (.transaction .nil (.abort "not today"))
    (.cons true (.transaction (.cons true (.insertOne "add" (code 1)) .nil) .keep) .nil)

/-- The error of the statement comes through both transactions in one wrapper. -/
theorem wrapped_once_lettingThrough :
    transacted lettingThrough (fun _ => .ok ()) codes =
      .error (.transactionAborted
        (.queryExecution "add" "UNIQUE constraint failed: t.c" (some 2067))) := by
  obtain ⟨⟨hd, ha⟩, -⟩ := undone_harmful
  have hm : codes.entered (transactionStart codes) = some (bodyStart codes) := by
    rw [Logged.entered, hd, ha]
    rfl
  have hr : ∀ e ∈ lettingThrough.raised, Returnable e := by
    intro e he
    obtain rfl := List.mem_singleton.mp he
    exact .raised rfl
  have he : errorOf? ((lettingThrough.closure fun _ => Except.ok ()).run (bodyStart codes)).1.result
      = some (.transactionAborted
        (.queryExecution "add" "UNIQUE constraint failed: t.c" (some 2067))) := by
    decide +kernel
  obtain ⟨hw, -⟩ := wrapped_once lettingThrough (fun _ => .ok ()) hr nofun codes
  exact (hw.failed _ hm _ (errorOf?_eq_some_iff.mp he)).2

end Registry

end NamedSql
