import NamedSql.Proofs.Registry.Running
import NamedSql.Proofs.Registry.Transactional

/-!
# Running units of work

What a unit of work does besides what its body does. A unit that joins another one goes a level
deeper, comes back, and marks the outermost unit if it has failed. An outermost unit begins a
transaction, and its verdict decides between committing and giving up.

## Main definitions

* `Registry.begun` — the registry in which the body of an outermost unit starts
* `Registry.verdict` — what an outermost unit returns
* `Registry.concluded` — the registry that it leaves

## Main results

* `Action.run_bracketed`, `Op.run_bracket` — an operation between its log events
* `Registry.run_joined`, `Registry.run_tracedBatch_of_pos`, `Registry.run_tracedTransaction_of_pos`
  — units inside other ones
* `Registry.run_outermost`, `Registry.run_tracedTransaction_of_zero` — outermost units
* `Registry.fst_run_settle`, `Registry.database_run_settle`, `Registry.state_run_settle` — the end
  of an outermost unit
* `Registry.run_unit_map` — units whose bodies do the same do the same
-/

namespace NamedSql

variable {σ τ α : Type}

/-! ### Log events around an operation -/

/-- The event that closes an operation: that it has ended, or the error that it has ended with. -/
def closing (component name : String) (last : α → List (String × Log.FieldValue)) :
    Except Error α → Log.Event
  | .ok a => .opEnd component name 0 (last a)
  | .error e => .opError component name e 0 []

theorem Action.run_bracketed (name : String) (first : List (String × Log.FieldValue))
    (last : α → List (String × Log.FieldValue)) (body : Action σ (Outcome τ α)) (l : Logged σ) :
    (bracketed name first last body).run l =
      let p := body.run (l.noting (.opStart l.component name first))
      (p.1, p.2.noting (closing l.component name last p.1.result)) := by
  have hb : (bracketed name first last body).run l =
      (do
        let o ← body
        match o.result with
        | .ok a => log (.opEnd l.component name 0 (last a))
        | .error e => log (.opError l.component name e 0 [])
        return o : Action σ (Outcome τ α)).run
        (l.noting (.opStart l.component name first)) := rfl
  rw [hb, run_bind]
  rcases body.run (l.noting (.opStart l.component name first)) with ⟨⟨e | a, trace⟩, m⟩
  · rfl
  · rfl

theorem Op.run_bracket (name : String) (first : List (String × Log.FieldValue))
    (last : α → List (String × Log.FieldValue)) (body : Op σ α) (l : Logged σ) :
    (bracket name first last body).run.run l =
      let p := body.run.run (l.noting (.opStart l.component name first))
      (p.1, p.2.noting (closing l.component name last p.1)) := by
  have hb : (bracket name first last body).run.run l =
      let p := (Action.bracketed name first last (traced body)).run l
      (p.1.result, p.2) := rfl
  rw [hb, Action.run_bracketed]
  rfl

namespace Outcome

/-- Whether something has failed, in whichever way it is told. -/
def failed (o : Outcome τ α) : Bool := !o.result.isOk

@[simp] theorem failed_ok (a : α) (trace : τ) : (⟨.ok a, trace⟩ : Outcome τ α).failed = false := rfl

@[simp] theorem failed_error (e : Error) (trace : τ) :
    (⟨.error e, trace⟩ : Outcome τ α).failed = true := rfl

end Outcome

namespace Logged

/-- The state one unit deeper, in which nothing else is different. -/
def deeper (l : Logged (Registry σ)) : Logged (Registry σ) :=
  { l with state := { l.state with depth := l.state.depth + 1 } }

/-- The state once a unit has ended, which undoes the step deeper. -/
def shallower (l : Logged (Registry σ)) : Logged (Registry σ) :=
  { l with state := { l.state with depth := l.state.depth - 1 } }

/-- The state with the outermost unit marked, if a unit inside it has failed. -/
def marked (l : Logged (Registry σ)) (failed : Bool) : Logged (Registry σ) :=
  { l with state := { l.state with rollbackOnly := l.state.rollbackOnly || failed } }

@[simp] theorem marked_false (l : Logged (Registry σ)) : l.marked false = l := by
  simp [marked]

end Logged

namespace Registry

open NamedSql.Action
open Transactional (abandoned database isAutocommit)

/-! ### Units inside other ones -/

theorem run_deepen (body : Action (Registry σ) α) (l : Logged (Registry σ)) :
    (deepen body).run l = ((body.run l.deeper).1, (body.run l.deeper).2.shallower) := rfl

theorem run_joined (body : Action (Registry σ) (Outcome τ α)) (l : Logged (Registry σ)) :
    (joined body).run l =
      ((body.run l.deeper).1,
        (body.run l.deeper).2.shallower.marked (body.run l.deeper).1.failed) := by
  rw [joined, Action.run_bind, run_deepen]
  rcases body.run l.deeper with ⟨⟨e | a, trace⟩, m⟩
  · simp only [Outcome.failed_error, Logged.marked, Bool.or_true]
    rfl
  · rw [Outcome.failed_ok, Logged.marked_false]
    rfl

variable [Engine σ]

theorem run_unit_of_pos {l : Logged (Registry σ)} (h : 0 < l.state.depth) (skipped : τ)
    (body : Action (Registry σ) (Outcome τ α)) :
    (unit skipped body).run l = (joined body).run l := by
  rw [unit, Action.run_bind]
  change (if 0 < l.state.depth then joined body else outermost skipped body).run l = _
  rw [if_pos h]

theorem run_unit_of_zero {l : Logged (Registry σ)} (h : l.state.depth = 0) (skipped : τ)
    (body : Action (Registry σ) (Outcome τ α)) :
    (unit skipped body).run l = (outermost skipped body).run l := by
  rw [unit, Action.run_bind]
  change (if 0 < l.state.depth then joined body else outermost skipped body).run l = _
  rw [if_neg (Nat.not_lt.mpr (Nat.le_of_eq h))]

/-- The event that a transaction starts, which tells whether it is inside of another unit. -/
def transactionStart (l : Logged (Registry σ)) : Log.Event :=
  .opStart l.component transactionName [("nested", .flag (decide (0 < l.state.depth)))]

/-- The event that the insertion of a batch starts, which tells for which query. -/
def batchStart (l : Logged (Registry σ)) (name : String) : Log.Event :=
  .opStart l.component batchName [(Log.FieldName.queryName.key, .text name)]

/-- The event that a transaction ends. -/
def transactionEnd (l : Logged (Registry σ)) : Except Error α → Log.Event :=
  closing l.component transactionName fun _ => []

/-- The event that the insertion of a batch ends. -/
def batchEnd (l : Logged (Registry σ)) : Except Error (Option Int64 × Nat) → Log.Event :=
  closing l.component batchName fun r => [(Log.FieldName.batchLen.key, .integer r.2)]

theorem run_tracedTransaction (skipped : τ) (body : Action (Registry σ) (Outcome τ α))
    (l : Logged (Registry σ)) :
    (tracedTransaction skipped body).run l =
      let p := (unit skipped body).run (l.noting (transactionStart l))
      let r := p.1.result.mapError Error.wrap
      (⟨r, p.1.trace⟩, p.2.noting (transactionEnd l r)) := by
  rw [tracedTransaction, Action.run_bind]
  change (bracketed transactionName [("nested", .flag (decide (0 < l.state.depth)))] _ _).run l = _
  rw [Action.run_bracketed]
  rfl

theorem run_tracedBatch (skipped : τ) (name : String)
    (body : Query → Action (Registry σ) (Outcome τ (Option Int64 × Nat)))
    (l : Logged (Registry σ)) :
    (tracedBatch skipped name body).run l =
      match l.state.chosen .insert name with
      | .error e => (⟨.error e, skipped⟩, l)
      | .ok q =>
        let p := (unit skipped (body q)).run (l.noting (batchStart l name))
        (⟨p.1.result.map (·.1), p.1.trace⟩, p.2.noting (batchEnd l p.1.result)) := by
  rw [tracedBatch, Action.run_bind, run_typed]
  cases l.state.chosen .insert name with
  | error e => rfl
  | ok q =>
    rw [Action.run_bind, Action.run_bracketed]
    rfl

/-- A transaction inside another unit runs its body one unit deeper, and leaves a mark if that
fails. -/
theorem run_tracedTransaction_of_pos {l : Logged (Registry σ)} (h : 0 < l.state.depth) (skipped : τ)
    (body : Action (Registry σ) (Outcome τ α)) :
    (tracedTransaction skipped body).run l =
      let p := body.run (l.noting (transactionStart l)).deeper
      let r := p.1.result.mapError Error.wrap
      (⟨r, p.1.trace⟩, (p.2.shallower.marked p.1.failed).noting (transactionEnd l r)) := by
  have hn : 0 < (l.noting (transactionStart l)).state.depth := h
  rw [run_tracedTransaction, run_unit_of_pos hn, run_joined]

/-- A batch inside another unit inserts its records one unit deeper, and leaves a mark if that
fails. -/
theorem run_tracedBatch_of_pos {l : Logged (Registry σ)} (h : 0 < l.state.depth) (skipped : τ)
    (name : String) (body : Query → Action (Registry σ) (Outcome τ (Option Int64 × Nat))) :
    (tracedBatch skipped name body).run l =
      match l.state.chosen .insert name with
      | .error e => (⟨.error e, skipped⟩, l)
      | .ok q =>
        let p := (body q).run (l.noting (batchStart l name)).deeper
        (⟨p.1.result.map (·.1), p.1.trace⟩,
          (p.2.shallower.marked p.1.failed).noting (batchEnd l p.1.result)) := by
  have hn : 0 < (l.noting (batchStart l name)).state.depth := h
  rw [run_tracedBatch]
  cases l.state.chosen .insert name with
  | error e => rfl
  | ok q =>
    dsimp only
    rw [run_unit_of_pos hn, run_joined]

/-! ### Outermost units -/

/-- The registry in which the body of an outermost unit starts, once the transaction has begun. -/
def begun (r : Registry σ) : Registry σ :=
  { r with
    session := (Engine.control r.session .begin).1
    depth := r.depth + 1
    rollbackOnly := false }

/-- The state in which the body of an outermost transaction starts. -/
def bodyStart (l : Logged (Registry σ)) : Logged (Registry σ) :=
  { l.noting (transactionStart l) with state := l.state.begun }

/-- What an outermost unit returns whose body has come to a result, in the state in which it
ends. -/
def verdict (r : Registry σ) : Except Error α → Except Error α
  | .error e => .error e
  | .ok a =>
    if r.rollbackOnly then .error .rollbackOnly
    else
      match (Engine.control r.session .commit).2 with
      | none => .ok a
      | some f => .error (.ofFault "commit" f)

theorem run_control (command : Sql.Control) (l : Logged (Registry σ)) :
    (control command).run l =
      let (session, fault) := Engine.control l.state.session command
      (fault, { l with state := { l.state with session } }) := rfl

theorem run_outermost [Transactional σ] {l : Logged (Registry σ)}
    (h : isAutocommit l.state.session = true) (skipped : τ)
    (body : Action (Registry σ) (Outcome τ α)) :
    (outermost skipped body).run l =
      let p := body.run { l with state := l.state.begun }
      let s := (settle p.1.result).run p.2.shallower
      (⟨s.1, p.1.trace⟩, s.2) := by
  rw [outermost, Action.run_bind, run_control]
  dsimp only
  rw [(Transactional.begin_of_isAutocommit h).1]
  rfl

theorem state_run_rollBack (l : Logged (Registry σ)) :
    (rollBack.run l).2.state =
      { l.state with session := (Engine.control l.state.session .rollback).1 } := by
  rw [rollBack, Action.run_bind, run_control]
  dsimp only
  cases (Engine.control l.state.session .rollback).2 with
  | none => rfl
  | some f => rfl

theorem fst_run_commit (a : α) (l : Logged (Registry σ)) :
    ((commit a).run l).1 =
      match (Engine.control l.state.session .commit).2 with
      | none => .ok a
      | some f => .error (.ofFault "commit" f) := by
  rw [commit, Action.run_bind, run_control]
  dsimp only
  cases (Engine.control l.state.session .commit).2 with
  | none => rfl
  | some f => rfl

/-- The end of an outermost unit whose body has succeeded. -/
theorem run_settle_ok (a : α) (l : Logged (Registry σ)) :
    (settle (.ok a)).run l =
      (if l.state.rollbackOnly then do
        rollBack
        return .error .rollbackOnly
      else commit a : Action (Registry σ) (Except Error α)).run
        { l with state := { l.state with rollbackOnly := false } } := rfl

/-- The end of an outermost unit whose body has failed. -/
theorem run_settle_error (e : Error) (l : Logged (Registry σ)) :
    (settle (.error e) : Action (Registry σ) (Except Error α)).run l =
      (.error e, (rollBack.run { l with state := { l.state with rollbackOnly := false } }).2) := rfl

/-- An outermost unit returns its verdict, which depends on the mark and on what its body has come
to. -/
theorem fst_run_settle (r : Except Error α) (l : Logged (Registry σ)) :
    ((settle r).run l).1 = l.state.verdict r := by
  cases r with
  | error e => rfl
  | ok a =>
    rw [run_settle_ok, verdict]
    split
    · rfl
    · exact fst_run_commit a _

theorem database_run_rollBack [Transactional σ] (l : Logged (Registry σ)) :
    database (rollBack.run l).2.state.session = abandoned l.state.session := by
  rw [state_run_rollBack]
  exact Transactional.database_rollback _

/-- **A unit that returns an error has given up its transaction, and one that does not has kept
everything.** A transaction that could not be committed is given up like any other. -/
theorem database_run_settle [Transactional σ] (r : Except Error α) (l : Logged (Registry σ)) :
    database ((settle r).run l).2.state.session =
      match l.state.verdict r with
      | .ok _ => database l.state.session
      | .error _ => abandoned l.state.session := by
  cases r with
  | error e =>
    rw [run_settle_error, verdict]
    exact database_run_rollBack _
  | ok a =>
    rw [run_settle_ok, verdict]
    split
    · exact database_run_rollBack _
    · rw [commit, Action.run_bind, run_control]
      rcases Transactional.commit_cases l.state.session with ⟨t, ht, -, hd⟩ | ⟨f, hf⟩
      · rw [ht]
        exact hd
      · rw [hf]
        exact Transactional.database_rollback _

/-- An outermost transaction. -/
theorem run_tracedTransaction_of_zero [Transactional σ] {l : Logged (Registry σ)}
    (hd : l.state.depth = 0) (ha : isAutocommit l.state.session = true) (skipped : τ)
    (body : Action (Registry σ) (Outcome τ α)) :
    (tracedTransaction skipped body).run l =
      let p := body.run (bodyStart l)
      let s := (settle p.1.result).run p.2.shallower
      let r := s.1.mapError Error.wrap
      (⟨r, p.1.trace⟩, s.2.noting (transactionEnd l r)) := by
  have hn : (l.noting (transactionStart l)).state.depth = 0 := hd
  have hc : isAutocommit (l.noting (transactionStart l)).state.session = true := ha
  rw [run_tracedTransaction, run_unit_of_zero hn, run_outermost hc]
  rfl

/-! ### Units by what their bodies do -/

/-- An outermost unit does not begin while the engine has a transaction of its own open. -/
theorem run_outermost_of_open [Transactional σ] {l : Logged (Registry σ)}
    (h : isAutocommit l.state.session = false) (skipped : τ)
    (body : Action (Registry σ) (Outcome τ α)) :
    (outermost skipped body).run l =
      (⟨.error (.ofFault "begin" .nestedTransaction), skipped⟩, l) := by
  rw [outermost, Action.run_bind, run_control, Transactional.begin_of_open h]
  rfl

/-- The registry once an outermost unit has ended whose body has failed or not: rolled back or
committed, and given up if it cannot be committed. -/
def concluded (r : Registry σ) (failed : Bool) : Registry σ :=
  { r with
    session :=
      if failed || r.rollbackOnly then (Engine.control r.session .rollback).1
      else
        match Engine.control r.session .commit with
        | (session, none) => session
        | (session, some _) => (Engine.control session .rollback).1
    rollbackOnly := false }

theorem state_run_settle (x : Except Error α) (l : Logged (Registry σ)) :
    ((settle x).run l).2.state = l.state.concluded (!x.isOk) := by
  cases x with
  | error e =>
    rw [run_settle_error]
    exact state_run_rollBack _
  | ok a =>
    have hx : (Except.ok a : Except Error α).isOk = true := rfl
    rw [run_settle_ok, concluded, hx, Bool.not_true, Bool.false_or]
    cases hm : l.state.rollbackOnly with
    | true => exact state_run_rollBack _
    | false =>
      simp only [Bool.false_eq_true, if_false]
      rw [commit, Action.run_bind, run_control]
      rcases hc : Engine.control l.state.session .commit with ⟨session, fault⟩
      cases fault with
      | none => rfl
      | some f => rfl

/-- The engine that an outermost unit leaves which has been committed. -/
theorem session_concluded {r : Registry σ} (hm : r.rollbackOnly = false)
    (hc : (Engine.control r.session .commit).2 = none) :
    (r.concluded false).session = (Engine.control r.session .commit).1 := by
  simp only [concluded, hm, Bool.or_self, Bool.false_eq_true, if_false]
  rcases hx : Engine.control r.session .commit with ⟨session, fault⟩
  rw [hx] at hc
  cases hc
  rfl

theorem verdict_map {β : Type} (f : α → β) (r : Registry σ) (x : Except Error α) :
    r.verdict (x.map f) = (r.verdict x).map f := by
  cases x with
  | error e => rfl
  | ok a =>
    change r.verdict (.ok (f a)) = (r.verdict (.ok a)).map f
    rw [verdict, verdict]
    split
    · rfl
    · cases (Engine.control r.session .commit).2 with
      | none => rfl
      | some fault => rfl

theorem verdict_eq_ok_iff {r : Registry σ} {x : Except Error α} {v : α} :
    r.verdict x = .ok v ↔
      x = .ok v ∧ r.rollbackOnly = false ∧ (Engine.control r.session .commit).2 = none := by
  cases x with
  | error e => simp [verdict]
  | ok a =>
    rw [verdict]
    cases hr : r.rollbackOnly with
    | true => simp
    | false =>
      cases hc : (Engine.control r.session .commit).2 with
      | none => simp
      | some f => simp

theorem isOk_map {β : Type} (f : α → β) (x : Except Error α) : (x.map f).isOk = x.isOk := by
  cases x <;> rfl

/-- Units whose bodies do the same do the same, and if the bodies agree in a part of what they
return, the units agree in it. -/
theorem run_unit_map [Transactional σ] {υ β : Type} (f : α → β) (skipped : τ) (skipped' : υ)
    (body : Action (Registry σ) (Outcome τ α)) (body' : Action (Registry σ) (Outcome υ β))
    {l l' : Logged (Registry σ)} (hl : l'.state = l.state)
    (hb : ∀ m m' : Logged (Registry σ), m'.state = m.state → m.state.queries = l.state.queries →
      (body'.run m').1.result = (body.run m).1.result.map f ∧
        (body'.run m').2.state = (body.run m).2.state) :
    ((unit skipped' body').run l').1.result = ((unit skipped body).run l).1.result.map f ∧
      ((unit skipped' body').run l').2.state = ((unit skipped body).run l).2.state := by
  rcases Nat.eq_zero_or_pos l.state.depth with hd | hd
  · rw [run_unit_of_zero hd, run_unit_of_zero (hl ▸ hd)]
    cases ha : isAutocommit l.state.session with
    | false =>
      rw [run_outermost_of_open ha, run_outermost_of_open (hl ▸ ha)]
      exact ⟨rfl, hl⟩
    | true =>
      rw [run_outermost ha, run_outermost (hl ▸ ha)]
      obtain ⟨hr, hs⟩ := hb { l with state := l.state.begun } { l' with state := l'.state.begun }
        (congrArg begun hl) rfl
      dsimp only
      rw [fst_run_settle, fst_run_settle, state_run_settle, state_run_settle, hr, verdict_map,
        isOk_map, Logged.shallower, Logged.shallower, hs]
      exact ⟨rfl, rfl⟩
  · rw [run_unit_of_pos hd, run_unit_of_pos (hl ▸ hd), run_joined, run_joined]
    obtain ⟨hr, hs⟩ := hb l.deeper l'.deeper (by rw [Logged.deeper, Logged.deeper, hl]) rfl
    refine ⟨hr, ?_⟩
    rw [Logged.marked, Logged.marked, Outcome.failed, Outcome.failed, hr, isOk_map,
      Logged.shallower, Logged.shallower, hs]

end Registry

end NamedSql
