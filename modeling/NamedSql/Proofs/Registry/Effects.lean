import Mathlib.Logic.Relation
import NamedSql.Proofs.Registry.Executed

/-!
# Effects

What calls and units of work do to a registry, however deep they are nested and whether or not they
succeed: they execute statements, hand the beginning and the end of transactions to the engine, and
count units. Whatever these three leave alone is left alone by every script.

## Scope

Nothing is said of the order of effects or of how many there are. What a script does in order,
inside an open unit, is the subject of `Script.executed`.

## Main definitions

* `Registry.Effect`, `Registry.Effects` — one effect, and any number of them
* `Registry.Works` — actions that have such effects only

## Main results

* `Registry.exists_run_of_unit` — what a unit that ends well has run
* `Registry.Works.unit`, `Registry.Works.tracedTransaction`, `Registry.Works.tracedBatch` — a unit
  of work has the effects of its body and those of a unit
* `Step.works`, `Script.works`, `Batch.works` — scripts have no other effects
-/

namespace NamedSql

open NamedSql.Action
open Transactional (database isAutocommit)

namespace Registry

variable {σ τ α β : Type} [Engine σ]

/-- What may be done to a registry at a time. -/
inductive Effect (r : Registry σ) : Registry σ → Prop
  /-- A statement is executed. -/
  | executed (i : Invocation) : Effect r (r.went [i] false)
  /-- A transaction of the engine begins or ends, or fails to. -/
  | controlled (command : Sql.Control) :
    Effect r { r with session := (Engine.control r.session command).1 }
  /-- Units of work are counted, and the outermost one is marked. -/
  | counted (depth : Nat) (rollbackOnly : Bool) : Effect r { r with depth, rollbackOnly }

/-- Any number of effects. -/
abbrev Effects : Registry σ → Registry σ → Prop := Relation.ReflTransGen Effect

theorem effects_went (r : Registry σ) (done : List Invocation) : Effects r (r.went done false) := by
  induction done generalizing r with
  | nil => rw [went_nil]
  | cons i rest ih =>
    have hi : r.went (i :: rest) false = (r.went [i] false).went rest false := by
      rw [went_went]
      rfl
    rw [hi]
    exact .head (.executed i) (ih _)

theorem effects_counted (r : Registry σ) (depth : Nat) (rollbackOnly : Bool) :
    Effects r { r with depth, rollbackOnly } :=
  .single (.counted depth rollbackOnly)

/-! ### Actions -/

/-- The action has effects of these kinds only. -/
def Works (a : Action (Registry σ) α) : Prop := ∀ l, Effects l.state (a.run l).2.state

theorem works_pure (a : α) : Works (pure a : Action (Registry σ) α) := fun _ => .refl

theorem works_log (e : Log.Event) : Works (log e : Action (Registry σ) Unit) := fun _ => .refl

theorem works_state : Works (state : Action (Registry σ) (Registry σ)) := fun _ => .refl

theorem Works.bind {a : Action (Registry σ) α} {f : α → Action (Registry σ) β} (ha : Works a)
    (hf : ∀ x, Works (f x)) : Works (a >>= f) := fun l => (ha l).trans (hf _ _)

theorem works_control (command : Sql.Control) :
    Works (control command : Action (Registry σ) (Option Sql.Fault)) :=
  fun _ => .single (.controlled command)

theorem works_mark (rollbackOnly : Bool) :
    Works (mark rollbackOnly : Action (Registry σ) Unit) :=
  fun l => effects_counted l.state l.state.depth rollbackOnly

theorem works_rollBack : Works (rollBack : Action (Registry σ) Unit) := by
  refine (works_control .rollback).bind fun fault => ?_
  cases fault with
  | none => exact works_pure ()
  | some f => exact works_log _

theorem works_commit (a : α) : Works (commit a : Action (Registry σ) (Except Error α)) := by
  refine (works_control .commit).bind fun fault => ?_
  cases fault with
  | none => exact works_pure _
  | some f => exact (works_control .rollback).bind fun _ => works_pure _

/-! ### Units of work -/

theorem works_settle (r : Except Error α) :
    Works (settle r : Action (Registry σ) (Except Error α)) := by
  refine works_state.bind fun s => (works_mark false).bind fun _ => ?_
  cases r with
  | error e => exact works_rollBack.bind fun _ => works_pure _
  | ok a =>
    dsimp only
    split
    · exact works_rollBack.bind fun _ => works_pure _
    · exact works_commit a

theorem Works.deepen {body : Action (Registry σ) α} (h : Works body) : Works (deepen body) := by
  intro l
  rw [run_deepen]
  exact (effects_counted l.state _ _).trans ((h l.deeper).trans (effects_counted _ _ _))

variable {body : Action (Registry σ) (Outcome τ α)}

theorem Works.joined (h : Works body) : Works (joined body) := by
  intro l
  rw [run_joined]
  exact (effects_counted l.state _ _).trans ((h l.deeper).trans (effects_counted _ _ _))

theorem Works.outermost (h : Works body) (skipped : τ) : Works (outermost skipped body) := by
  refine (works_control .begin).bind fun fault => ?_
  cases fault with
  | some f => exact works_pure _
  | none =>
    exact (works_mark false).bind fun _ => h.deepen.bind fun o =>
      (works_settle o.result).bind fun _ => works_pure _

theorem Works.unit (h : Works body) (skipped : τ) : Works (unit skipped body) := by
  intro l
  rcases Nat.eq_zero_or_pos l.state.depth with hd | hd
  · rw [run_unit_of_zero hd]
    exact h.outermost skipped l
  · rw [run_unit_of_pos hd]
    exact h.joined l

/-- A unit that ends well has run its body, whose result it returns and whose database it keeps. -/
theorem exists_run_of_unit [Transactional σ] {l : Logged (Registry σ)} {skipped : τ} {a : α}
    (h : ((Registry.unit skipped body).run l).1.result = .ok a) :
    ∃ m : Logged (Registry σ), Effects l.state m.state ∧ (body.run m).1.result = .ok a ∧
      database ((Registry.unit skipped body).run l).2.state.session =
        database (body.run m).2.state.session := by
  rcases Nat.eq_zero_or_pos l.state.depth with hd | hd
  · rw [run_unit_of_zero hd] at h ⊢
    cases ha : isAutocommit l.state.session with
    | false =>
      rw [run_outermost_of_open ha] at h
      cases h
    | true =>
      rw [run_outermost ha] at h ⊢
      dsimp only at h ⊢
      rw [fst_run_settle] at h
      refine ⟨{ l with state := l.state.begun }, ?_, (verdict_eq_ok_iff.mp h).1, ?_⟩
      · exact .tail (.single (.controlled .begin)) (.counted (l.state.depth + 1) false)
      · rw [database_run_settle, h]
        rfl
  · rw [run_unit_of_pos hd, run_joined] at h ⊢
    exact ⟨l.deeper, effects_counted l.state _ _, h, rfl⟩

theorem Works.tracedTransaction (h : Works body) (skipped : τ) :
    Works (tracedTransaction skipped body) := by
  intro l
  rw [run_tracedTransaction]
  exact h.unit skipped (l.noting (transactionStart l))

theorem Works.tracedBatch {body : Query → Action (Registry σ) (Outcome τ (Option Int64 × Nat))}
    (h : ∀ q, Works (body q)) (skipped : τ) (name : String) :
    Works (tracedBatch skipped name body) := by
  intro l
  rw [run_tracedBatch]
  cases l.state.chosen .insert name with
  | error e => exact .refl
  | ok q => exact (h q).unit skipped (l.noting (batchStart l name))

/-! ### Calls -/

theorem effects_invoked (l : Logged (Registry σ)) (done : List Invocation) :
    Effects l.state (done.foldl Logged.invoked l).state := by
  rw [state_foldl_invoked]
  exact effects_went l.state done

theorem works_call (name : String) (params : Params) :
    Works (call name params : Op (Registry σ) QueryOutput).run := by
  intro l
  rw [state_run_call]
  exact effects_invoked l _

theorem works_access (a : Accessor) (name : String) (params : Params) :
    Works (access a name params : Op (Registry σ) QueryOutput).run := by
  intro l
  rw [state_run_access]
  exact effects_invoked l _

theorem works_insertOne (name : String) (record : Record) :
    Works (insertOne name record : Op (Registry σ) Int64).run := by
  intro l
  rw [state_run_insertOne]
  exact effects_invoked l _

theorem works_write (q : Query) (params : Params) :
    Works (write q params : Op (Registry σ) RunResult).run := by
  intro l
  rw [state_run_write]
  exact effects_invoked l [⟨q, params⟩]

end Registry

/-! ### Scripts -/

open Registry

variable {σ : Type} [Engine σ]

mutual

/-- **A step has no other effects on a registry**, at any depth and whatever it answers. -/
theorem Step.works : ∀ s : Step, Works (s.run : Action (Registry σ) Answer)
  | .names | .contains _ | .hasFunction _ | .query _ => fun _ => .refl
  | .call name params => by
    rw [Step.run]
    exact (works_call name params).bind fun _ => works_pure _
  | .access a name params => by
    rw [Step.run]
    exact (works_access a name params).bind fun _ => works_pure _
  | .insertOne name record => by
    rw [Step.run]
    exact (works_insertOne name record).bind fun _ => works_pure _
  | .insertMany name batch => by
    rw [Step.run]
    exact (Works.tracedBatch (fun q => batch.works q none 0) [] name).bind fun _ => works_pure _
  | .transaction body finish => by
    rw [Step.run]
    exact (Works.tracedTransaction (body.works.bind fun _ => works_pure _) []).bind fun _ =>
      works_pure _

theorem Script.works : ∀ s : Script,
    Works (s.run : Action (Registry σ) (List Answer × Option Error))
  | .nil => by
    rw [Script.run]
    exact works_pure _
  | .cons decisive step rest => by
    rw [Script.run]
    refine step.works.bind fun answer => ?_
    cases if decisive then answer.error? else none with
    | some e => exact works_pure _
    | none => exact rest.works.bind fun _ => works_pure _

theorem Script.worksAll : ∀ s : Script,
    Works (s.runAll : Action (Registry σ) (List Answer))
  | .nil => by
    rw [Script.runAll]
    exact works_pure _
  | .cons decisive step rest => by
    rw [Script.runAll]
    exact step.works.bind fun _ => rest.worksAll.bind fun _ => works_pure _

theorem Batch.works : ∀ (b : Batch) (q : Query) (last : Option Int64) (count : Nat),
    Works (b.run q last count : Action (Registry σ) (Outcome (List Answer) (Option Int64 × Nat)))
  | .nil, q, last, count => by
    rw [Batch.run]
    exact works_pure _
  | .cons before record rest, q, last, count => by
    rw [Batch.run]
    refine before.worksAll.bind fun answers => ?_
    refine (works_write q (.named record)).bind fun written => ?_
    cases written with
    | error e => exact works_pure _
    | ok r => exact (rest.works q (some r.lastRowid) (count + 1)).bind fun _ => works_pure _

end

end NamedSql
