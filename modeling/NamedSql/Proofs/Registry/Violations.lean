import NamedSql.Proofs.Error.Wrappers
import NamedSql.Proofs.Registry.Causes

/-!
# Constraint violations

When a failure is known for a constraint violation. The error of a statement carries the result code
of the engine, through every wrapper, and the code tells a constraint. What the engine says to the
end of an outermost unit is carried in words only. So a deferred foreign key that is found violated
where the unit is committed is not known for what it is, although the engine has reported it.

## Scope

An error that a closure raises is taken for what it says it is. If the closure has got it from a
statement, it says what became of the statement.

## Main definitions

* `Cause.reported?`, `Cause.told?` — what the engine has reported, and the code that is told of it
* `Registry.Recognised` — what an error tells of its cause

## Main results

* `Cause.recognised` — what an error tells of a cause that has it at the bottom
* `Registry.violations_recognised` — what the errors of steps and of transactions tell
* `Registry.hidden_violation` — a violation that is found by a commit is not told
-/

namespace NamedSql

/-! ### Codes of errors -/

namespace Error

theorem isConstraintViolation_of_none {e : Error} (h : e.engineCode = none) :
    e.isConstraintViolation = false := by
  rw [isConstraintViolation, h]

/-- A code of the engine is that of a violation exactly if the fault is one. -/
theorem isConstraintViolation_iff {e : Error} {f : Option Sql.Fault}
    (h : e.engineCode = f.map Sql.Fault.code) :
    e.isConstraintViolation = true ↔ ∃ x, f = some x ∧ x.isConstraint = true := by
  rw [isConstraintViolation, h]
  cases f with
  | none => simp
  | some x => simp [constraintCode, Sql.Fault.isConstraint_iff]

theorem engineCode_of_isRefusal {e : Error} (h : e.isRefusal = true) : e.engineCode = none := by
  cases e with
  | unknownQuery name => rfl
  | kindMismatch name expected actual => rfl
  | _ => cases h

end Error

theorem Sql.Failure.code?_eq (f : Failure) : f.code? = f.fault?.map Fault.code := by
  cases f <;> rfl

/-! ### What an error tells of its cause -/

namespace Cause

/-- What the engine has reported, if the failure is one of the engine's. -/
def reported? : Cause → Option Sql.Fault
  | .statement _ f => f.fault?
  | .unbegun f | .uncommitted f => some f
  | .refused _ | .raised _ | .marked => none

/-- The code that an error tells of its cause. -/
def told? : Cause → Option Int
  | .statement _ f => f.fault?.map Sql.Fault.code
  | .raised e => e.engineCode
  | .refused _ | .unbegun _ | .marked | .uncommitted _ => none

end Cause

namespace Registry

/-- What an error tells of its cause. -/
structure Recognised (e : Error) (c : Cause) : Prop where
  /-- The failure of a statement is told with the code of the engine. -/
  statement : ∀ q f, c = .statement q f → e.engineCode = f.fault?.map Sql.Fault.code ∧
    (e.isConstraintViolation = true ↔ ∃ x, f.fault? = some x ∧ x.isConstraint = true)
  /-- What is raised is told as it was. -/
  raised : ∀ x, c = .raised x → e.engineCode = x.engineCode ∧
    e.isConstraintViolation = x.isConstraintViolation
  /-- Nothing else is told with a code, even if it comes from the engine. -/
  otherwise : (∀ q f, c ≠ .statement q f) → (∀ x, c ≠ .raised x) →
    e.engineCode = none ∧ e.isConstraintViolation = false
  /-- An error that is not raised is known for a violation exactly if the engine has reported one,
  unless the engine has reported it where the unit was to be committed. -/
  exact : (∀ x, c ≠ .raised x) →
    ((e.isConstraintViolation = true ↔ ∃ x, c.reported? = some x ∧ x.isConstraint = true) ↔
      ∀ f, c = .uncommitted f → f.isConstraint = false)

end Registry

namespace Cause

variable {c : Cause} {e : Error}

/-- The code of an error is that of the cause at the bottom. -/
theorem engineCode_eq_told? {depth : Nat} {raised : List Error} (hp : c.Possible depth raised)
    (h : c.error = e.rootCause) : e.engineCode = c.told? := by
  rw [← e.engineCode_rootCause, ← h]
  cases c with
  | refused x => exact Error.engineCode_of_isRefusal hp
  | statement q f => exact f.code?_eq
  | raised x => exact x.engineCode_rootCause
  | unbegun f => rfl
  | marked => rfl
  | uncommitted f => rfl

/-- What an error tells of a cause that has it at the bottom. -/
theorem recognised {depth : Nat} {raised : List Error} (hp : c.Possible depth raised)
    (h : c.error = e.rootCause) : Registry.Recognised e c := by
  have hc := engineCode_eq_told? hp h
  have hnone : e.engineCode = none → e.isConstraintViolation = false :=
    Error.isConstraintViolation_of_none
  exact
    { statement := by
        rintro q f rfl
        exact ⟨hc, Error.isConstraintViolation_iff hc⟩
      raised := by
        rintro x rfl
        exact ⟨hc, Error.isConstraintViolation_congr hc⟩
      otherwise := by
        intro hs hr
        have he : e.engineCode = none := by
          cases c with
          | statement q f => exact absurd rfl (hs q f)
          | raised x => exact absurd rfl (hr x)
          | _ => exact hc
        exact ⟨he, hnone he⟩
      exact := by
        intro hr
        cases c with
        | raised x => exact absurd rfl (hr x)
        | statement q f =>
          exact iff_of_true (Error.isConstraintViolation_iff hc) nofun
        | refused x =>
          rw [hnone hc]
          exact iff_of_true (iff_of_false Bool.false_ne_true nofun) nofun
        | marked =>
          rw [hnone hc]
          exact iff_of_true (iff_of_false Bool.false_ne_true nofun) nofun
        | unbegun f =>
          obtain ⟨-, rfl⟩ := hp
          rw [hnone hc]
          refine iff_of_true (iff_of_false Bool.false_ne_true ?_) nofun
          rintro ⟨x, hx, hv⟩
          cases hx
          cases hv
        | uncommitted f =>
          rw [hnone hc]
          simp [reported?] }

end Cause

namespace Registry

/-- **The failure of a statement is known for a constraint violation exactly if the engine has
reported one, and what it has reported of a commit never is**: whatever a step or a transaction
fails with, at every depth and through every wrapper. -/
theorem violations_recognised (l : Logged Registry) :
    (∀ (s : Step) e, (s.run.run l).1.error? = some e →
      ∃ c, s.cause? l = some c ∧ Recognised e c) ∧
    ∀ (α : Type) (body : Script) (finish : List Answer → Except Error α) e,
      transacted body finish l = .error e →
      ∃ c, transactionCause? body finish l = some c ∧ Recognised e c := by
  constructor
  · intro s e he
    obtain ⟨c, hc, hce⟩ := Step.cause?_of_run he
    exact ⟨c, hc, Cause.recognised (s.possible_of_cause? hc) hce⟩
  · intro α body finish e he
    obtain ⟨c, hc, hce⟩ := transactionCause?_of_transacted he
    obtain ⟨raised, hp, -⟩ := possible_of_transactionCause? hc
    exact ⟨c, hc, Cause.recognised hp hce⟩

/-- An insertion of a code that is there already, inside of a transaction that lets its error
through. -/
def repeating : Step := .transaction (.cons true (.insertOne "add" (code 1)) .nil) .keep

/-- The error of the transaction is known for that of a unique key. -/
theorem violations_recognised_repeating :
    ∃ e, (repeating.run.run codes).1.error? = some e ∧ e.isConstraintViolation = true ∧
      e.engineCode = some 2067 := by
  have hc : repeating.cause? codes =
      some (.statement ⟨"add", "insert into t values (:c)", 1, .insert⟩
        (.failed (.notUnique .unique "t" ["c"]))) := by
    decide +kernel
  obtain ⟨e, he⟩ : ∃ e, (repeating.run.run codes).1.error? = some e := by
    rw [← Option.isSome_iff_exists]
    decide +kernel
  obtain ⟨c, hc', hr⟩ := (violations_recognised codes).1 repeating e he
  rw [hc] at hc'
  cases hc'
  obtain ⟨hcode, hv⟩ := hr.statement _ _ rfl
  exact ⟨e, he, hv.mpr ⟨_, rfl, rfl⟩, hcode⟩

/-! ### A reference that is looked at late -/

/-- A table whose rows refer to those of another one, which is seen to when they are committed. -/
def deferredSchema : String :=
  "create table p (id integer primary key); " ++
    "create table t (c references p (id) deferrable initially deferred)"

/-- A registry with a query that inserts a reference. -/
def referring : Logged Registry :=
  memoryWith deferredSchema "-- :name add :insert\ninsert into t values (:c)\n"

/-- A batch with a reference to nothing, as an outermost unit. -/
def dangling : Step := .insertMany "add" (.cons .nil (code 1) .nil)

/-- **A violation that is found by a commit is not known for one**, although the engine has reported
it and knows the same insertion for a violation where it is committed on its own. -/
theorem hidden_violation :
    Reachable referring.state ∧ referring.state.depth = 0 ∧
      dangling.cause? referring = some (.uncommitted .foreignKey) ∧
      (dangling.run.run referring).1.error? =
        some (.persistence "commit" "FOREIGN KEY constraint failed") ∧
      (Error.persistence "commit" "FOREIGN KEY constraint failed").isConstraintViolation = false ∧
      ((Step.insertOne "add" (code 1)).run.run referring).1.error? =
        some (.queryExecution "add" "FOREIGN KEY constraint failed" (some 787)) := by
  have ho : (openInMemory deferredSchema).isOk = true := by decide +kernel
  refine ⟨reachable_memoryWith _ ho, ?_⟩
  decide +kernel

end Registry

end NamedSql
