import Mathlib.Logic.Function.Iterate
import NamedSql.Error

/-!
# Errors inside of wrappers

A failed transaction wraps the error that it failed with, and a transaction around it may wrap that
again. Every error is such a pile of wrappers around an error that is none, and what is asked of it
is answered by the one inside: which query it concerns, what the engine has reported, and whether a
constraint was violated. So a caller need not know how deep inside of transactions an error was
raised.

## Scope

The wording of an error and its class show the outermost wrapper, and are not treated here. Result
codes are integers; those of the engine have 32 bits, of which the lowest eight tell the class.

## Main definitions

* `Error.wrapped` — an error inside of so many wrappers
* `Error.Carries` — an error of a statement that carries a result code of the engine
* `Error.lowByte` — the part of a result code that tells its class

## Main results

* `Error.exists_wrapped_rootCause` — an error is its root cause inside of wrappers
* `Error.isConstraintViolation_iff_carries` — which errors tell of a violated constraint
* `Error.wrappers_seen_through` — what is asked of an error is answered by its root cause
-/

namespace NamedSql

namespace Error

/-! ### Wrappers -/

/-- An error inside of so many wrappers. -/
def wrapped (n : Nat) (e : Error) : Error := transactionAborted^[n] e

theorem wrapped_succ (n : Nat) (e : Error) :
    wrapped (n + 1) e = .transactionAborted (wrapped n e) :=
  Function.iterate_succ_apply' transactionAborted n e

/-- **Every error is its root cause inside of wrappers.** -/
theorem exists_wrapped_rootCause (e : Error) : ∃ n, e = wrapped n e.rootCause := by
  induction e with
  | transactionAborted source ih =>
    obtain ⟨n, hn⟩ := ih
    exact ⟨n + 1, (congrArg transactionAborted hn).trans (wrapped_succ n _).symm⟩
  | _ => exact ⟨0, rfl⟩

theorem rootCause_wrapped (n : Nat) (e : Error) : (wrapped n e).rootCause = e.rootCause := by
  induction n with
  | zero => rfl
  | succ n ih => rw [wrapped_succ, rootCause, ih]

theorem rootCause_rootCause (e : Error) : e.rootCause.rootCause = e.rootCause := by
  obtain ⟨n, hn⟩ := exists_wrapped_rootCause e
  calc e.rootCause.rootCause
      = (wrapped n e.rootCause).rootCause := (rootCause_wrapped n _).symm
    _ = e.rootCause := by rw [← hn]

/-- What is asked of an error, if its root cause answers for it, is not changed by wrappers. -/
theorem wrapped_of_rootCause {α : Type} {f : Error → α} (hf : ∀ e, f e.rootCause = f e) (n : Nat)
    (e : Error) : f (wrapped n e) = f e := by
  rw [← hf (wrapped n e), rootCause_wrapped, hf]

/-! ### Result codes -/

theorem isConstraintViolation_congr {e e' : Error} (h : e.engineCode = e'.engineCode) :
    e.isConstraintViolation = e'.isConstraintViolation := by
  rw [isConstraintViolation, isConstraintViolation, h]

theorem isConstraintViolation_rootCause (e : Error) :
    e.rootCause.isConstraintViolation = e.isConstraintViolation :=
  isConstraintViolation_congr (engineCode_rootCause e)

/-- The error is that of a statement which could not be prepared or which has failed, and carries a
result code of the engine. -/
def Carries (e : Error) (code : Int) : Prop :=
  (∃ name line cause, e = .prepareFailed name line cause (some code)) ∨
    ∃ name cause, e = .queryExecution name cause (some code)

/-- The low byte of a result code. -/
def lowByte (code : Int) : BitVec 8 := BitVec.ofInt 8 code

theorem lowByte_eq_iff (code : Int) : lowByte code = 19#8 ↔ code % 256 = constraintCode := by
  have hn : (code % 256).toNat = 19 ↔ code % 256 = 19 := by omega
  rw [lowByte, ← BitVec.toNat_inj, BitVec.toNat_ofInt]
  exact hn

/-- The low byte of a code of 32 bits is what a mask leaves of it, also if the code is negative. -/
theorem lowByte_toInt_eq_iff (code : Int32) : lowByte code.toInt = 19#8 ↔ code &&& 0xff = 19 := by
  have hs : lowByte code.toInt = code.toBitVec.setWidth 8 :=
    BitVec.signExtend_eq_setWidth_of_le _ (by decide)
  have hm : code.toBitVec.toNat &&& 255 = code.toBitVec.toNat % 256 :=
    Nat.and_two_pow_sub_one_eq_mod _ 8
  rw [hs, ← Int32.toBitVec_inj, Int32.toBitVec_and, ← BitVec.toNat_inj, ← BitVec.toNat_inj,
    BitVec.toNat_and, BitVec.toNat_setWidth]
  change _ ↔ code.toBitVec.toNat &&& 255 = 19
  rw [hm]
  rfl

/-- The result code of an error is the one that its root cause carries. -/
theorem carries_rootCause_iff {e : Error} {code : Int} :
    e.rootCause.Carries code ↔ e.engineCode = some code := by
  induction e with
  | transactionAborted source ih => exact ih
  | _ => simp [rootCause, Carries, engineCode]

/-- **The errors that tell of a violated constraint** are those whose root cause is the failure of a
statement for which the engine has reported one. -/
theorem isConstraintViolation_iff_carries (e : Error) :
    e.isConstraintViolation = true ↔ ∃ code, e.rootCause.Carries code ∧ lowByte code = 19#8 := by
  simp only [carries_rootCause_iff, lowByte_eq_iff, isConstraintViolation]
  cases e.engineCode with
  | none => simp
  | some code => simp

/-- **Wrappers are seen through.** Every error is its root cause inside of some number of wrappers,
and the root cause is none of them and is its own. The query that an error concerns, the result
code of the engine and whether a constraint was violated are those of the root cause, and no number
of wrappers changes them or the root cause. A constraint was violated exactly if the root cause is
the failure of a statement, to be prepared or to run, and carries a code whose low byte is 19: the
byte that is left of a code of 32 bits if its other bits are masked. -/
theorem wrappers_seen_through (e : Error) :
    (∃ n, e = wrapped n e.rootCause) ∧
      (∀ source, e.rootCause ≠ .transactionAborted source) ∧
      e.rootCause.rootCause = e.rootCause ∧
      (e.queryName = e.rootCause.queryName ∧ e.engineCode = e.rootCause.engineCode ∧
        e.isConstraintViolation = e.rootCause.isConstraintViolation) ∧
      (∀ n, (wrapped n e).rootCause = e.rootCause ∧ (wrapped n e).queryName = e.queryName ∧
        (wrapped n e).engineCode = e.engineCode ∧
        (wrapped n e).isConstraintViolation = e.isConstraintViolation) ∧
      (e.isConstraintViolation = true ↔
        ∃ code, e.rootCause.Carries code ∧ lowByte code = 19#8) ∧
      ∀ code : Int32, lowByte code.toInt = 19#8 ↔ code &&& 0xff = 19 := by
  refine ⟨exists_wrapped_rootCause e, rootCause_ne_wrapped e, rootCause_rootCause e,
    ⟨(queryName_rootCause e).symm, (engineCode_rootCause e).symm,
      (isConstraintViolation_rootCause e).symm⟩, fun n => ⟨rootCause_wrapped n e, ?_, ?_, ?_⟩,
    isConstraintViolation_iff_carries e, lowByte_toInt_eq_iff⟩
  · exact wrapped_of_rootCause queryName_rootCause n e
  · exact wrapped_of_rootCause engineCode_rootCause n e
  · exact wrapped_of_rootCause isConstraintViolation_rootCause n e

/-- A unique key was violated three transactions deep, and the engine was busy one deep. -/
example :
    (wrapped 3 (.queryExecution "add" "UNIQUE constraint failed: t.c" (some 2067))
      ).isConstraintViolation = true ∧
    (wrapped 1 (.queryExecution "add" "database is locked" (some 5))).isConstraintViolation =
      false := by
  decide

end Error

end NamedSql
