import NamedSql.Sql.Fault

/-!
# Failures of a call

Why a statement cannot be called: the engine refuses it, it fails while it runs, its parameters do
not fit, or what it returns does not.

## Main definitions

* `Failure` — the causes
* `Failure.message`, `Failure.code?` — wording, and the engine's result code where there is one

## Main results

* `Failure.code?_isSome_iff` — a failure has a code exactly when it comes from the engine
-/

namespace NamedSql.Sql

/-- Why a statement cannot be called, or why its results cannot be had. -/
inductive Failure where
  /-- The engine refuses the text of a statement, which is kept for the message. -/
  | refused (fault : Fault) (sql : String)
  /-- The statement fails while it runs, perhaps after some rows. -/
  | failed (fault : Fault)
  | parameterCount (given needed : Nat)
  | parameterName (name : String)
  | columnName (name : String)
  | columnIndex (index : Nat)
  /-- A statement that was run for its effect returns a row, which says nothing of the effect
  itself. -/
  | returnedRow
deriving DecidableEq, Repr

namespace Failure

/-- The wording of a failure. A refused text is quoted if the place of the fault is known. -/
def message : Failure → String
  | .refused fault sql =>
    match fault.offset? with
    | some offset => fault.message ++ " in " ++ sql ++ " at offset " ++ toString offset
    | none => fault.message
  | .failed fault => fault.message
  | .parameterCount given needed =>
    "Wrong number of parameters passed to query. Got " ++ toString given ++ ", needed " ++
      toString needed
  | .parameterName name => "Invalid parameter name: " ++ name
  | .columnName name => "Invalid column name: " ++ name
  | .columnIndex index => "Invalid column index: " ++ toString index
  | .returnedRow => "Execute returned results - did you mean to call query?"

/-- The engine's result code behind a failure, if there is one. What the engine has no part in has
none. -/
def code? : Failure → Option Int
  | .refused fault _ | .failed fault => some fault.code
  | _ => none

/-- The engine's fault behind a failure, if there is one, with all that it tells. -/
def fault? : Failure → Option Fault
  | .refused fault _ | .failed fault => some fault
  | _ => none

theorem code?_isSome_iff (f : Failure) : f.code?.isSome = f.fault?.isSome := by cases f <;> rfl

end Failure

end NamedSql.Sql
