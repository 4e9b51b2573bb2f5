import NamedSql.Registry.Opening

/-!
# Registered functions

Functions that a caller makes callable from SQL. A name is registered at most once, whatever the
case of its ASCII letters, and whatever the number of arguments.

## Scope

The engine has no wording of its own for a function that it refuses: it shows what it has found
wrong last, if nothing has gone well since. Sessions do not keep that. Like the files of a load it
is an argument of a registration, so that whatever is said of registrations holds for every wording.

## Main definitions

* `Registry.registerFunction` — makes a function callable
* `Registry.refusal?` — why the engine refuses a function

## Main results

* `Registry.hasFunction_addFunction` — what is registered after a registration
-/

namespace NamedSql

namespace Registry

open Op

variable {σ : Type} [Engine σ]

/-- The arity that stands for any number of arguments; no other negative number does. -/
def variadic : Int := -1

/-- The greatest number of arguments that the engine lets a function take. -/
def greatestArity : Int := 127

/-- The greatest number of bytes in the name of a function. Bytes count, not characters, because the
engine stores names encoded. -/
def longestFunctionName : Nat := 255

/-- What the engine shows if it has found nothing wrong, which is the name of its code for success.
-/
def noComplaint : String := "not an error"

/-- Why the engine refuses a function, if it does. A name that cannot be passed to it is refused in
words of its own; otherwise the engine shows what it has complained of last. -/
def refusal? (complaint : Option Sql.Fault) (name : String) (arity : Int) : Option String :=
  match Text.nulPosition? name.toList with
  | some position => some ("nul byte found in provided data at position: " ++ toString position)
  | none =>
    if arity < variadic || greatestArity < arity ||
        longestFunctionName < Text.byteLength name.toList then
      some ((complaint.map Sql.Fault.message).getD noComplaint)
    else none

/-- A function as the engine knows it. An arity below zero becomes none, which is to say that any
number of arguments will do. -/
def engineFunction (name : String) (arity : Int)
    (body : List Value → Except Sql.FunctionFault Value) : Sql.Function :=
  ⟨name, if arity < 0 then none else some arity.toNat, body⟩

/-- The registry with another function. The engine gets the function and the registry its name;
nothing but the callers of this definition sees to it that the name was free. -/
def addFunction (r : Registry σ) (f : Sql.Function) : Registry σ :=
  { r with
    session := Engine.addFunction r.session f
    functions := r.functions ++ [Sql.Token.fold f.name] }

/-- Makes a function callable from SQL, on an engine that may have complained of something. -/
def registerFunction (name : String) (arity : Int)
    (body : List Value → Except Sql.FunctionFault Value) (complaint : Option Sql.Fault := none) :
    Op (Registry σ) Unit :=
  bracket "register_function"
    [(Log.FieldName.functionName.key, .text name), ("arity", .integer arity)] (fun _ => []) do
      if (← state).hasFunction name then throw (.duplicateFunction name)
      match refusal? complaint name arity with
      | some cause => throw (.persistence "register_function" cause)
      | none => change fun r => r.addFunction (engineFunction name arity body)

theorem hasFunction_addFunction (r : Registry σ) (f : Sql.Function) (name : String) :
    (r.addFunction f).hasFunction name =
      (r.hasFunction name || Sql.Token.sameName f.name name) := by
  rw [Bool.eq_iff_iff]
  simp only [hasFunction, addFunction, Sql.Token.sameName, List.contains_eq_mem, List.mem_append,
    List.mem_singleton, decide_eq_true_eq, Bool.or_eq_true, beq_iff_eq]
  exact or_congr_right eq_comm

end Registry

end NamedSql
