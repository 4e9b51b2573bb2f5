import NamedSql.Sql.Token
import NamedSql.Value

/-!
# Functions

The functions that statements may call: a few that are always there, and those that a caller has
registered. Names are the same whatever the case of their ASCII letters.

Several functions may have one name, as long as they take different numbers of arguments. A function
that takes just the arguments of a call goes before one that takes any number, and registered
functions go before those that are always there.

## Main definitions

* `Function` — a registered function
* `Function.integerAt`, `Function.textAt`, `Function.valueAt` — how a body reads its arguments
* `Function.replaces` — which of the functions gives way to a new one
* `Function.resolve` — what a call of a name with so many arguments calls

## Main results

* `Function.of_resolve` — a call reaches a registered function of its name that accepts it
* `Function.resolve_append`, `Function.resolve_eq_builtIn` — functions of other names do not change
  what a call is meant for
-/

namespace NamedSql.Sql

/-- Why the body of a function fails, in so far as a statement that calls it can tell. -/
inductive FunctionFault where
  /-- An argument has another type than the body wants; no value is converted for it. -/
  | wrongType (found : Value) (index : Nat)
  /-- The body reads an argument that is not there, which a call cannot be kept from if the function
  takes any number. -/
  | missing
  /-- The body gives up, with a message of its own. -/
  | raised (message : String)
deriving DecidableEq, Repr

namespace FunctionFault

/-- The name of a value's type, as the message about an argument tells it. -/
def typeName : Value → String
  | .null => "Null"
  | .integer _ => "Integer"
  | .real _ => "Real"
  | .text _ => "Text"
  | .blob _ => "Blob"

/-- The wording of a failure, in which arguments are counted from zero. -/
def message : FunctionFault → String
  | .wrongType found index =>
    "Invalid function parameter type " ++ typeName found ++ " at index " ++ toString index
  | .missing => "unwinding panic"
  | .raised message => message

end FunctionFault

/-- A registered function. Without an arity it takes any number of arguments. Its body sees the
values alone. -/
structure Function where
  name : String
  arity : Option Nat
  body : List Value → Except FunctionFault Value

/-- What a name calls, once it has been looked up with the number of arguments. -/
inductive Callee where
  /-- The name of the type of a value, which is there without being registered. -/
  | typeOf
  /-- The number of rows, or of those in which an expression is something. -/
  | count
  | registered (f : Function)

namespace Function

/-! ### Arguments -/

/-- An argument by its position, which the body takes as it is. -/
def valueAt (arguments : List Value) (i : Nat) : Except FunctionFault Value :=
  match arguments[i]? with
  | some v => .ok v
  | none => .error .missing

/-- An argument that must be an integer; a real is none, even without a fraction. -/
def integerAt (arguments : List Value) (i : Nat) : Except FunctionFault Int64 := do
  match ← valueAt arguments i with
  | .integer n => return n
  | v => throw (.wrongType v i)

/-- An argument that must be a text; a number is none, even if it would make one. -/
def textAt (arguments : List Value) (i : Nat) : Except FunctionFault String := do
  match ← valueAt arguments i with
  | .text s => return s
  | v => throw (.wrongType v i)

/-! ### Names -/

/-- Whether a call with so many arguments can be meant for the function: it takes just so many, or
any number. -/
def accepts (f : Function) (count : Nat) : Bool := f.arity.all (· == count)

/-- Whether a function comes in the place of another one: they have the same name, and take the same
number of arguments or both any number. -/
def replaces (f g : Function) : Bool := Token.sameName g.name f.name && g.arity == f.arity

/-- The outcome of looking up the name of a call. Only a callee lets the statement be prepared. -/
inductive Lookup where
  | found (callee : Callee)
  /-- There are functions of that name, but they take other numbers of arguments. -/
  | wrongCount
  | unknown

/-- Whether what was looked up is always there, so that no registration has brought it about. -/
def Lookup.isBuiltIn : Lookup → Bool
  | .found .typeOf | .found .count => true
  | .found (.registered _) | .wrongCount | .unknown => false

/-- What the name of a function that is always there calls, if it takes so many arguments. -/
def builtIn (name : String) (count : Nat) : Lookup :=
  if Token.sameName name "typeof" then if count = 1 then .found .typeOf else .wrongCount
  else if Token.sameName name "count" then if count ≤ 1 then .found .count else .wrongCount
  else .unknown

/-- Which of the functions of a name a call with so many arguments is meant for: the one that takes
just so many, and if there is none the one that takes any number. -/
def best? (named : List Function) (count : Nat) : Option Function :=
  named.find? (·.arity == some count) <|> named.find? (·.arity == none)

/-- What a call of a name with so many arguments calls: a registered function if there is one that
accepts them, and else one that is always there. -/
def resolve (functions : List Function) (name : String) (count : Nat) : Lookup :=
  let named := functions.filter fun f => Token.sameName f.name name
  match best? named count with
  | some f => .found (.registered f)
  | none =>
    match builtIn name count with
    | .unknown => if named.isEmpty then .unknown else .wrongCount
    | lookup => lookup

theorem accepts_iff {f : Function} {count : Nat} :
    f.accepts count = true ↔ f.arity = some count ∨ f.arity = none := by
  rw [accepts]
  cases f.arity with
  | none => simp
  | some arity => simp

/-- A call is meant for none of the functions of its name if none of them accepts its arguments. -/
theorem best?_eq_none_iff {named : List Function} {count : Nat} :
    best? named count = none ↔ ∀ f ∈ named, f.accepts count = false := by
  simp only [best?, Option.orElse_eq_orElse, Option.orElse_eq_or, Option.or_eq_none_iff,
    List.find?_eq_none, beq_iff_eq, ← Bool.not_eq_true, accepts_iff, not_or]
  exact ⟨fun h f hf => ⟨h.1 f hf, h.2 f hf⟩,
    fun h => ⟨fun f hf => (h f hf).1, fun f hf => (h f hf).2⟩⟩

theorem of_best? {named : List Function} {count : Nat} {f : Function}
    (h : best? named count = some f) : f ∈ named ∧ f.accepts count = true := by
  rw [best?, Option.orElse_eq_orElse, Option.orElse_eq_or, Option.or_eq_some_iff] at h
  rw [accepts_iff]
  rcases h with h | ⟨-, h⟩
  · have ha := List.find?_some h
    exact ⟨List.mem_of_find?_eq_some h, Or.inl (beq_iff_eq.mp ha)⟩
  · have ha := List.find?_some h
    exact ⟨List.mem_of_find?_eq_some h, Or.inr (beq_iff_eq.mp ha)⟩

theorem builtIn_ne_registered (name : String) (count : Nat) (f : Function) :
    builtIn name count ≠ .found (.registered f) := by
  unfold builtIn
  repeat' split
  all_goals simp

theorem isBuiltIn_of_builtIn {name : String} {count : Nat} {callee : Callee}
    (h : builtIn name count = .found callee) : (builtIn name count).isBuiltIn = true := by
  rw [h]
  cases callee with
  | registered f => exact absurd h (builtIn_ne_registered name count f)
  | _ => rfl

/-- A call of a registered function has its name and a number of arguments that it accepts. -/
theorem of_resolve {functions : List Function} {name : String} {count : Nat} {f : Function}
    (h : resolve functions name count = .found (.registered f)) :
    f ∈ functions ∧ Token.sameName f.name name = true ∧ f.accepts count = true := by
  rw [resolve] at h
  cases hb : best? (functions.filter fun f => Token.sameName f.name name) count with
  | some g =>
    rw [hb] at h
    cases h
    obtain ⟨hm, hc⟩ := of_best? hb
    obtain ⟨hm, hn⟩ := List.mem_filter.mp hm
    exact ⟨hm, hn, hc⟩
  | none =>
    rw [hb] at h
    dsimp only at h
    split at h
    · split at h <;> cases h
    · exact absurd h (builtIn_ne_registered name count f)

/-- Functions of other names do not change what a call is meant for. -/
theorem resolve_append {more : List Function} {name : String}
    (h : ∀ f ∈ more, Token.sameName f.name name = false) (functions : List Function) (count : Nat) :
    resolve (functions ++ more) name count = resolve functions name count := by
  have hn : more.filter (fun f => Token.sameName f.name name) = [] :=
    List.filter_eq_nil_iff.mpr fun f hf => Bool.eq_false_iff.mp (h f hf)
  rw [resolve, resolve, List.filter_append, hn, List.append_nil]

/-- A name that no registered function has calls what is always there. -/
theorem resolve_eq_builtIn {functions : List Function} {name : String}
    (h : ∀ f ∈ functions, Token.sameName f.name name = false) (count : Nat) :
    resolve functions name count = builtIn name count := by
  refine (resolve_append h [] count).trans ?_
  change (match builtIn name count with
    | .unknown => Lookup.unknown
    | lookup => lookup) = _
  cases builtIn name count <;> rfl

end Function

end NamedSql.Sql
