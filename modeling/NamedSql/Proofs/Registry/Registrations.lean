import Mathlib
import NamedSql.Proofs.Registry.CachedRecords
import NamedSql.Proofs.Registry.Sources

/-!
# Functions that were registered

A registry remembers the names of its functions apart from the engine, which has the functions
themselves and would put a new one silently in the place of an old one. The two never come apart:
the engine has the functions of the registrations that have succeeded, in their order, and the
registry their names. A name is taken once a registration under any spelling of it has succeeded,
and stays with the function that was registered then.

## Scope

Registrations may stand anywhere between other operations. A statement that was prepared before a
function was registered under the name of one that is always there may go on with the latter; a call
that has found a registered function stays with it. What becomes of the arguments in the body of a
function is left out.

## Main definitions

* `Registry.Refused` — the engine takes no such function
* `Registry.registrations` — the functions that were registered along a run, in order
* `Registry.Taken` — a registration under some spelling of a name has succeeded in a run

## Main results

* `Registry.run_registerFunction_of_taken`, `Registry.run_registerFunction_of_refused`,
  `Registry.run_registerFunction_of_admitted` — the three ways of a registration
* `Registry.functions_later` — what the registry and the engine have is what was registered
* `Registry.hasFunction_iff` — a registry has the names that are taken
* `Registry.registers_once` — what a registration does at the end of any run
-/

namespace NamedSql

open Registry

namespace Registry

variable {l : Logged Registry} {ops : List Operation} {name : String} {arity : Int}
  {body : List Value → Except Sql.FunctionFault Value} {complaint : Option Sql.Fault}

/-! ### Registrations -/

/-- The engine takes no such function: its name holds a NUL character or is too long, or it cannot
have so many arguments. -/
def Refused (name : String) (arity : Int) : Prop :=
  '\x00' ∈ name.toList ∨ arity < variadic ∨ greatestArity < arity ∨
    longestFunctionName < Text.byteLength name.toList

theorem refusal?_eq_none_iff : refusal? complaint name arity = none ↔ ¬Refused name arity := by
  rw [refusal?, Refused]
  cases hn : Text.nulPosition? name.toList with
  | some position =>
    have hm : '\x00' ∈ name.toList := by
      by_contra hm
      rw [Text.nulPosition?_eq_none_iff.mpr hm] at hn
      cases hn
    exact iff_of_false nofun (not_not_intro (Or.inl hm))
  | none => simp [Text.nulPosition?_eq_none_iff.mp hn, or_assoc]

/-- A name that the registry has is not registered again. -/
theorem run_registerFunction_of_taken (h : l.state.hasFunction name = true) (arity : Int)
    (body : List Value → Except Sql.FunctionFault Value) (complaint : Option Sql.Fault) :
    ((registerFunction name arity body complaint).run.run l).1 =
        .error (.duplicateFunction name) ∧
      ((registerFunction name arity body complaint).run.run l).2.state = l.state := by
  rw [registerFunction, Op.run_bracket]
  dsimp only
  rw [Op.run_bind, Op.run_state]
  dsimp only
  rw [Logged.state_noting, h, if_pos rfl]
  exact ⟨rfl, rfl⟩

/-- A function that the engine refuses leaves nothing behind. -/
theorem run_registerFunction_of_refused (h : l.state.hasFunction name = false)
    (hr : Refused name arity) (body : List Value → Except Sql.FunctionFault Value)
    (complaint : Option Sql.Fault) :
    (∃ cause, ((registerFunction name arity body complaint).run.run l).1 =
        .error (.persistence "register_function" cause)) ∧
      ((registerFunction name arity body complaint).run.run l).2.state = l.state := by
  rw [registerFunction, Op.run_bracket]
  dsimp only
  rw [Op.run_bind, Op.run_state]
  dsimp only
  rw [Logged.state_noting, h, if_neg Bool.false_ne_true]
  cases hc : refusal? complaint name arity with
  | none => exact absurd hr (refusal?_eq_none_iff.mp hc)
  | some cause => exact ⟨⟨cause, rfl⟩, rfl⟩

theorem run_registerFunction_of_admitted (h : l.state.hasFunction name = false)
    (hr : ¬Refused name arity) (body : List Value → Except Sql.FunctionFault Value)
    (complaint : Option Sql.Fault) :
    ((registerFunction name arity body complaint).run.run l).1 = .ok () ∧
      ((registerFunction name arity body complaint).run.run l).2.state =
        l.state.addFunction (engineFunction name arity body) := by
  rw [registerFunction, Op.run_bracket]
  dsimp only
  rw [Op.run_bind, Op.run_state]
  dsimp only
  rw [Logged.state_noting, h, if_neg Bool.false_ne_true, refusal?_eq_none_iff.mpr hr]
  exact ⟨rfl, rfl⟩

end Registry

/-! ### What is registered along a run -/

/-- The function that an operation registers, if it is a registration and succeeds. -/
def Operation.registered? (l : Logged Registry) : Operation → Option Sql.Function
  | .registerFunction name arity body complaint =>
    match ((Registry.registerFunction name arity body complaint).run.run l).1 with
    | .ok () => some (engineFunction name arity body)
    | .error _ => none
  | _ => none

namespace Registry

variable {l : Logged Registry} {ops : List Operation} {name : String} {arity : Int}
  {body : List Value → Except Sql.FunctionFault Value} {complaint : Option Sql.Fault}

/-- The functions that were registered along a run, in order. -/
def registrations (l : Logged Registry) : List Operation → List Sql.Function
  | [] => []
  | o :: rest => (o.registered? l).toList ++ registrations (o.after l) rest

theorem registrations_append (l : Logged Registry) (ops more : List Operation) :
    registrations l (ops ++ more) = registrations l ops ++ registrations (later l ops) more := by
  induction ops generalizing l with
  | nil => rfl
  | cons o rest ih =>
    rw [List.cons_append, registrations, registrations, ih, List.append_assoc]
    rfl

theorem registrations_concat (l : Logged Registry) (ops : List Operation) (o : Operation) :
    registrations l (ops ++ [o]) =
      registrations l ops ++ (o.registered? (later l ops)).toList := by
  rw [registrations_append, registrations, registrations, List.append_nil]

/-- A registration under some spelling of the name has succeeded in a run of operations. -/
def Taken (l : Logged Registry) (ops : List Operation) (name : String) : Prop :=
  ∃ before spelling arity body complaint rest,
    ops = before ++ .registerFunction spelling arity body complaint :: rest ∧
    ((registerFunction spelling arity body complaint).run.run (later l before)).1 = .ok () ∧
    Sql.Token.sameName spelling name = true

theorem registered?_eq_some_iff {o : Operation} {f : Sql.Function} :
    o.registered? l = some f ↔ ∃ name arity body complaint,
      o = .registerFunction name arity body complaint ∧
      ((registerFunction name arity body complaint).run.run l).1 = .ok () ∧
      f = engineFunction name arity body := by
  constructor
  · intro h
    cases o with
    | registerFunction name arity body complaint =>
      rw [Operation.registered?] at h
      split at h
      · rename_i hk
        exact ⟨name, arity, body, complaint, rfl, hk, (Option.some.inj h).symm⟩
      · cases h
    | _ => cases h
  · rintro ⟨name, arity, body, complaint, rfl, hk, rfl⟩
    rw [Operation.registered?, hk]

theorem mem_registrations_iff {f : Sql.Function} :
    f ∈ registrations l ops ↔
      ∃ before o rest, ops = before ++ o :: rest ∧ o.registered? (later l before) = some f := by
  induction ops generalizing l with
  | nil =>
    refine iff_of_false List.not_mem_nil ?_
    rintro ⟨before, o, rest, h, -⟩
    exact List.append_ne_nil_of_right_ne_nil before (List.cons_ne_nil o rest) h.symm
  | cons o rest ih =>
    rw [registrations, List.mem_append, Option.mem_toList, ih]
    constructor
    · rintro (h | ⟨before, p, more, rfl, h⟩)
      · exact ⟨[], o, rest, rfl, h⟩
      · exact ⟨o :: before, p, more, rfl, h⟩
    · rintro ⟨_ | ⟨q, before⟩, p, more, he, h⟩
      · cases he
        exact Or.inl h
      · cases he
        exact Or.inr ⟨before, p, more, rfl, h⟩

/-- The names that are taken are those of the functions that were registered. -/
theorem taken_iff :
    Taken l ops name ↔ ∃ f ∈ registrations l ops, Sql.Token.sameName f.name name = true := by
  constructor
  · rintro ⟨before, spelling, arity, body, complaint, rest, he, hk, hn⟩
    refine ⟨engineFunction spelling arity body, mem_registrations_iff.mpr ?_, hn⟩
    exact ⟨before, _, rest, he, registered?_eq_some_iff.mpr ⟨_, _, _, _, rfl, hk, rfl⟩⟩
  · rintro ⟨f, hf, hn⟩
    obtain ⟨before, o, rest, he, ho⟩ := mem_registrations_iff.mp hf
    obtain ⟨spelling, arity, body, complaint, rfl, hk, rfl⟩ := registered?_eq_some_iff.mp ho
    exact ⟨before, spelling, arity, body, complaint, rest, he, hk, hn⟩

/-! ### The registry and the engine -/

/-- An operation adds the function that it registers to the engine, and its name to the registry. -/
theorem functions_after (hr : RemembersFunctions l.state) (o : Operation) :
    (o.after l).state.functions =
        l.state.functions ++ (o.registered? l).toList.map (Sql.Token.fold ·.name) ∧
      (o.after l).state.session.connection.functions =
        l.state.session.connection.functions ++ (o.registered? l).toList := by
  have hkept : o.registered? l = none → (o.after l).state.functions = l.state.functions →
      (o.after l).state.session.connection.functions = l.state.session.connection.functions →
      (o.after l).state.functions =
          l.state.functions ++ (o.registered? l).toList.map (Sql.Token.fold ·.name) ∧
        (o.after l).state.session.connection.functions =
          l.state.session.connection.functions ++ (o.registered? l).toList := by
    intro ho hf hc
    rw [ho, hf, hc]
    exact ⟨(List.append_nil _).symm, (List.append_nil _).symm⟩
  cases o with
  | loadText text =>
    have h := (gained_loadText text l).untouched
    exact hkept rfl h.functions h.callable
  | loadFile f path =>
    have h := (gained_loadFile f path l).untouched
    exact hkept rfl h.functions h.callable
  | step s => exact hkept rfl (s.works l).functions.1 (s.works l).functions.2
  | registerFunction name arity body complaint =>
    have hfail : ∀ e, ((registerFunction name arity body complaint).run.run l).1 = .error e →
        (Operation.registerFunction name arity body complaint).registered? l = none := by
      intro e he
      rw [Operation.registered?, he]
    cases hh : l.state.hasFunction name with
    | true =>
      obtain ⟨he, hs⟩ := run_registerFunction_of_taken hh arity body complaint
      exact hkept (hfail _ he) (congrArg Registry.functions hs)
        (congrArg (fun r : Registry => r.session.connection.functions) hs)
    | false =>
      by_cases ha : Refused name arity
      · obtain ⟨⟨cause, he⟩, hs⟩ := run_registerFunction_of_refused hh ha body complaint
        exact hkept (hfail _ he) (congrArg Registry.functions hs)
          (congrArg (fun r : Registry => r.session.connection.functions) hs)
      · obtain ⟨hk, hs⟩ := run_registerFunction_of_admitted hh ha body complaint
        rw [Operation.registered?, hk, Operation.after, hs]
        exact ⟨rfl, hr.functions_addFunction hh⟩

/-- **What the registry and the engine have is what was registered along the run**, besides what
they had before. -/
theorem functions_later (hr : Reachable l.state) (ops : List Operation) :
    (later l ops).state.functions =
        l.state.functions ++ (registrations l ops).map (Sql.Token.fold ·.name) ∧
      (later l ops).state.session.connection.functions =
        l.state.session.connection.functions ++ registrations l ops := by
  induction ops generalizing l with
  | nil => exact ⟨(List.append_nil _).symm, (List.append_nil _).symm⟩
  | cons o rest ih =>
    obtain ⟨hf, hc⟩ := functions_after hr.remembersFunctions o
    obtain ⟨hf', hc'⟩ := ih (l := o.after l) (hr.later [o])
    rw [hf, List.append_assoc, ← List.map_append] at hf'
    rw [hc, List.append_assoc] at hc'
    exact ⟨hf', hc'⟩

section

variable (ho : Opened l.state)
include ho

theorem functions_registered (ops : List Operation) :
    (later l ops).state.session.connection.functions = registrations l ops := by
  rw [(functions_later ho.reachable ops).2, ho.functions.2, List.nil_append]

/-- **A registry has the names that are taken**, under every spelling. -/
theorem hasFunction_iff (ops : List Operation) (name : String) :
    (later l ops).state.hasFunction name = true ↔ Taken l ops name := by
  rw [taken_iff, hasFunction, (functions_later ho.reachable ops).1, ho.functions.1, List.nil_append,
    List.contains_iff_mem, List.mem_map]
  refine exists_congr fun f => and_congr_right fun _ => ?_
  rw [Sql.Token.sameName, beq_iff_eq]

theorem hasFunction_eq_false (h : ¬Taken l ops name) :
    (later l ops).state.hasFunction name = false :=
  Bool.eq_false_iff.mpr (mt (hasFunction_iff ho ops name).mp h)

/-- **Of each name one registration succeeds at most.** -/
theorem distinct_registrations (ops : List Operation) :
    Sql.Function.Distinct (registrations l ops) :=
  functions_registered ho ops ▸ (ho.reachable.later ops).distinct

end

/-! ### Every name is registered once -/

/-- What a registry does with functions at the end of a run of operations. -/
structure RegistersOnce (l : Logged Registry) (ops : List Operation) : Prop where
  /-- The registry has a name if a registration under a spelling of it has succeeded. -/
  has : ∀ name, (later l ops).state.hasFunction name = true ↔ Taken l ops name
  /-- The engine has the functions whose registration has succeeded, in order. -/
  callable : (later l ops).state.session.connection.functions = registrations l ops
  /-- Of each name at most one registration has succeeded. -/
  distinct : Sql.Function.Distinct (registrations l ops)
  /-- A name that is taken is not registered again, in whatever spelling and with whatever arity. -/
  again : ∀ name arity body complaint, Taken l ops name →
    ((registerFunction name arity body complaint).run.run (later l ops)).1 =
        .error (.duplicateFunction name) ∧
      ((registerFunction name arity body complaint).run.run (later l ops)).2.state =
        (later l ops).state
  /-- A function that the engine refuses changes nothing, and its name is not taken by it. -/
  refused : ∀ name arity body complaint, ¬Taken l ops name → Refused name arity →
    (∃ cause, ((registerFunction name arity body complaint).run.run (later l ops)).1 =
        .error (.persistence "register_function" cause)) ∧
      ((registerFunction name arity body complaint).run.run (later l ops)).2.state =
        (later l ops).state ∧
      ¬Taken l (ops ++ [.registerFunction name arity body complaint]) name
  /-- Every other function is registered. -/
  admitted : ∀ name arity body complaint, ¬Taken l ops name → ¬Refused name arity →
    ((registerFunction name arity body complaint).run.run (later l ops)).1 = .ok () ∧
      registrations l (ops ++ [.registerFunction name arity body complaint]) =
        registrations l ops ++ [engineFunction name arity body]
  /-- Whatever is done later, every spelling of the name of a function calls it, as if it were the
  only one. -/
  calls : ∀ f ∈ registrations l ops, ∀ name, Sql.Token.sameName f.name name = true →
    ∀ more count, let functions := (later l (ops ++ more)).state.session.connection.functions
      Sql.Function.resolve functions name count = Sql.Function.resolve [f] name count ∧
        (f.accepts count = true →
          Sql.Function.resolve functions name count = .found (.registered f))
  /-- A statement that is run was prepared with some of the functions, and its calls of registered
  functions are what they would be now. -/
  statements : ∀ sql s p t q, (later l ops).state.session.find sql = (s, .ok p) →
    s.renewed p = (t, .ok q) → ∃ n : Sql.Names, n.resolve q.parsed.statement = .ok q.resolved ∧
      n.functions <+: registrations l ops ∧ ∀ name count f,
        Sql.Function.resolve n.functions name count = .found (.registered f) →
        Sql.Function.resolve (registrations l ops) name count = .found (.registered f)

theorem not_taken_of_refused (h : ¬Taken l ops name) (hr : Refused name arity)
    (ho : Opened l.state) :
    ¬Taken l (ops ++ [.registerFunction name arity body complaint]) name := by
  obtain ⟨⟨cause, he⟩, -⟩ :=
    run_registerFunction_of_refused (hasFunction_eq_false ho h) hr body complaint
  have hn :
      (Operation.registerFunction name arity body complaint).registered? (later l ops) = none := by
    rw [Operation.registered?, he]
  rw [taken_iff, registrations_concat, hn, Option.toList_none, List.append_nil, ← taken_iff]
  exact h

/-- **Every name is registered once.** In every run from the opening of a registry, whatever else
is done, the names that the registry remembers and the functions that the engine has are those of
the registrations that have succeeded. Of all spellings of a name one has succeeded at most; every
later registration fails as a duplicate, and calls keep to the first function. A function that the
engine refuses leaves no trace, and its name is free for the next one. -/
theorem registers_once (ho : Opened l.state) (ops : List Operation) : RegistersOnce l ops where
  has := hasFunction_iff ho ops
  callable := functions_registered ho ops
  distinct := distinct_registrations ho ops
  again _ arity body complaint h :=
    run_registerFunction_of_taken ((hasFunction_iff ho ops _).mpr h) arity body complaint
  refused _ _ body complaint h hr := by
    obtain ⟨he, hs⟩ :=
      run_registerFunction_of_refused (hasFunction_eq_false ho h) hr body complaint
    exact ⟨he, hs, not_taken_of_refused h hr ho⟩
  admitted _ _ body complaint h hr := by
    obtain ⟨hk, -⟩ :=
      run_registerFunction_of_admitted (hasFunction_eq_false ho h) hr body complaint
    refine ⟨hk, ?_⟩
    rw [registrations_concat, registered?_eq_some_iff.mpr ⟨_, _, _, _, rfl, hk, rfl⟩]
    rfl
  calls f hf name hn more count := by
    have hm : f ∈ registrations l (ops ++ more) := by
      rw [registrations_append]
      exact List.mem_append_left _ hf
    have he := (distinct_registrations ho (ops ++ more)).resolve_eq hm hn count
    dsimp only
    rw [functions_registered ho]
    exact ⟨he, fun hc => he.trans (Sql.Function.resolve_singleton hn hc)⟩
  statements sql s p t q hf hr := by
    have hd := (ho.reachable.later ops).dated
    have hs := (later l ops).state.session.functions_find sql
    obtain ⟨n, hn, hp⟩ := Sql.Session.exists_names_of_renewed (hd.datesBack_find hf) hr
    rw [hf, functions_registered ho] at hs
    rw [hs] at hp
    exact ⟨n, hn, hp, fun _ _ _ h => (distinct_registrations ho ops).resolve_of_isPrefix hp h⟩

/-- A function that takes no arguments is registered once the engine has refused it with too many,
and another spelling of its name is a duplicate then. -/
def spellings : List Operation :=
  [.registerFunction "hail" 128 (fun _ => .ok .null) none,
    .registerFunction "hail" 0 (fun _ => .ok (.text "first")) none,
    .registerFunction "HAIL" 1 (fun _ => .ok (.text "second")) none,
    .loadText "-- :name greeting :one\nselect Hail()\n"]

/-- The statement of a query calls the function that was registered first. -/
theorem registers_once_spellings :
    RegistersOnce (inMemory distinctSchema) spellings ∧
      (later (inMemory distinctSchema) spellings).state.functions = ["hail"] ∧
      ((call "greeting" .none).run.run (later (inMemory distinctSchema) spellings)).1 =
        .ok (.value (some (.text "first"))) := by
  obtain ⟨ho, hf, hc⟩ : (openInMemory distinctSchema).isOk = true ∧
      (later (inMemory distinctSchema) spellings).state.functions = ["hail"] ∧
      ((call "greeting" .none).run.run (later (inMemory distinctSchema) spellings)).1 =
        .ok (.value (some (.text "first"))) := by
    decide +kernel
  exact ⟨registers_once (opened_inMemory ho) spellings, hf, hc⟩

end Registry

end NamedSql
