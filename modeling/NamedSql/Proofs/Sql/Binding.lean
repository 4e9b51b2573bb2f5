import NamedSql.Proofs.Sql.Afresh

/-!
# Parameters

What a statement is run with. Values that come under names are bound like values that come in the
order of the parameters: each parameter is looked up under its own name, and which other names there
are, and in what order, does not matter. If a name is missing or the number of values is not that of
the parameters, the statement is not run.

## Scope

The statement of a call is found before its parameters are bound, and it may have to be prepared for
that. So a call whose parameters do not fit may still set whether keys of other tables are enforced,
which is set by preparing a statement.

## Main definitions

* `parametersOf` — the parameters of the statement of a text
* `placeholders`, `keys` — what parameters are called, and by what names their values are looked up
* `Record.missing?` — the first parameter for which a record has no value
* `Record.parameter` — the value of a parameter
* `Session.Finds` — the statement of a text is there, or can be prepared
* `Session.Runs` — a call that runs the statement of a text

## Main results

* `bindParameters_named`, `bindParameters_missing` — binding by names
* `Session.Sound.call_congr` — a call depends on its parameters by what they bind
* `Session.Sound.exists_enforcing_call`, `Session.Sound.call_of_kept` — a call whose parameters do
  not fit
-/

namespace NamedSql

namespace Sql

/-! ### Names of parameters -/

/-- The parameters of the statement of a text, each with its name if it has one. -/
def parametersOf (text : String) : List (Option String) :=
  (meaning? text).elim [] Statement.Parsed.parameters

/-- What parameters are called in their statement, counted from a number on. -/
def placeholders (number : Nat) (names : List (Option String)) : List String :=
  (names.zipIdx number).map fun e => placeholder e.2 e.1

/-- The names by which the values of parameters are looked up. -/
def keys (names : List (Option String)) : List String := (placeholders 1 names).map parameterKey

example : keys [some ":a", none, some "?3", some "$b"] = ["a", "?2", "?3", "b"] := by decide

theorem placeholders_cons (number : Nat) (name : Option String) (names : List (Option String)) :
    placeholders number (name :: names) =
      placeholder number name :: placeholders (number + 1) names := rfl

end Sql

/-- The first parameter for which a record has no value, as it is called in its statement. -/
def Record.missing? (r : Record) (names : List (Option String)) : Option String :=
  (Sql.placeholders 1 names).find? fun p => (r.get? (Sql.parameterKey p)).isNone

/-- The value of a parameter of a statement that is run with a record. -/
def Record.parameter (r : Record) (names : List (Option String)) (number : Nat) : Value :=
  (((Sql.keys names)[number - 1]?).bind r.get?).elim .null Sql.bound

namespace Sql

/-! ### Binding -/

section Binding

variable {names : List (Option String)} {r : Record} {values : List Value}

/-- If a record has a value for every parameter, these values are bound. -/
theorem bindNamed_of_supplied {number : Nat}
    (h : (placeholders number names).map (fun p => r.get? (parameterKey p)) = values.map some) :
    bindNamed r number names = .ok (values.map bound) := by
  induction names generalizing number values with
  | nil =>
    cases values with
    | nil => rfl
    | cons v values => cases h
  | cons name names ih =>
    cases values with
    | nil => cases h
    | cons v values =>
      rw [placeholders_cons] at h
      obtain ⟨hv, hrest⟩ := List.cons_eq_cons.mp h
      dsimp only at hv
      rw [bindNamed, hv]
      dsimp only
      rw [ih hrest]
      rfl

/-- If not, the first one is reported for which it has none. -/
theorem bindNamed_of_missing {number : Nat} {p : String}
    (h : (placeholders number names).find? (fun p => (r.get? (parameterKey p)).isNone) = some p) :
    bindNamed r number names = .error (.parameterName p) := by
  induction names generalizing number with
  | nil => cases h
  | cons name names ih =>
    rw [placeholders_cons, List.find?_cons] at h
    rw [bindNamed]
    cases hv : r.get? (parameterKey (placeholder number name)) with
    | none =>
      rw [hv] at h
      cases h
      rfl
    | some v =>
      rw [hv] at h
      dsimp only
      rw [ih h]
      rfl

theorem length_of_supplied (h : (keys names).map r.get? = values.map some) :
    values.length = names.length := by
  have hl := congrArg List.length h
  simpa [keys, placeholders] using hl.symm

/-- Values by name are bound like the same values in the order of the parameters. -/
theorem bindParameters_named (h : (keys names).map r.get? = values.map some) :
    bindParameters names (.named r) = bindParameters names (.positional values) := by
  have hl := length_of_supplied h
  rw [keys, List.map_map] at h
  rw [bindParameters, bindParameters, bindNamed_of_supplied h, bindPositional, if_pos hl]

theorem bindParameters_missing {p : String} (h : r.missing? names = some p) :
    bindParameters names (.named r) = .error (.parameterName p) :=
  bindNamed_of_missing h

/-- A record has a value for every parameter, or there is a first one for which it has none. -/
theorem exists_supplied (h : r.missing? names = none) :
    ∃ values : List Value, (keys names).map r.get? = values.map some := by
  rw [Record.missing?, List.find?_eq_none] at h
  refine ⟨(keys names).map fun key => (r.get? key).getD .null, ?_⟩
  rw [List.map_map]
  refine List.map_congr_left fun key hkey => ?_
  obtain ⟨p, hp, rfl⟩ := List.mem_map.mp hkey
  have hv := h p hp
  rw [Function.comp]
  cases hr : r.get? (parameterKey p) with
  | none =>
    rw [hr] at hv
    exact absurd rfl hv
  | some v => rfl

/-- What a record is bound to is the values of its parameters. -/
theorem parameter_of_bindParameters (h : bindParameters names (.named r) = .ok values)
    (number : Nat) : values.getD (number - 1) .null = r.parameter names number := by
  cases hm : r.missing? names with
  | some p =>
    rw [bindParameters_missing hm] at h
    cases h
  | none =>
    obtain ⟨supplied, hs⟩ := exists_supplied hm
    rw [bindParameters_named hs, bindParameters, bindPositional,
      if_pos (length_of_supplied hs)] at h
    cases h
    have hv : ((keys names)[number - 1]?).map r.get? = (supplied[number - 1]?).map some := by
      rw [← List.getElem?_map, ← List.getElem?_map, hs]
    rw [Record.parameter, List.getD_eq_getElem?_getD, List.getElem?_map]
    generalize (keys names)[number - 1]? = key at hv ⊢
    generalize supplied[number - 1]? = v at hv ⊢
    cases key with
    | none =>
      cases v with
      | none => rfl
      | some v => cases hv
    | some key =>
      cases v with
      | none => cases hv
      | some v =>
        rw [Option.bind_some, Option.some.inj hv]
        rfl

end Binding

/-! ### Calls -/

namespace Session

variable {s t : Session} {sql : String} {p : Prepared}

/-- The statement of a text is there, or can be prepared. -/
def Finds (s : Session) (text : String) : Prop := ∃ t p, s.find text = (t, .ok p)

/-- A call has run the statement of a text with these values. -/
def Runs (s : Session) (text : String) (values : List Value)
    (called : Session × Except Failure Execution) : Prop :=
  ∃ t p, s.find text = (t, .ok p) ∧
    called = ((t.execute text p values).1, .ok (t.execute text p values).2)

theorem call_of_find (hf : s.find (Text.trimmed sql) = (t, .ok p)) (params : Params) :
    s.call sql params =
      match bindParameters p.parsed.parameters params with
      | .error f => (t.keep (Text.trimmed sql) p, .error f)
      | .ok values =>
        let called := t.execute (Text.trimmed sql) p values
        (called.1, .ok called.2) := by
  cases hb : bindParameters p.parsed.parameters params <;> simp only [call, hf, hb]

theorem call_of_find_eq_error {f : Failure} (hf : s.find (Text.trimmed sql) = (t, .error f))
    (params : Params) : s.call sql params = (t, .error f) := by
  rw [call]
  dsimp only
  rw [hf]

/-- A text is found to have its statement, or nothing is found whatever the parameters are. -/
theorem finds_or_fails (s : Session) (sql : String) :
    s.Finds (Text.trimmed sql) ∨ ∃ t f, ∀ params, s.call sql params = (t, .error f) := by
  cases hf : s.find (Text.trimmed sql) with
  | mk t found =>
    cases found with
    | ok p => exact Or.inl ⟨t, p, hf⟩
    | error f => exact Or.inr ⟨t, f, call_of_find_eq_error hf⟩

namespace Sound

variable (h : s.Sound)
include h

/-- What is found under a text has the parameters of the statement of the text. -/
theorem parameters_of_find {text : String} (hf : s.find text = (t, .ok p)) :
    p.parsed.parameters = parametersOf text := by
  rw [parametersOf, (h.comesOf_find hf).meaning]
  rfl

/-- **A call depends on its parameters by what they bind.** -/
theorem call_congr {params params' : Params}
    (hb : bindParameters (parametersOf (Text.trimmed sql)) params =
      bindParameters (parametersOf (Text.trimmed sql)) params') :
    s.call sql params = s.call sql params' := by
  cases hf : s.find (Text.trimmed sql) with
  | mk t found =>
    cases found with
    | error f => rw [call_of_find_eq_error hf, call_of_find_eq_error hf]
    | ok p => rw [call_of_find hf, call_of_find hf, h.parameters_of_find hf, hb]

/-- Parameters that fit are those that the statement is run with. -/
theorem runs_of_bound {params : Params} {values : List Value}
    (hb : bindParameters (parametersOf (Text.trimmed sql)) params = .ok values)
    (hs : s.Finds (Text.trimmed sql)) :
    s.Runs (Text.trimmed sql) values (s.call sql params) := by
  obtain ⟨t, p, hf⟩ := hs
  refine ⟨t, p, hf, ?_⟩
  rw [call_of_find hf, h.parameters_of_find hf, hb]

variable {params : Params} {f : Failure}
  (hb : bindParameters (parametersOf (Text.trimmed sql)) params = .error f)
include hb

theorem call_of_unbound (hf : s.find (Text.trimmed sql) = (t, .ok p)) :
    s.call sql params = (t.keep (Text.trimmed sql) p, .error f) := by
  rw [call_of_find hf, h.parameters_of_find hf, hb]

/-- Parameters that do not fit fail the call. -/
theorem error_of_unbound (hs : s.Finds (Text.trimmed sql)) :
    (s.call sql params).2 = .error f := by
  obtain ⟨t, p, hf⟩ := hs
  rw [h.call_of_unbound hb hf]

/-- **A call whose parameters do not fit** leaves the connection as it is, but for one setting. -/
theorem exists_enforcing_call :
    ∃ on, (s.call sql params).1.connection = s.connection.enforcing on := by
  obtain ⟨on, hon⟩ := s.exists_enforcing_find (Text.trimmed sql)
  refine ⟨on, ?_⟩
  cases hf : s.find (Text.trimmed sql) with
  | mk t found =>
    rw [hf] at hon
    cases found with
    | error f => rwa [call_of_find_eq_error hf]
    | ok p => rwa [h.call_of_unbound hb hf]

/-- If the statement has been kept prepared, the setting is left as well. -/
theorem call_of_kept (hk : s.prepared.lookup (Text.trimmed sql) = some p) :
    s.call sql params = (s.keep (Text.trimmed sql) p, .error f) :=
  h.call_of_unbound hb (find_of_lookup_eq_some hk)

end Sound

end Session

end Sql

end NamedSql
