import NamedSql.Proofs.Registry.Loading
import NamedSql.Proofs.Sql.Counting

/-!
# What a load asks of a specification

A load asks the same of every specification, in a fixed order: a known kind, no argument but where
the kind takes one, a name that is not reserved, a name that is not in use, and a body with one
statement that can be prepared. The error of a check is that of the first thing that its
specification lacks.

What is asked of a specification depends on where it stands: a name is in use if the registry holds
it or if an earlier specification has it, and the bodies of the earlier ones have been prepared.

## Scope

What an engine says of a statement that it refuses is left open. A statement is one that the engine
sees, and it sees nothing behind a NUL character.

## Main definitions

* `Requirement` — what is asked of a specification, `Requirement.Reports` — the error if it lacks it
* `Standing` — what the answers depend on
* `Standing.Accepts`, `Standing.Refuses` — the answers

## Main results

* `Registry.met_of_checkHeader`, `Registry.refuses_of_checkHeader` — what the checks of a header say
* `Registry.exists_reports_of_check` — a check that fails reports something that is lacking
-/

namespace NamedSql

/-! ### Requirements -/

/-- What a load asks of a specification, one thing at a time. -/
inductive Requirement where
  /-- The kind is one of those that there are, spelt as it should be. -/
  | kind
  /-- There is no argument, unless the kind takes one. -/
  | argument
  /-- The name is not reserved for the registry itself. -/
  | unreserved
  /-- The name is not in use, neither in the registry nor earlier in the text. -/
  | unused
  /-- The body has one statement, which can be prepared. -/
  | statement
deriving DecidableEq, Repr

/-- What the answers depend on: the names in use, and the connection. -/
structure Standing where
  /-- The names that the registry holds, from the loads before this one. -/
  held : String → Bool
  /-- The names of the earlier specifications of the same text, which have been accepted. -/
  seen : List String
  connection : Sql.Connection

namespace Requirement

/-- The order in which a load asks. The first thing that is missing is the one that is reported. -/
def inOrder : List Requirement := [.kind, .argument, .unreserved, .unused, .statement]

/-- What a specification has to have, to meet one of the requirements where it stands. -/
def Met (st : Standing) (spec : QuerySpec) : Requirement → Prop
  | .kind => spec.kind ∈ QueryKind.values.map QueryKind.identifier
  | .argument => spec.arg.isSome = true → spec.kind = "get" ∨ spec.kind = "all"
  | .unreserved => spec.name ∉ reservedNames
  | .unused => st.held spec.name = false ∧ spec.name ∉ st.seen
  | .statement =>
    (Sql.statements spec.sql.toList).length = 1 ∧ st.connection.Resolves spec.sql

/-- What a load says of a specification that lacks something, which is an error of one kind for each
requirement. -/
def Reports (spec : QuerySpec) : Requirement → Error → Prop
  | .kind, e => e = .unknownKind spec.name spec.kind
  | .argument, e => ∃ kind, spec.kind = kind.identifier ∧ e = .invalidArgument spec.name kind
  | .unreserved, e => e = .reservedName spec.name
  | .unused, e => e = .duplicateQueryName spec.name
  | .statement, e => ∃ cause code, e = .prepareFailed spec.name spec.line cause code

end Requirement

namespace Standing

variable {st : Standing} {spec : QuerySpec} {specs : List QuerySpec}

/-- The specification has all that is asked for, and so becomes a query if the others do. -/
def Accepts (st : Standing) (spec : QuerySpec) : Prop := ∀ requirement : Requirement,
  requirement.Met st spec

/-- The specification lacks something, and the error is that of the first thing that it lacks. -/
def Refuses (st : Standing) (spec : QuerySpec) (e : Error) : Prop :=
  ∃ earlier requirement later, Requirement.inOrder = earlier ++ requirement :: later ∧
    (∀ r ∈ earlier, r.Met st spec) ∧ ¬ requirement.Met st spec ∧ requirement.Reports spec e

theorem Refuses.not_accepts {e : Error} (h : st.Refuses spec e) : ¬ st.Accepts spec := by
  obtain ⟨-, requirement, -, -, -, hn, -⟩ := h
  exact fun ha => hn (ha requirement)

/-- Where the next specification stands, after one that has been accepted. -/
def next (st : Standing) (spec : QuerySpec) : Standing :=
  { st with seen := st.seen ++ [spec.name], connection := st.connection.readied spec.sql }

end Standing

/-! ### Headers -/

namespace Requirement

variable {st : Standing} {spec : QuerySpec}

theorem met_kind_iff :
    Requirement.kind.Met st spec ↔ ∃ kind, QueryKind.ofIdentifier? spec.kind = some kind := by
  rw [Met, List.mem_map]
  constructor
  · rintro ⟨kind, -, hk⟩
    exact ⟨kind, by rw [← hk, QueryKind.ofIdentifier?_identifier]⟩
  · rintro ⟨kind, hk⟩
    exact ⟨kind, by cases kind <;> decide, (QueryKind.eq_of_ofIdentifier? hk).symm⟩

theorem met_argument_iff {kind : QueryKind} (hk : QueryKind.ofIdentifier? spec.kind = some kind) :
    Requirement.argument.Met st spec ↔ (spec.arg.isSome = true → kind.acceptsArgument = true) := by
  rw [Met, QueryKind.eq_of_ofIdentifier? hk]
  cases kind <;> simp [QueryKind.identifier, QueryKind.acceptsArgument]

end Requirement

namespace Registry

variable {st : Standing} {spec : QuerySpec} {l : Logged Registry} {e : Error}

/-- What a header that passes has, which is everything but the last thing that is asked for. -/
theorem met_of_checkHeader {shape : QueryShape}
    (h : checkHeader st.held st.seen spec = .ok shape) :
    ∀ r ∈ [Requirement.kind, .argument, .unreserved, .unused], r.Met st spec := by
  obtain ⟨hc, hr, hu⟩ := checkHeader_eq_ok_iff.mp h
  obtain ⟨kind, hk, ha, -⟩ := QuerySpec.compile_eq_ok_iff.mp hc
  rw [List.contains_eq_mem, decide_eq_false_iff_not] at hr
  simp only [List.forall_mem_cons]
  exact ⟨Requirement.met_kind_iff.mpr ⟨kind, hk⟩, (Requirement.met_argument_iff hk).mpr ha, hr, hu,
    List.forall_mem_nil _⟩

/-- A header that does not pass lacks the first thing for which the error is reported. -/
theorem refuses_of_checkHeader (h : checkHeader st.held st.seen spec = .error e) :
    st.Refuses spec e := by
  rw [checkHeader, QuerySpec.compile] at h
  cases hk : QueryKind.ofIdentifier? spec.kind with
  | none =>
    rw [hk] at h
    cases h
    refine ⟨[], .kind, _, rfl, List.forall_mem_nil _, ?_, rfl⟩
    rw [Requirement.met_kind_iff, hk]
    rintro ⟨_, ⟨⟩⟩
  | some kind =>
    have hkind : Requirement.kind.Met st spec := Requirement.met_kind_iff.mpr ⟨kind, hk⟩
    rw [hk] at h
    dsimp only at h
    cases ha : spec.arg.isSome && !kind.acceptsArgument with
    | true =>
      rw [ha] at h
      cases h
      refine ⟨[.kind], .argument, _, rfl, by simpa using hkind, ?_,
        kind, QueryKind.eq_of_ofIdentifier? hk, rfl⟩
      rw [Requirement.met_argument_iff hk]
      simpa using ha
    | false =>
      have hargument : Requirement.argument.Met st spec :=
        (Requirement.met_argument_iff hk).mpr (by simpa using ha)
      rw [ha] at h
      cases hr : reservedNames.contains spec.name with
      | true =>
        rw [hr] at h
        cases h
        refine ⟨[.kind, .argument], .unreserved, _, rfl, by simp [hkind, hargument], ?_, rfl⟩
        exact fun hn => hn (List.contains_iff_mem.mp hr)
      | false =>
        have hreserved : Requirement.unreserved.Met st spec := by
          rwa [List.contains_eq_mem, decide_eq_false_iff_not] at hr
        rw [hr] at h
        cases hu : st.held spec.name || st.seen.contains spec.name with
        | true =>
          rw [hu] at h
          cases h
          refine ⟨[.kind, .argument, .unreserved], .unused, _, rfl,
            by simp [hkind, hargument, hreserved], ?_, rfl⟩
          rintro ⟨hh, hs⟩
          rw [hh, Bool.false_or] at hu
          exact hs (List.contains_iff_mem.mp hu)
        | false =>
          rw [hu] at h
          cases h

/-! ### Errors of checks -/

theorem reports_of_bodyFault? {count : Except Sql.Failure Nat}
    (h : bodyFault? spec count = some e) : Requirement.statement.Reports spec e := by
  unfold bodyFault? at h
  split at h
  · cases h
    exact ⟨_, _, rfl⟩
  · cases h
    exact ⟨_, _, rfl⟩
  · cases h
  · cases h
    exact ⟨_, _, rfl⟩

/-- A check whose header has passed fails with what the engine says of the statement, or with how
many there are. -/
theorem reports_of_check_of_checkHeader {held : String → Bool} {seen : List String}
    {shape : QueryShape} (hh : checkHeader held seen spec = .ok shape)
    (h : ((check held seen spec).run.run l).1 = .error e) :
    Requirement.statement.Reports spec e := by
  rw [check, Op.run_bind, Op.run_ofResult, hh] at h
  dsimp only at h
  rw [Op.run_bind, run_countStatement, Engine.countStatements_session] at h
  generalize l.state.session.countStatements 2 spec.sql = counted at h
  obtain ⟨session, count⟩ := counted
  dsimp only at h
  cases hb : bodyFault? spec count with
  | some x =>
    rw [hb] at h
    cases h
    exact reports_of_bodyFault? hb
  | none =>
    rw [hb] at h
    dsimp only at h
    rw [Op.run_bind, Op.run_state] at h
    dsimp only at h
    rw [Engine.prepare_session] at h
    generalize session.prepare spec.sql = prepared at h
    obtain ⟨session', refused⟩ := prepared
    cases refused with
    | some f =>
      cases h
      exact ⟨_, _, rfl⟩
    | none => cases h

/-- The error of a check is one that is reported of its specification. -/
theorem exists_reports_of_check {held : String → Bool} {seen : List String}
    (h : ((check held seen spec).run.run l).1 = .error e) :
    ∃ requirement : Requirement, requirement.Reports spec e := by
  cases hh : checkHeader held seen spec with
  | error x =>
    rw [check, Op.run_bind, Op.run_ofResult, hh] at h
    cases h
    have hr : (⟨held, seen, l.state.session.connection⟩ : Standing).Refuses spec e :=
      refuses_of_checkHeader hh
    obtain ⟨-, requirement, -, -, -, -, hr⟩ := hr
    exact ⟨requirement, hr⟩
  | ok shape => exact ⟨.statement, reports_of_check_of_checkHeader hh h⟩

end Registry

end NamedSql
