import NamedSql.Error

/-!
# Query specifications

What an annotated text says about one query, before it is checked against the kinds and the
engine.

## Main definitions

* `QuerySpec` — name, kind and argument as written, body and line
* `QuerySpec.header`, `QuerySpec.display` — the header line, and header and body together
* `QuerySpec.compile` — the shape of the query, or why it has none

## Main results

* `QuerySpec.compile_eq_ok_iff` — when a specification has a shape, and which
-/

namespace NamedSql

/-- What an annotated text says about one query, before anything of it has been checked but the form
of its header. -/
structure QuerySpec where
  name : String
  /-- The identifier of the kind, as written. -/
  kind : String
  /-- The argument of the kind, if there is one. -/
  arg : Option String
  /-- The lines of the body, each with a line feed at its end. -/
  sql : String
  /-- The line of the header, counted from one. -/
  line : Nat
deriving DecidableEq, Repr, Inhabited

namespace QuerySpec

/-- The header line, with the argument between parentheses. -/
def header (spec : QuerySpec) : String :=
  match spec.arg with
  | some arg => "-- :name " ++ spec.name ++ " :" ++ spec.kind ++ "(" ++ arg ++ ")"
  | none => "-- :name " ++ spec.name ++ " :" ++ spec.kind

/-- The header line and the body, as a block of an annotated text. A line of the body may turn out
to be a header there, since the blanks in front of it are gone. -/
def display (spec : QuerySpec) : String := spec.header ++ "\n" ++ spec.sql

/-- The shape of the query. The kind has to exist, and an argument is for kinds that take one. -/
def compile (spec : QuerySpec) : Except Error QueryShape :=
  match QueryKind.ofIdentifier? spec.kind with
  | none => .error (.unknownKind spec.name spec.kind)
  | some kind =>
    if spec.arg.isSome && !kind.acceptsArgument then .error (.invalidArgument spec.name kind)
    else .ok (.ofKind kind spec.arg)

theorem compile_eq_ok_iff {spec : QuerySpec} {shape : QueryShape} :
    spec.compile = .ok shape ↔
      ∃ kind, QueryKind.ofIdentifier? spec.kind = some kind ∧
        (spec.arg.isSome → kind.acceptsArgument) ∧ shape = .ofKind kind spec.arg := by
  unfold compile
  cases h : QueryKind.ofIdentifier? spec.kind with
  | none => simp
  | some kind =>
    by_cases hc : (spec.arg.isSome && !kind.acceptsArgument) = true
    · simp only [hc, if_true, reduceCtorEq, false_iff]
      rintro ⟨k, hk, ha, -⟩
      cases hk
      simp_all
    · simp only [hc, Bool.false_eq_true, if_false, Except.ok.injEq]
      constructor
      · rintro rfl
        exact ⟨kind, rfl, by simp_all, rfl⟩
      · rintro ⟨k, hk, -, rfl⟩
        cases hk
        rfl

end QuerySpec

end NamedSql
