import NamedSql.Proofs.Registry.Causes
import NamedSql.Proofs.Registry.Representation
import NamedSql.Proofs.Registry.Requirements

/-!
# Classes of errors

Which errors an operation of a registry can fail with. Callers tell errors apart by their classes,
so the classes of every operation are closed: loading fails with what concerns the author of a text,
calling with what concerns the query that was called, and a transaction with its wrapper and nothing
else.

## Scope

All of this holds in every state of a registry, reachable or not, at every depth. A statement that
fails is reported under the name that its query has, and a query that is missing or has another
shape under the name that was asked for. These are the same as long as the table has the query under
its own name, as it does in every reachable registry.

The records of a batch are a list here; a batch whose records run scripts of their own may also be
marked by a unit inside it that has failed.

## Main definitions

* `Op.FailsWith` — an operation fails only with errors of some class
* `Error.IsOfSpec`, `Error.IsOfText` — errors that concern a query of a text
* `Registry.Owns` — what the table has under a name has that name
* `Error.IsOfCall` — errors of calling a query of a registry under some name

## Main results

* `Registry.failsWith_check`, `Registry.failsWith_checkAll` — the errors of the checks
* `Registry.isOfCall_of_call`, `Registry.isOfCall_of_ask` — the errors of calls
* `Registry.classes_of_errors` — the errors of every operation
-/

namespace NamedSql

open Blocks

/-! ### Operations that fail with errors of a class -/

namespace Op

variable {σ α β : Type} {P : Error → Prop}

/-- The operation fails only with errors of a class, whatever state it runs in. -/
def FailsWith (P : Error → Prop) (op : Op σ α) : Prop :=
  ∀ l e, (op.run.run l).1 = .error e → P e

theorem failsWith_pure (a : α) : FailsWith P (pure a : Op σ α) := fun _ _ h => nomatch h

theorem failsWith_ofAction (a : Action σ α) : FailsWith P (ofAction a) := fun _ _ h => nomatch h

theorem FailsWith.bind {x : Op σ α} {f : α → Op σ β} (hx : FailsWith P x)
    (hf : ∀ a, FailsWith P (f a)) : FailsWith P (x >>= f) := by
  intro l e he
  have hl := hx l
  rw [run_bind] at he
  generalize x.run.run l = p at hl he
  obtain ⟨_ | a, m⟩ := p
  · cases he
    exact hl e rfl
  · exact hf a m e he

theorem FailsWith.bracket {op : Op σ α} (h : FailsWith P op) (name : String)
    (first : List (String × Log.FieldValue)) (last : α → List (String × Log.FieldValue)) :
    FailsWith P (bracket name first last op) := by
  intro l e he
  rw [run_bracket] at he
  exact h _ e he

end Op

/-! ### Classes -/

/-- The query stands in a text at the line of its header. -/
def QuerySpec.HeadedIn (text : String) (spec : QuerySpec) : Prop :=
  ∃ i line, (linesOfText text)[i]? = some line ∧ Line.of line = .header spec.toHeader ∧
    spec.line = i + 1

/-- If the table has a query under the name, the query has that name. -/
def Registry.Owns (r : Registry) (name : String) : Prop :=
  ∀ q, r.query? name = some q → q.name = name

theorem Registry.Reachable.owns {r : Registry} (h : Reachable r) (name : String) : r.Owns name :=
  h.coherent.own name

namespace Error

variable {e : Error} {r : Registry} {name : String} {spec : QuerySpec}

/-- The error concerns a query that has been read: it is one for authors and names the query, and if
it is that of a statement that is refused, it gives the line of the query. -/
structure IsOfSpec (spec : QuerySpec) (e : Error) : Prop where
  isAuthoring : e.kind.isAuthoring = true
  queryName : e.queryName = some spec.name
  line : ∀ name line cause code, e = .prepareFailed name line cause code → line = spec.line

/-- The error concerns a query of a text. -/
def IsOfText (text : String) (e : Error) : Prop :=
  ∃ specs spec, QuerySpec.readAll text = .ok specs ∧ spec ∈ specs ∧ spec.HeadedIn text ∧
    e.IsOfSpec spec

/-- The error is one of calling a query of a registry under a name, and tells that name. -/
structure IsOfCall (r : Registry) (name : String) (e : Error) : Prop where
  kind : e.kind = .notFound ∨ e.kind = .kindMismatch ∨ e.kind = .queryExecution
  queryName : r.Owns name → e.queryName = some name
  not_isAuthoring : e.kind.isAuthoring = false

theorem isOfCall_unknownQuery (r : Registry) (name : String) :
    IsOfCall r name (.unknownQuery name) := ⟨Or.inl rfl, fun _ => rfl, rfl⟩

theorem isOfCall_kindMismatch (r : Registry) (name expected actual : String) :
    IsOfCall r name (.kindMismatch name expected actual) :=
  ⟨Or.inr (Or.inl rfl), fun _ => rfl, rfl⟩

theorem isOfCall_callError {q : Query} (hq : r.query? name = some q) (f : Sql.Failure) :
    IsOfCall r name (Registry.callError q f) :=
  ⟨Or.inr (Or.inr rfl), fun ho => congrArg some (ho q hq), rfl⟩

/-- What is reported of a specification concerns it. -/
theorem isOfSpec_of_reports {requirement : Requirement} (h : requirement.Reports spec e) :
    e.IsOfSpec spec := by
  cases requirement with
  | statement =>
    obtain ⟨cause, code, rfl⟩ := h
    refine ⟨rfl, rfl, ?_⟩
    rintro name line cause' code' ⟨⟩
    rfl
  | argument =>
    obtain ⟨kind, -, rfl⟩ := h
    exact ⟨rfl, rfl, by rintro _ _ _ _ ⟨⟩⟩
  | _ =>
    cases h
    exact ⟨rfl, rfl, by rintro _ _ _ _ ⟨⟩⟩

end Error

/-! ### Reading -/

namespace QuerySpec

variable {text : String}

theorem kind_of_faultAt {ls : List (List Char)} {i : Nat} {e : Error} (h : FaultAt ls i e) :
    e.kind = .parseStructure := by
  cases h with
  | malformed hl hh hr => rfl
  | stray hl hb hn => rfl
  | empty hb he =>
    obtain ⟨before, l, block, h, -, -, -, -, rfl⟩ := hb
    rfl

/-- A text that cannot be read has an error of structure. -/
theorem kind_of_readAll {e : Error} (h : readAll text = .error e) : e.kind = .parseStructure := by
  obtain ⟨i, hi, -⟩ := ((outcome_readAll text).eq_error_iff e).mp h
  exact kind_of_faultAt hi

theorem headedIn_of_mem {specs : List QuerySpec} {spec : QuerySpec} (h : readAll text = .ok specs)
    (hs : spec ∈ specs) : spec.HeadedIn text := by
  obtain ⟨i, line, hd, hl, hh, hr, rfl, -, hi⟩ := exists_block_of_mem h hs
  exact ⟨i, line, hl, Line.of_header hh hr, hi⟩

end QuerySpec

namespace Registry

variable {text name : String}

/-! ### Loads -/

theorem failsWith_check (held : String → Bool) (seen : List String) (spec : QuerySpec) :
    Op.FailsWith (Error.IsOfSpec spec) (check held seen spec : Op Registry Query) := by
  intro l e he
  obtain ⟨requirement, hr⟩ := exists_reports_of_check he
  exact Error.isOfSpec_of_reports hr

/-- Checking specifications fails with an error that concerns one of them. The induction is on the
specifications, for any names that have been seen before them. -/
theorem failsWith_checkAll (held : String → Bool) (specs : List QuerySpec) (seen : List String) :
    Op.FailsWith (fun e => ∃ spec ∈ specs, e.IsOfSpec spec)
      (checkAll held seen specs : Op Registry (List Query)) := by
  induction specs generalizing seen with
  | nil => exact Op.failsWith_pure _
  | cons spec rest ih =>
    have hs : Op.FailsWith (fun e => ∃ s ∈ spec :: rest, e.IsOfSpec s)
        (check held seen spec : Op Registry Query) :=
      fun l e he => ⟨spec, List.mem_cons_self, failsWith_check held seen spec l e he⟩
    refine hs.bind fun q => ?_
    have hr : Op.FailsWith (fun e => ∃ s ∈ spec :: rest, e.IsOfSpec s)
        (checkAll held (seen ++ [q.name]) rest : Op Registry (List Query)) := by
      intro l e he
      obtain ⟨s, hm, hs⟩ := ih (seen ++ [q.name]) l e he
      exact ⟨s, List.mem_cons_of_mem spec hm, hs⟩
    exact hr.bind fun queries => Op.failsWith_pure _

/-- Loading what has been read fails with an error that concerns a query of it. -/
theorem failsWith_loadSpecs (specs : List QuerySpec) :
    Op.FailsWith (fun e => ∃ spec ∈ specs, e.IsOfSpec spec) (do
      Op.change fun r : Registry => r.reserve specs.length
      let queries ← checkAll (← Op.state).contains [] specs
      Op.change fun r => r.addQueries queries
      return queries.length) := by
  refine (Op.failsWith_ofAction _).bind fun _ => (Op.failsWith_ofAction _).bind fun r => ?_
  refine (failsWith_checkAll r.contains specs []).bind fun queries => ?_
  exact (Op.failsWith_ofAction _).bind fun _ => Op.failsWith_pure _

/-- A load fails as reading does, or with an error that concerns a query that has been read. -/
theorem failsWith_load (source : String) (read : Except Error (List QuerySpec)) :
    Op.FailsWith (fun e => read = .error e ∨
      ∃ specs spec, read = .ok specs ∧ spec ∈ specs ∧ e.IsOfSpec spec)
      (load source read : Op Registry Nat) := by
  refine Op.FailsWith.bracket ?_ _ _ _
  intro l e he
  rw [Op.run_bind, Op.run_ofResult] at he
  cases read with
  | error x =>
    cases he
    exact Or.inl rfl
  | ok specs =>
    obtain ⟨spec, hm, hs⟩ := failsWith_loadSpecs specs l e he
    exact Or.inr ⟨specs, spec, rfl, hm, hs⟩

/-- The error of an annotated text, which has been read or not: it is one for authors, and it
concerns a query of the text unless it is one of structure. -/
theorem isOfText_of_load {source : String} {l : Logged Registry} {e : Error}
    (h : ((load source (QuerySpec.readAll text)).run.run l).1 = .error e) :
    e.kind.isAuthoring = true ∧ (e.kind = .parseStructure ∨ e.IsOfText text) := by
  rcases failsWith_load source _ l e h with hr | ⟨specs, spec, hr, hm, hs⟩
  · have hk := QuerySpec.kind_of_readAll hr
    exact ⟨by rw [hk]; rfl, Or.inl hk⟩
  · exact ⟨hs.isAuthoring, Or.inr ⟨specs, spec, hr, hm, QuerySpec.headedIn_of_mem hr hm, hs⟩⟩

theorem load_of_loadText {l : Logged Registry} {e : Error}
    (h : ((loadText text).run.run l).1 = .error e) :
    ((load textSource (QuerySpec.readAll text)).run.run l).1 = .error e := by
  rw [loadText, Op.run_bind] at h
  generalize (load textSource (QuerySpec.readAll text)).run.run l = p at h ⊢
  obtain ⟨x | count, m⟩ := p
  · cases h
    rfl
  · cases h

/-- A file fails to load because it cannot be read, or as its text does. -/
theorem load_of_loadFile {f : Files} {path : String} {l : Logged Registry} {e : Error}
    (h : ((loadFile f path).run.run l).1 = .error e) :
    e.kind = .io ∨ ∃ place text, f.canonical path = .ok place ∧ f.textAt place = .ok text ∧
      ((load path (QuerySpec.readAll text)).run.run l).1 = .error e := by
  rw [loadFile] at h
  cases hc : f.canonical path with
  | error fault =>
    rw [hc] at h
    cases h
    exact Or.inl rfl
  | ok place =>
    rw [hc] at h
    dsimp only at h
    rw [Op.run_bind, Op.run_state] at h
    dsimp only at h
    split at h
    · cases h
    · rw [Op.run_bind] at h
      have hl : ((load path (readQueries (f.absolute place) (f.textAt place))).run.run l).1 =
          .error e := by
        generalize (load path (readQueries (f.absolute place) (f.textAt place))).run.run l = p
          at h ⊢
        obtain ⟨x | count, m⟩ := p
        · cases h
          rfl
        · cases h
      cases ht : f.textAt place with
      | error fault =>
        rw [ht] at hl
        rcases failsWith_load _ _ l e hl with hr | ⟨specs, spec, hr, -⟩
        · cases hr
          exact Or.inl rfl
        · cases hr
      | ok text =>
        rw [ht] at hl
        exact Or.inr ⟨place, text, rfl, ht, hl⟩

/-! ### Calls -/

theorem query?_of_found {r : Registry} {q : Query} (h : r.found name = .ok q) :
    r.query? name = some q := by
  rw [found] at h
  split at h
  · rename_i hq
    cases h
    exact hq
  · cases h

theorem isOfCall_of_found {r : Registry} {e : Error} (h : r.found name = .error e) :
    e.IsOfCall r name := by
  rw [found] at h
  split at h
  · cases h
  · cases h
    exact Error.isOfCall_unknownQuery r name

theorem query?_of_chosen {r : Registry} {a : Accessor} {q : Query} (h : r.chosen a name = .ok q) :
    r.query? name = some q := by
  rw [chosen] at h
  split at h
  · rename_i hf
    split at h
    · cases h
      exact query?_of_found hf
    · cases h
  · cases h

theorem isOfCall_of_chosen {r : Registry} {a : Accessor} {e : Error}
    (h : r.chosen a name = .error e) : e.IsOfCall r name := by
  rw [chosen] at h
  split at h
  · split at h
    · cases h
    · cases h
      exact Error.isOfCall_kindMismatch r name _ _
  · rename_i hf
    cases h
    exact isOfCall_of_found hf

/-- A general call fails with an error of calling the query of its name. -/
theorem isOfCall_of_call {params : Params} {l : Logged Registry} {e : Error}
    (h : ((call name params).run.run l).1 = .error e) : e.IsOfCall l.state name := by
  rw [← errorOf?_eq_some_iff, errorOf?_call] at h
  cases hf : l.state.found name with
  | error x =>
    rw [hf] at h
    cases h
    exact isOfCall_of_found hf
  | ok q =>
    rw [hf] at h
    obtain ⟨f, -, rfl⟩ := Option.map_eq_some_iff.mp h
    exact Error.isOfCall_callError (query?_of_found hf) f

/-- So does a call by an accessor. -/
theorem isOfCall_of_ask {a : Accessor} {x : a.Argument} {l : Logged Registry} {e : Error}
    (h : ((ask name a x).run.run l).1 = .error e) : e.IsOfCall l.state name := by
  cases hc : l.state.chosen a name with
  | error y =>
    rw [run_ask, hc] at h
    cases h
    exact isOfCall_of_chosen hc
  | ok q =>
    -- The accessor is the one of the shape, which does what a general call does.
    obtain rfl := eq_ofShape_of_chosen hc
    rw [run_ask, hc] at h
    have hp := run_perform q x l
    have he : ((perform q ((Accessor.ofShape q.shape).params x)).run.run l).1 = .error e := by
      rw [hp]
      exact map_eq_error_iff.mpr h
    rw [← errorOf?_eq_some_iff, errorOf?_perform] at he
    obtain ⟨f, -, rfl⟩ := Option.map_eq_some_iff.mp he
    exact Error.isOfCall_callError (query?_of_chosen hc) f

/-! ### Batches -/

/-- The records of a batch are inserted without touching the mark, and what fails is a call. -/
theorem insertAll_fails (q : Query) (records : List Record) (last : Option Int64) (count : Nat)
    (l : Logged Registry) :
    (∀ e, ((insertAll q last count records).run.run l).1 = .error e → ∃ f, e = callError q f) ∧
      ((insertAll q last count records).run.run l).2.state.rollbackOnly =
        l.state.rollbackOnly := by
  induction records generalizing last count l with
  | nil => exact ⟨nofun, rfl⟩
  | cons record rest ih =>
    rw [run_insertAll_cons]
    cases hw : written q (.named record) l.state.session with
    | error x =>
      refine ⟨fun e he => ?_, rfl⟩
      cases he
      exact eq_callError_of_written hw
    | ok w => exact ih (some w.lastRowid) (count + 1) (l.invoked ⟨q, .named record⟩)

/-- What keeps a unit from being committed that nothing inside has marked is the engine. -/
theorem eq_persistence_of_obstacle? {l : Logged Registry} {left : Registry} {c : Cause}
    (hm : l.state.depth = 0 → left.rollbackOnly = false) (h : obstacle? l left = some c) :
    ∃ cause, c.error = .persistence "commit" cause := by
  rw [obstacle?] at h
  split at h
  · cases h
  · rename_i hd
    rw [hm (Nat.eq_zero_of_not_pos hd), if_neg Bool.false_ne_true] at h
    obtain ⟨f, -, rfl⟩ := Option.map_eq_some_iff.mp h
    exact ⟨f.message, rfl⟩

/-- The body of an outermost unit starts without a mark. -/
theorem rollbackOnly_of_entered {l m : Logged Registry} {event : Log.Event}
    (h : l.entered event = some m) (hd : l.state.depth = 0) : m.state.rollbackOnly = false := by
  rw [Logged.entered, hd, if_neg (Nat.lt_irrefl 0)] at h
  split at h
  · cases h
    rfl
  · cases h

/-- A batch fails with an error of calling its query, or because its unit does not begin or is not
committed. -/
theorem error_of_insertMany {records : List Record} {l : Logged Registry} {e : Error}
    (h : ((insertMany name records).run.run l).1 = .error e) :
    e.IsOfCall l.state name ∨
      ∃ cause, e = .persistence "begin" cause ∨ e = .persistence "commit" cause := by
  cases hc : l.state.chosen .insert name with
  | error x =>
    have hb : ((insertMany name records).run.run l).1 =
        ((tracedBatch () name fun q => Op.traced (insertAll q none 0 records)).run
          l).1.result := rfl
    rw [hb, run_tracedBatch, hc] at h
    cases h
    exact Or.inl (isOfCall_of_chosen hc)
  | ok q =>
    rw [run_insertMany hc] at h
    have hu := errorOf?_eq_some_iff.mpr (map_eq_error_iff.mp h)
    rw [errorOf?_unit] at hu
    cases hm : l.entered (batchStart l name) with
    | none =>
      rw [hm] at hu
      cases hu
      exact Or.inr ⟨_, Or.inl rfl⟩
    | some m =>
      rw [hm] at hu
      obtain ⟨hcall, hmark⟩ := insertAll_fails q records none 0 m
      rcases Option.or_eq_some_iff.mp hu with hx | ⟨-, hx⟩
      · obtain ⟨f, rfl⟩ := hcall e (errorOf?_eq_some_iff.mp hx)
        exact Or.inl (Error.isOfCall_callError (query?_of_chosen hc) f)
      · obtain ⟨c, ho, rfl⟩ := Option.map_eq_some_iff.mp hx
        obtain ⟨cause, hp⟩ := eq_persistence_of_obstacle?
          (fun hd => hmark.trans (rollbackOnly_of_entered hm hd)) ho
        exact Or.inr ⟨cause, Or.inr hp⟩

/-! ### Registrations and transactions -/

theorem kind_of_registerFunction {arity : Int} {body : List Value → Except Sql.FunctionFault Value}
    {complaint : Option Sql.Fault}
    {l : Logged Registry} {e : Error}
    (h : ((registerFunction name arity body complaint).run.run l).1 = .error e) :
    e.kind = .duplicateFunction ∨ e.kind = .persistence := by
  rw [registerFunction, Op.run_bracket] at h
  dsimp only at h
  rw [Op.run_bind, Op.run_state] at h
  dsimp only at h
  split at h
  · cases h
    exact Or.inl rfl
  · cases hr : refusal? complaint name arity with
    | some cause =>
      rw [hr] at h
      cases h
      exact Or.inr rfl
    | none =>
      rw [hr] at h
      cases h

/-- A transaction fails with its wrapper. -/
theorem eq_transactionAborted_of_wrap {α : Type} {r : Except Error α} {e : Error}
    (h : r.mapError Error.wrap = .error e) : ∃ source, e = .transactionAborted source := by
  cases r with
  | ok a => cases h
  | error x =>
    cases h
    cases x with
    | transactionAborted source => exact ⟨source, rfl⟩
    | _ => exact ⟨_, rfl⟩

/-- **The classes of errors are closed.** In every state, for all inputs: loading a text fails with
errors for its author, and each of them concerns a query of the text unless it is one of structure;
loading a file may also fail because the file cannot be read. Registering a function fails because
of its name or because the engine refuses it. A call fails with an error of the query of its name,
in general and by every accessor; a batch may also fail to begin or to be committed. In a reachable
registry that name is the one that was called. A transaction fails with its wrapper, whatever its
body does. -/
theorem classes_of_errors (l : Logged Registry) :
    (∀ text e, ((loadText text).run.run l).1 = .error e →
      e.kind.isAuthoring = true ∧ (e.kind = .parseStructure ∨ e.IsOfText text)) ∧
    (∀ f path e, ((loadFile f path).run.run l).1 = .error e →
      e.kind = .io ∨ e.kind.isAuthoring = true ∧ (e.kind = .parseStructure ∨
        ∃ place text, f.canonical path = .ok place ∧ f.textAt place = .ok text ∧
          e.IsOfText text)) ∧
    (∀ name arity body complaint e,
      ((registerFunction name arity body complaint).run.run l).1 = .error e →
      e.kind = .duplicateFunction ∨ e.kind = .persistence) ∧
    (∀ name params e, ((call name params).run.run l).1 = .error e → e.IsOfCall l.state name) ∧
    (∀ name (a : Accessor) (x : a.Argument) e, ((ask name a x).run.run l).1 = .error e →
      e.IsOfCall l.state name) ∧
    (∀ name records e, ((insertMany name records).run.run l).1 = .error e →
      e.IsOfCall l.state name ∨
        ∃ cause, e = .persistence "begin" cause ∨ e = .persistence "commit" cause) ∧
    (Reachable l.state → ∀ name, l.state.Owns name) ∧
    (∀ (α : Type) (body : Op Registry α) e, ((transaction body).run.run l).1 = .error e →
      ∃ source, e = .transactionAborted source) ∧
    ∀ (τ α : Type) (skipped : τ) (body : Action Registry (Outcome τ α)) e,
      ((tracedTransaction skipped body).run l).1.result = .error e →
        ∃ source, e = .transactionAborted source := by
  refine ⟨fun text e h => isOfText_of_load (load_of_loadText h), fun f path e h => ?_,
    fun name arity body complaint e => kind_of_registerFunction,
    fun name params e => isOfCall_of_call,
    fun name a x e => isOfCall_of_ask, fun name records e => error_of_insertMany,
    fun hr => hr.owns, fun α body e h => ?_, fun τ α skipped body e h => ?_⟩
  · rcases load_of_loadFile h with hi | ⟨place, text, hc, ht, hl⟩
    · exact Or.inl hi
    · obtain ⟨ha, hk | hs⟩ := isOfText_of_load hl
      · exact Or.inr ⟨ha, Or.inl hk⟩
      · exact Or.inr ⟨ha, Or.inr ⟨place, text, hc, ht, hs⟩⟩
  · rw [run_transaction] at h
    exact eq_transactionAborted_of_wrap h
  · rw [run_tracedTransaction] at h
    exact eq_transactionAborted_of_wrap h

end Registry

end NamedSql
