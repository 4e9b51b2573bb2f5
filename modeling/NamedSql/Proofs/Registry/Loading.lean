import Mathlib.Logic.Relation
import NamedSql.Proofs.Registry.Units
import NamedSql.Proofs.Sql.Prepared
import NamedSql.Registry.Loading

/-!
# Loads

A load checks every specification of a text before the first query of it is added, and the checks
do nothing but prepare statements. So a load that fails leaves nothing behind, however many
specifications had passed, and one that succeeds adds the queries of all of them.

## Scope

Preparing a statement keeps it for later, and may set whether keys of other tables are enforced.
Nothing here depends on which statements are kept prepared.

## Main definitions

* `Registry.Prepares` — one registry is another one but for its prepared statements
* `Registry.Accepted` — specifications that pass the checks, and their queries
* `Registry.Restored`, `Registry.Extended` — what a load leaves alone, and what it adds
* `Registry.Loads` — how a load may end
* `Registry.Gained` — what a load does as one step of a registry, whether or not it fails

## Main results

* `Registry.run_check`, `Registry.run_checkAll` — what the checks do
* `Registry.run_load` — what a load does with its checks
* `Registry.run_load_cases` — a load that fails has prepared statements, and no more
* `Registry.loads_loadText`, `Registry.run_loadFile_cases` — every way in which a load may end
* `Registry.load_atomic` — a load adds all of its queries or leaves nothing behind
-/

namespace NamedSql

namespace QuerySpec

/-- The query of a specification of some shape. -/
def query (spec : QuerySpec) (shape : QueryShape) : Query := ⟨spec.name, spec.sql, spec.line, shape⟩

end QuerySpec

namespace Engine

variable {σ : Type} [Engine σ]

/-- What is done to an engine to have statements ready for later. -/
inductive Readies (s : σ) : σ → Prop
  | counted (limit : Nat) (sql : String) : Readies s (countStatements s limit sql).1
  | prepared (sql : String) : Readies s (prepare s sql).1
  | resized (capacity : Nat) : Readies s (setCapacity s capacity)

/-- A session is made ready by what makes an engine ready. -/
theorem Readies.session {s t : Sql.Session} (h : Readies s t) : s.Readies t := by
  cases h with
  | counted limit sql => exact .counted limit sql
  | prepared sql => exact .prepared sql
  | resized capacity => exact .resized capacity

/-- What makes a session ready leaves its connection as it is, but for one setting. -/
theorem Readies.exists_enforcing {s t : Sql.Session} (h : Readies s t) :
    ∃ on, t.connection = s.connection.enforcing on := by
  cases h with
  | counted limit sql => exact s.exists_enforcing_countStatements limit sql
  | prepared sql => exact s.exists_enforcing_prepare sql
  | resized capacity => exact ⟨s.connection.foreignKeys, rfl⟩

end Engine

namespace Registry

variable {σ : Type}

/-! ### Preparing statements -/

/-- The second registry is the first but for its engine, in which statements have been made
ready. -/
def Prepares [Engine σ] (r r' : Registry σ) : Prop :=
  ∃ session, r' = { r with session } ∧ Relation.ReflTransGen Engine.Readies r.session session

section

variable [Engine σ] {r r' r'' : Registry σ}

theorem Prepares.refl (r : Registry σ) : Prepares r r := ⟨r.session, rfl, .refl⟩

theorem Prepares.trans (h : Prepares r r') (h' : Prepares r' r'') : Prepares r r'' := by
  obtain ⟨session, rfl, hp⟩ := h
  obtain ⟨session', rfl, hp'⟩ := h'
  exact ⟨session', rfl, hp.trans hp'⟩

theorem Prepares.of_session {session : σ} (h : Engine.Readies r.session session) :
    Prepares r { r with session } := ⟨session, rfl, .single h⟩

/-- What stays when statements are made ready stays in a registry that prepares them. -/
theorem Prepares.preserves {P : σ → Prop}
    (readies : ∀ {s t : σ}, Engine.Readies s t → P s → P t) (h : Prepares r r')
    (hp : P r.session) : P r'.session := by
  obtain ⟨session, rfl, hs⟩ := h
  induction hs with
  | refl => exact hp
  | tail _ hs ih => exact readies hs ih

theorem Prepares.sources (h : Prepares r r') : r'.sources = r.sources := by
  obtain ⟨session, rfl, -⟩ := h
  rfl

theorem prepares_reserve (r : Registry σ) (count : Nat) : Prepares r (r.reserve count) :=
  .of_session (.resized _)

end

/-! ### Checking -/

theorem run_countStatement [Engine σ] (spec : QuerySpec) (l : Logged (Registry σ)) :
    (countStatement spec).run.run l =
      let (session, count) := Engine.countStatements l.state.session 2 spec.sql
      (match bodyFault? spec count with
        | some e => .error e
        | none => .ok (),
        { l with state := { l.state with session } }) := by
  rw [countStatement, Op.run_bind, Op.run_state]
  dsimp only
  rw [Op.run_bind, Op.run_change]
  dsimp only
  cases bodyFault? spec (Engine.countStatements l.state.session 2 spec.sql).2 with
  | none => rfl
  | some e => rfl

/-- A check prepares statements, and gives the query of its specification. -/
theorem run_check [Engine σ] (held : String → Bool) (seen : List String) (spec : QuerySpec)
    (l : Logged (Registry σ)) :
    Prepares l.state ((check held seen spec).run.run l).2.state ∧
      ∀ q, ((check held seen spec).run.run l).1 = .ok q →
        ∃ shape, checkHeader held seen spec = .ok shape ∧ q = spec.query shape := by
  rw [check, Op.run_bind, Op.run_ofResult]
  cases hh : checkHeader held seen spec with
  | error e => exact ⟨.refl l.state, nofun⟩
  | ok shape =>
    have hc := Engine.Readies.counted (s := l.state.session) 2 spec.sql
    dsimp only
    rw [Op.run_bind, run_countStatement]
    generalize Engine.countStatements l.state.session 2 spec.sql = counted at hc ⊢
    obtain ⟨session, count⟩ := counted
    have hs : Prepares l.state { l.state with session } := .of_session hc
    dsimp only
    cases bodyFault? spec count with
    | some e => exact ⟨hs, nofun⟩
    | none =>
      have hp := Engine.Readies.prepared (s := session) spec.sql
      dsimp only
      rw [Op.run_bind, Op.run_state]
      dsimp only
      generalize Engine.prepare session spec.sql = prepared at hp ⊢
      obtain ⟨session', refused⟩ := prepared
      have hs' : Prepares l.state { l.state with session := session' } :=
        hs.trans (.of_session hp)
      dsimp only
      rw [Op.run_bind, Op.run_change]
      cases refused with
      | some f => exact ⟨hs', nofun⟩
      | none =>
        refine ⟨hs', fun q hq => ⟨shape, rfl, ?_⟩⟩
        cases hq
        rfl

/-- Specifications that pass the checks in a registry that holds some names, behind others whose
names have been seen, and their queries. -/
inductive Accepted (held : String → Bool) : List String → List QuerySpec → List Query → Prop
  | nil (seen : List String) : Accepted held seen [] []
  | cons {seen : List String} {spec : QuerySpec} {shape : QueryShape} {specs : List QuerySpec}
      {queries : List Query} (header : checkHeader held seen spec = .ok shape)
      (rest : Accepted held (seen ++ [spec.name]) specs queries) :
      Accepted held seen (spec :: specs) (spec.query shape :: queries)

theorem checkHeader_eq_ok_iff {held : String → Bool} {seen : List String} {spec : QuerySpec}
    {shape : QueryShape} :
    checkHeader held seen spec = .ok shape ↔
      spec.compile = .ok shape ∧ reservedNames.contains spec.name = false ∧
        held spec.name = false ∧ spec.name ∉ seen := by
  rw [checkHeader, ← decide_eq_false_iff_not, ← List.contains_eq_mem]
  cases spec.compile with
  | error e => exact ⟨fun h => (nomatch h), fun h => (nomatch h.1)⟩
  | ok shape' =>
    cases reservedNames.contains spec.name with
    | true => exact ⟨fun h => (nomatch h), fun h => (nomatch h.2.1)⟩
    | false =>
      cases held spec.name with
      | true => exact ⟨fun h => (nomatch h), fun h => (nomatch h.2.2.1)⟩
      | false =>
        cases seen.contains spec.name with
        | true => exact ⟨fun h => (nomatch h), fun h => (nomatch h.2.2.2)⟩
        | false => exact ⟨fun h => ⟨h, rfl, rfl, rfl⟩, fun h => h.1⟩

namespace Accepted

variable {held : String → Bool} {seen : List String} {specs : List QuerySpec}
  {queries : List Query}

theorem names (h : Accepted held seen specs queries) :
    queries.map Query.name = specs.map QuerySpec.name := by
  induction h with
  | nil seen => rfl
  | cons header rest ih => rw [List.map_cons, List.map_cons, ih]; rfl

/-- The check against the table of the registry. -/
theorem not_held (h : Accepted held seen specs queries) : ∀ q ∈ queries, held q.name = false := by
  induction h with
  | nil seen => exact fun q hq => nomatch hq
  | cons header rest ih =>
    intro q hq
    rcases List.mem_cons.mp hq with rfl | hq
    · exact (checkHeader_eq_ok_iff.mp header).2.2.1
    · exact ih q hq

/-- The check against the names before it in the same text. -/
theorem not_seen (h : Accepted held seen specs queries) : ∀ q ∈ queries, q.name ∉ seen := by
  induction h with
  | nil seen => exact fun q hq => nomatch hq
  | cons header rest ih =>
    intro q hq
    rcases List.mem_cons.mp hq with rfl | hq
    · exact (checkHeader_eq_ok_iff.mp header).2.2.2
    · exact fun hs => ih q hq (List.mem_append_left _ hs)

theorem nodup (h : Accepted held seen specs queries) : (queries.map Query.name).Nodup := by
  induction h with
  | nil seen => exact List.nodup_nil
  | cons header rest ih =>
    refine List.nodup_cons.mpr ⟨fun hm => ?_, ih⟩
    obtain ⟨q, hq, hn⟩ := List.mem_map.mp hm
    refine rest.not_seen q hq ?_
    rw [hn]
    exact List.mem_append_right _ (List.mem_singleton.mpr rfl)

theorem exists_shape (h : Accepted held seen specs queries) :
    ∀ spec ∈ specs, ∃ shape, spec.compile = .ok shape ∧ spec.query shape ∈ queries := by
  induction h with
  | nil seen => exact fun spec hs => nomatch hs
  | cons header rest ih =>
    intro spec hs
    rcases List.mem_cons.mp hs with rfl | hs
    · exact ⟨_, (checkHeader_eq_ok_iff.mp header).1, List.mem_cons_self⟩
    · obtain ⟨shape, hc, hq⟩ := ih spec hs
      exact ⟨shape, hc, List.mem_cons_of_mem _ hq⟩

end Accepted

/-- Checking specifications prepares statements, and gives their queries if it does not fail. -/
theorem run_checkAll [Engine σ] (held : String → Bool) (specs : List QuerySpec) (seen : List String)
    (l : Logged (Registry σ)) :
    Prepares l.state ((checkAll held seen specs).run.run l).2.state ∧
      ∀ queries, ((checkAll held seen specs).run.run l).1 = .ok queries →
        Accepted held seen specs queries := by
  induction specs generalizing seen l with
  | nil =>
    refine ⟨.refl l.state, fun queries hq => ?_⟩
    cases hq
    exact .nil seen
  | cons spec rest ih =>
    obtain ⟨hp, hc⟩ := run_check held seen spec l
    rw [checkAll, Op.run_bind]
    generalize (check held seen spec).run.run l = checked at hp hc ⊢
    obtain ⟨e | q, m⟩ := checked
    · exact ⟨hp, nofun⟩
    · obtain ⟨shape, hh, rfl⟩ := hc q rfl
      obtain ⟨hp', ha⟩ := ih (seen ++ [(spec.query shape).name]) m
      dsimp only
      rw [Op.run_bind]
      generalize (checkAll held (seen ++ [(spec.query shape).name]) rest).run.run m = tail
        at hp' ha ⊢
      obtain ⟨e | queries, m'⟩ := tail
      · exact ⟨hp.trans hp', nofun⟩
      · refine ⟨hp.trans hp', fun queries' hq => ?_⟩
        cases hq
        exact .cons hh (ha queries rfl)

/-! ### What a load leaves alone, and what it adds -/

/-- What stays as it is in every load: functions, units of work and the data. -/
structure Untouched (r r' : Registry) : Prop where
  functions : r'.functions = r.functions
  callable : r'.session.connection.functions = r.session.connection.functions
  verbose : r'.verbose = r.verbose
  depth : r'.depth = r.depth
  rollbackOnly : r'.rollbackOnly = r.rollbackOnly
  database : r'.session.connection.database = r.session.connection.database
  transaction : r'.session.connection.transaction = r.session.connection.transaction

/-- What stays as it is in a load that fails: the table of the queries and the names in order, apart
from what stays in every load. -/
structure Restored (r r' : Registry) : Prop extends Untouched r r' where
  queries : r'.queries = r.queries
  names : r'.names = r.names
  sources : r'.sources = r.sources

/-- What a load adds: the queries of its specifications, in order, after those that were there. -/
structure Extended (specs : List QuerySpec) (r r' : Registry) : Prop extends Untouched r r' where
  names : r'.names = r.names ++ specs.map QuerySpec.name
  old : ∀ name q, r.query? name = some q → r'.query? name = some q
  new : ∀ spec ∈ specs, ∃ shape, spec.compile = .ok shape ∧
    r'.query? spec.name = some (spec.query shape)

/-- Statements that are made ready in a session leave its connection as it is, but for one
setting. -/
theorem Prepares.exists_enforcing {r r' : Registry} (h : Prepares r r') :
    ∃ on, r'.session.connection = r.session.connection.enforcing on := by
  refine h.preserves (P := fun s => ∃ on, s.connection = r.session.connection.enforcing on) ?_
    ⟨r.session.connection.foreignKeys, rfl⟩
  rintro s t hr ⟨on, hs⟩
  obtain ⟨on', ht⟩ := hr.exists_enforcing
  exact ⟨on', by rw [ht, hs]; rfl⟩

theorem Prepares.restored {r r' : Registry} (h : Prepares r r') : Restored r r' := by
  obtain ⟨on, hs⟩ := h.exists_enforcing
  obtain ⟨session, rfl, -⟩ := h
  dsimp only at hs
  exact
    { functions := rfl
      callable := by rw [hs]; rfl
      verbose := rfl
      depth := rfl
      rollbackOnly := rfl
      database := by rw [hs]; rfl
      transaction := by rw [hs]; rfl
      queries := rfl
      names := rfl
      sources := rfl }

theorem Accepted.query?_eq_none {r : Registry} {seen : List String} {specs : List QuerySpec}
    {queries : List Query} (h : Accepted r.contains seen specs queries) :
    ∀ q ∈ queries, r.query? q.name = none := by
  intro q hq
  have hn := h.not_held q hq
  rwa [contains_eq_isSome, Option.isSome_eq_false_iff, Option.isNone_iff_eq_none] at hn

theorem Untouched.addQueries {r r' : Registry} (h : Untouched r r') (queries : List Query) :
    Untouched r (r'.addQueries queries) := by
  rw [addQueries_eq]
  exact { h with }

/-- Accepted queries can be looked up under their names once they are added, and those that were
there still can: the names that are added are new to the table and differ from each other. -/
theorem Accepted.extended {r r' : Registry} {specs : List QuerySpec} {queries : List Query}
    (h : Accepted r.contains [] specs queries) (hp : Prepares r r') :
    Extended specs r (r'.addQueries queries) := by
  have hr := hp.restored
  have hl : ∀ name, r'.query? name = r.query? name := by
    intro name
    rw [query?, query?, hr.queries]
  refine { hr.toUntouched.addQueries queries with
    names := ?_, old := fun name q hq => ?_, new := fun spec hs => ?_ }
  · rw [names_addQueries, hr.names, h.names]
  · rw [query?_addQueries_of_not_mem, hl, hq]
    intro hm
    obtain ⟨q', hq', rfl⟩ := List.mem_map.mp hm
    rw [h.query?_eq_none q' hq'] at hq
    cases hq
  · obtain ⟨shape, hc, hq⟩ := h.exists_shape spec hs
    exact ⟨shape, hc, query?_addQueries_of_mem h.nodup hq r'⟩

/-- What a registry has gained once it remembers another source. -/
theorem Extended.remember {specs : List QuerySpec} {r r' : Registry} (h : Extended specs r r')
    (sources : List (List String)) : Extended specs r { r' with sources } :=
  { functions := h.functions
    callable := h.callable
    verbose := h.verbose
    depth := h.depth
    rollbackOnly := h.rollbackOnly
    database := h.database
    transaction := h.transaction
    names := h.names
    old := h.old
    new := h.new }

/-! ### Loads -/

/-- A load of specifications makes room for their statements, checks them, and adds their queries if
no check fails. -/
theorem run_load [Engine σ] (source : String) (specs : List QuerySpec) (l : Logged (Registry σ)) :
    ∃ m : Logged (Registry σ), m.state = l.state.reserve specs.length ∧
      (∀ e m', (checkAll m.state.contains [] specs).run.run m = (.error e, m') →
        ((load source (.ok specs)).run.run l).1 = .error e ∧
          ((load source (.ok specs)).run.run l).2.state = m'.state) ∧
      ∀ queries m', (checkAll m.state.contains [] specs).run.run m = (.ok queries, m') →
        ((load source (.ok specs)).run.run l).1 = .ok queries.length ∧
          ((load source (.ok specs)).run.run l).2.state = m'.state.addQueries queries := by
  rw [load, Op.run_bracket]
  dsimp only
  rw [Logged.state_noting, Op.run_bind, Op.run_ofResult]
  generalize hm : (l.noting (.opStart l.component "load_queries"
    [(Log.FieldName.source.key, .text source)])) = m
  have hl : m.state = l.state := by
    rw [← hm, Logged.state_noting]
  dsimp only
  rw [Op.run_bind, Op.run_change]
  dsimp only
  rw [Op.run_bind, Op.run_state]
  dsimp only
  rw [Op.run_bind]
  refine ⟨{ m with state := m.state.reserve specs.length }, by rw [hl], ?_, ?_⟩
  · intro e m' h
    rw [h]
    exact ⟨rfl, rfl⟩
  · intro queries m' h
    rw [h]
    exact ⟨rfl, rfl⟩

/-- A load fails once it has prepared some statements, or adds the queries of specifications that
pass the checks. -/
theorem run_load_cases [Engine σ] (source : String) (read : Except Error (List QuerySpec))
    (l : Logged (Registry σ)) :
    (∃ e, ((load source read).run.run l).1 = .error e ∧
        Prepares l.state ((load source read).run.run l).2.state) ∨
      ∃ specs queries r, read = .ok specs ∧ Accepted l.state.contains [] specs queries ∧
        Prepares l.state r ∧ ((load source read).run.run l).1 = .ok queries.length ∧
        ((load source read).run.run l).2.state = r.addQueries queries := by
  cases read with
  | error e =>
    refine Or.inl ⟨e, ?_, ?_⟩
    · rw [load, Op.run_bracket]
      rfl
    · rw [load, Op.run_bracket]
      dsimp only
      rw [Logged.state_noting, Op.run_bind, Op.run_ofResult]
      exact .refl l.state
  | ok specs =>
    have hp := prepares_reserve l.state specs.length
    obtain ⟨m, hm, herror, hok⟩ := run_load source specs l
    obtain ⟨hc, ha⟩ := run_checkAll m.state.contains specs [] m
    rw [← hm] at hp
    cases hr : (checkAll m.state.contains [] specs).run.run m with
    | mk result m' =>
      rw [hr] at hc ha
      cases result with
      | error e =>
        obtain ⟨he, hs⟩ := herror e m' hr
        exact Or.inl ⟨e, he, by rw [hs]; exact hp.trans hc⟩
      | ok queries =>
        obtain ⟨hk, hs⟩ := hok queries m' hr
        have hq := ha queries rfl
        rw [hm] at hq
        exact Or.inr ⟨specs, queries, m'.state, rfl, hq, hp.trans hc, hk, hs⟩

/-- How a load may end that has read specifications, or has failed to: it has prepared statements,
and unless it has failed it has added the queries of all the specifications. -/
inductive Loads [Engine σ] {α : Type} (read : Except Error (List QuerySpec)) (r r' : Registry σ) :
    Except Error α → Prop
  | failed (e : Error) (h : Prepares r r') : Loads read r r' (.error e)
  | loaded (a : α) {specs : List QuerySpec} {queries : List Query} {m : Registry σ}
      (hr : read = .ok specs) (ha : Accepted r.contains [] specs queries) (hp : Prepares r m)
      (h : r' = m.addQueries queries) : Loads read r r' (.ok a)

theorem loads_load [Engine σ] (source : String) (read : Except Error (List QuerySpec))
    (l : Logged (Registry σ)) :
    Loads read l.state ((load source read).run.run l).2.state ((load source read).run.run l).1 := by
  rcases run_load_cases source read l with ⟨e, he, hp⟩ | ⟨specs, queries, r, hr, ha, hp, hk, hs⟩
  · rw [he]
    exact .failed e hp
  · rw [hk]
    exact .loaded queries.length hr ha hp hs

/-- A load of a text that ends well has read the text. -/
theorem loads_loadText [Engine σ] (text : String) (l : Logged (Registry σ)) :
    Loads (QuerySpec.readAll text) l.state ((loadText text).run.run l).2.state
      ((loadText text).run.run l).1 := by
  have h := loads_load textSource (QuerySpec.readAll text) l
  rw [loadText, Op.run_bind]
  generalize (load textSource (QuerySpec.readAll text)).run.run l = loaded at h ⊢
  obtain ⟨r, m⟩ := loaded
  cases h with
  | failed e h => exact .failed e h
  | loaded count hr ha hp h => exact .loaded () hr ha hp h

theorem readQueries_eq_ok_iff {shown : String} {content : Except FileFault String}
    {specs : List QuerySpec} :
    readQueries shown content = .ok specs ↔
      ∃ text, content = .ok text ∧ QuerySpec.readAll text = .ok specs := by
  cases content with
  | error fault => exact ⟨fun h => (nomatch h), fun ⟨_, h, _⟩ => (nomatch h)⟩
  | ok text =>
    refine ⟨fun h => ⟨text, rfl, h⟩, ?_⟩
    rintro ⟨text', h, hr⟩
    cases h
    exact hr

/-- A load of a file fails once it has prepared some statements, or finds that the file was loaded
before, or reads it, adds its queries and remembers its place. -/
theorem run_loadFile_cases [Engine σ] (f : Files) (path : String) (l : Logged (Registry σ)) :
    (∃ e, ((loadFile f path).run.run l).1 = .error e ∧
        Prepares l.state ((loadFile f path).run.run l).2.state) ∨
      ∃ place, f.canonical path = .ok place ∧ ((loadFile f path).run.run l).1 = .ok () ∧
        (place ∈ l.state.sources ∧ ((loadFile f path).run.run l).2.state = l.state ∨
          place ∉ l.state.sources ∧ ∃ text specs queries m, f.textAt place = .ok text ∧
            QuerySpec.readAll text = .ok specs ∧ Accepted l.state.contains [] specs queries ∧
            Prepares l.state m ∧ ((loadFile f path).run.run l).2.state =
              { m.addQueries queries with sources := l.state.sources ++ [place] }) := by
  rw [loadFile]
  cases hc : f.canonical path with
  | error fault => exact Or.inl ⟨_, rfl, .refl l.state⟩
  | ok place =>
    dsimp only
    rw [Op.run_bind, Op.run_state]
    dsimp only
    by_cases hp : place ∈ l.state.sources
    · rw [List.contains_eq_mem, decide_eq_true hp, if_pos rfl]
      exact Or.inr ⟨place, rfl, rfl, Or.inl ⟨hp, rfl⟩⟩
    · rw [List.contains_eq_mem, decide_eq_false hp, if_neg Bool.false_ne_true, Op.run_bind]
      have h := loads_load path (readQueries (f.absolute place) (f.textAt place)) l
      generalize (load path (readQueries (f.absolute place) (f.textAt place))).run.run l = loaded
        at h ⊢
      obtain ⟨r, m⟩ := loaded
      cases h with
      | failed e h => exact Or.inl ⟨e, rfl, h⟩
      | @loaded count specs queries k hr ha hk h =>
        obtain ⟨text, ht, hr⟩ := readQueries_eq_ok_iff.mp hr
        refine Or.inr ⟨place, rfl, rfl,
          Or.inr ⟨hp, text, specs, queries, k, ht, hr, ha, hk, ?_⟩⟩
        change { m.state with sources := m.state.sources ++ [place] } = _
        rw [h, addQueries_eq, hk.sources]

/-! ### Loads as steps of a registry -/

/-- A registry that has prepared statements for another one, or has added the queries of a text to
it. -/
inductive Gained [Engine σ] (r r' : Registry σ) : Prop
  | nothing (h : Prepares r r')
  | added {text : String} {specs : List QuerySpec} {queries : List Query} {m : Registry σ}
      (sources : List (List String)) (read : QuerySpec.readAll text = .ok specs)
      (accepted : Accepted r.contains [] specs queries) (prepared : Prepares r m)
      (h : r' = { m.addQueries queries with sources })

theorem gained_loadText [Engine σ] (text : String) (l : Logged (Registry σ)) :
    Gained l.state ((loadText text).run.run l).2.state := by
  have h := loads_loadText text l
  generalize (loadText text).run.run l = loaded at h ⊢
  obtain ⟨x, m⟩ := loaded
  cases h with
  | failed e hp => exact .nothing hp
  | loaded _ hr ha hp h => exact .added m.state.sources hr ha hp (by rw [← h])

theorem gained_loadFile [Engine σ] (f : Files) (path : String) (l : Logged (Registry σ)) :
    Gained l.state ((loadFile f path).run.run l).2.state := by
  rcases run_loadFile_cases f path l with ⟨_, -, hp⟩ | ⟨place, -, -, ⟨-, h⟩ | h⟩
  · exact .nothing hp
  · rw [h]
    exact .nothing (.refl l.state)
  · obtain ⟨-, text, specs, queries, m, -, hr, ha, hp, h⟩ := h
    exact .added _ hr ha hp h

/-- **A load adds all the queries that it reads, or leaves nothing behind.** However many
specifications had passed the checks when it failed, the registry has the queries, the functions,
the sources and the data that it had before. A file that was loaded before is not read again. -/
theorem load_atomic (l : Logged Registry) :
    (∀ text, let p := (loadText text).run.run l
      (∀ e, p.1 = .error e → Restored l.state p.2.state) ∧
      (p.1 = .ok () → ∃ specs, QuerySpec.readAll text = .ok specs ∧
        Extended specs l.state p.2.state ∧ p.2.state.sources = l.state.sources)) ∧
    (∀ f path, let p := (loadFile f path).run.run l
      (∀ e, p.1 = .error e → Restored l.state p.2.state) ∧
      (p.1 = .ok () → ∃ place, f.canonical path = .ok place ∧
        (place ∈ l.state.sources ∧ p.2.state = l.state ∨
          place ∉ l.state.sources ∧ ∃ text specs, f.textAt place = .ok text ∧
            QuerySpec.readAll text = .ok specs ∧ Extended specs l.state p.2.state ∧
            p.2.state.sources = l.state.sources ++ [place]))) := by
  refine ⟨fun text => ⟨fun e he => ?_, fun hk => ?_⟩, fun f path => ⟨fun e he => ?_, fun hk => ?_⟩⟩
  · have h := loads_loadText text l
    rw [he] at h
    cases h with
    | failed _ hp => exact hp.restored
  · have h := loads_loadText text l
    rw [hk] at h
    cases h with
    | @loaded _ specs queries m hr ha hp h =>
      rw [h]
      exact ⟨specs, hr, ha.extended hp, by rw [addQueries_eq, hp.sources]⟩
  · rcases run_loadFile_cases f path l with ⟨_, -, hp⟩ | ⟨_, -, hk, -⟩
    · exact hp.restored
    · rw [he] at hk
      cases hk
  · rcases run_loadFile_cases f path l with ⟨_, he, -⟩ | ⟨place, hc, -, h⟩
    · rw [hk] at he
      cases he
    · refine ⟨place, hc, h.imp_right fun ⟨hm, text, specs, queries, m, ht, hr, ha, hp, h⟩ => ?_⟩
      rw [h]
      exact ⟨hm, text, specs, ht, hr, (ha.extended hp).remember _, rfl⟩

end Registry

end NamedSql
