import NamedSql.Proofs.Query.Appending
import NamedSql.Proofs.Registry.Reachable
import NamedSql.Proofs.Sql.Admitting

/-!
# Texts loaded in pieces

Two texts can be loaded one after the other or at once, one below the other. Either both ways
succeed or none does, and if they do the same queries are there in the same order. A name of the
lower text is refused where it is in the upper one: as the name of a query that has been loaded, or
as the name of a query of the same text.

The two ways do not keep the same statements prepared. A load makes room for its own queries, so
fewer statements may be left from an earlier one that has failed. But what a load adds depends on
the names that are taken and on the connection, and on nothing else.

## Scope

The lower text must not go on with the body that is open at the end of the upper one. Nothing is
said of what is left where one of the loads fails: the upper text may have been loaded by then, and
its queries stay.

## Main definitions

* `Query.moved` — a query further down
* `Registry.Takes` — what a load of a text adds, by the names that are taken and the connection
* `Registry.Below` — what is there in the end, for texts loaded in pieces and at once

## Main results

* `Registry.loadText_eq_ok_iff` — a load of a text does what `Takes` says
* `Registry.takes_append_iff` — the queries of a text below another one
* `Registry.loadText_append` — two texts are loaded in pieces as at once
-/

namespace NamedSql

open Blocks

/-- The query as many lines further down. -/
def Query.moved (q : Query) (count : Nat) : Query := { q with line := q.line + count }

namespace Registry

variable {spec : QuerySpec} {specs : List QuerySpec} {queries : List Query} {text : String}
  {held : String → Bool} {seen : List String} {l : Logged Registry} {c d : Sql.Connection}

/-! ### Checks by the connection -/

theorem bodyFault?_eq_none_iff {count : Except Sql.Failure Nat} :
    bodyFault? spec count = none ↔ count = .ok 1 := by
  rcases count with f | _ | _ | n <;> simp [bodyFault?]

theorem check_eq_ok_iff (held : String → Bool) (seen : List String) (q : Query)
    (c : Sql.Connection) (hs : l.state.session.Sound) (ht : Text.Terminated spec.sql.toList) :
    (((check held seen spec).run.run l).1 = .ok q ∧
        ((check held seen spec).run.run l).2.state.session.connection = c) ↔
      (∃ shape, checkHeader held seen spec = .ok shape ∧ q = spec.query shape) ∧
        l.state.session.connection.admit? spec.sql = some c := by
  rw [hs.admit?_eq_some_iff ht, check, Op.run_bind, Op.run_ofResult]
  cases checkHeader held seen spec with
  | error e =>
    constructor
    · rintro ⟨⟨⟩, _⟩
    · rintro ⟨⟨_, ⟨⟩, _⟩, _⟩
  | ok shape =>
    dsimp only
    rw [Op.run_bind, run_countStatement, Engine.countStatements_session]
    generalize l.state.session.countStatements 2 spec.sql = counted
    obtain ⟨session, count⟩ := counted
    dsimp only
    cases hb : bodyFault? spec count with
    | some e =>
      refine ⟨by rintro ⟨⟨⟩, _⟩, ?_⟩
      rintro ⟨-, t, u, ht, -⟩
      cases ht
      cases hb
    | none =>
      cases bodyFault?_eq_none_iff.mp hb
      dsimp only
      rw [Op.run_bind, Op.run_state]
      dsimp only
      rw [Engine.prepare_session]
      cases hp : session.prepare spec.sql with
      | mk session' refused =>
        dsimp only
        rw [Op.run_bind, Op.run_change]
        cases refused with
        | some f =>
          refine ⟨by rintro ⟨⟨⟩, _⟩, ?_⟩
          rintro ⟨-, t, u, ⟨⟩, hu, -⟩
          cases hp.symm.trans hu
        | none =>
          constructor
          · rintro ⟨⟨⟩, rfl⟩
            exact ⟨⟨shape, rfl, rfl⟩, session, session', rfl, hp, rfl⟩
          · rintro ⟨⟨_, ⟨⟩, rfl⟩, t, u, ⟨⟩, hu, rfl⟩
            cases hp.symm.trans hu
            exact ⟨rfl, rfl⟩

theorem sound_check (held : String → Bool) (seen : List String) (spec : QuerySpec)
    (hs : l.state.session.Sound) : ((check held seen spec).run.run l).2.state.session.Sound :=
  (run_check held seen spec l).1.preserves (fun h => h.session.sound) hs

theorem accepted_cons_iff :
    Accepted held seen (spec :: specs) queries ↔ ∃ shape rest,
      checkHeader held seen spec = .ok shape ∧ Accepted held (seen ++ [spec.name]) specs rest ∧
        queries = spec.query shape :: rest := by
  constructor
  · rintro ⟨⟩
    exact ⟨_, _, ‹_›, ‹_›, rfl⟩
  · rintro ⟨shape, rest, hh, hr, rfl⟩
    exact .cons hh hr

theorem checkAll_eq_ok_iff (held : String → Bool) (seen : List String) (queries : List Query)
    (c : Sql.Connection) (hs : l.state.session.Sound)
    (ht : ∀ spec ∈ specs, Text.Terminated spec.sql.toList) :
    (((checkAll held seen specs).run.run l).1 = .ok queries ∧
        ((checkAll held seen specs).run.run l).2.state.session.connection = c) ↔
      Accepted held seen specs queries ∧
        (specs.map QuerySpec.sql).foldlM Sql.Connection.admit? l.state.session.connection =
          some c := by
  induction specs generalizing seen l queries with
  | nil =>
    constructor
    · rintro ⟨⟨⟩, rfl⟩
      exact ⟨.nil seen, rfl⟩
    · rintro ⟨⟨⟩, ⟨⟩⟩
      exact ⟨rfl, rfl⟩
  | cons spec specs ih =>
    have hc := fun q d =>
      check_eq_ok_iff held seen q d hs (ht spec List.mem_cons_self)
    have hcs := sound_check held seen spec hs
    have ht' := fun spec hm => ht spec (List.mem_cons_of_mem _ hm)
    rw [accepted_cons_iff, List.map_cons, List.foldlM_cons, checkAll, Op.run_bind]
    generalize (check held seen spec).run.run l = checked at hc hcs ⊢
    obtain ⟨e | q, m⟩ := checked
    · refine ⟨by rintro ⟨⟨⟩, _⟩, ?_⟩
      rintro ⟨⟨shape, rest, hh, -, -⟩, hf⟩
      cases ha : l.state.session.connection.admit? spec.sql with
      | none =>
        rw [ha] at hf
        cases hf
      | some d =>
        obtain ⟨he, -⟩ := (hc (spec.query shape) d).mpr ⟨⟨shape, hh, rfl⟩, ha⟩
        cases he
    · obtain ⟨⟨shape, hh, rfl⟩, ha⟩ := (hc q _).mp ⟨rfl, rfl⟩
      have hi := fun qs => ih (seen ++ [(spec.query shape).name]) qs hcs ht'
      dsimp only at hi ⊢
      rw [Op.run_bind, ha, Option.bind_eq_bind, Option.bind_some]
      generalize (checkAll held (seen ++ [(spec.query shape).name]) specs).run.run m = tail
        at hi ⊢
      obtain ⟨e | qs, m'⟩ := tail
      · refine ⟨by rintro ⟨⟨⟩, _⟩, ?_⟩
        rintro ⟨⟨_, qs, -, hr, -⟩, hf⟩
        obtain ⟨he, -⟩ := (hi qs).mpr ⟨hr, hf⟩
        cases he
      · constructor
        · rintro ⟨⟨⟩, rfl⟩
          obtain ⟨hr, hf⟩ := (hi qs).mp ⟨rfl, rfl⟩
          exact ⟨⟨shape, qs, hh, hr, rfl⟩, hf⟩
        · rintro ⟨⟨shape', qs', hh', hr, rfl⟩, hf⟩
          obtain ⟨he, hc⟩ := (hi qs').mpr ⟨hr, hf⟩
          cases he
          cases hh.symm.trans hh'
          exact ⟨rfl, hc⟩

/-! ### Loads by the connection -/

/-- What a load of a text adds to a registry that holds some names, and the connection that it
leaves. -/
def Takes (held : String → Bool) (c : Sql.Connection) (text : String) (queries : List Query)
    (d : Sql.Connection) : Prop :=
  ∃ specs, QuerySpec.readAll text = .ok specs ∧ Accepted held [] specs queries ∧
    (specs.map QuerySpec.sql).foldlM Sql.Connection.admit? c = some d

/-- The registry has gained queries under new names: they are listed behind the names that were
there, each is in the table under its name, and every other name is as it was. -/
structure Acquires (queries : List Query) (r r' : Registry) : Prop where
  fresh : ∀ q ∈ queries, r.query? q.name = none
  names : r'.names = r.names ++ queries.map Query.name
  added : ∀ q ∈ queries, r'.query? q.name = some q
  kept : ∀ name, name ∉ queries.map Query.name → r'.query? name = r.query? name

theorem Accepted.acquires {r r' : Registry} (h : Accepted r.contains [] specs queries)
    (hr : Restored r r') : Acquires queries r (r'.addQueries queries) := by
  refine ⟨h.query?_eq_none, ?_, fun q hm => query?_addQueries_of_mem h.nodup hm r',
    fun name hm => ?_⟩
  · rw [names_addQueries, hr.names]
  · rw [query?_addQueries_of_not_mem hm, query?, query?, hr.queries]

/-- What has been gained is determined by what there is. -/
theorem Acquires.unique {r r' : Registry} {queries' : List Query} (h : Acquires queries r r')
    (h' : Acquires queries' r r') : queries' = queries := by
  have hn : queries'.map Query.name = queries.map Query.name :=
    List.append_cancel_left (h'.names.symm.trans h.names)
  have hs : ∀ {qs : List Query}, (∀ q ∈ qs, r'.query? q.name = some q) →
      (qs.map Query.name).map r'.query? = qs.map some := by
    intro qs hq
    rw [List.map_map]
    exact List.map_congr_left hq
  refine List.map_injective_iff.mpr (fun _ _ => Option.some.inj) ?_
  rw [← hs h'.added, ← hs h.added, hn]

theorem load_eq_ok_iff (source : String) (queries : List Query) (c : Sql.Connection)
    (hs : l.state.session.Sound) (ht : ∀ spec ∈ specs, Text.Terminated spec.sql.toList) :
    ((∃ count, ((load source (.ok specs)).run.run l).1 = .ok count) ∧
        Acquires queries l.state ((load source (.ok specs)).run.run l).2.state ∧
        ((load source (.ok specs)).run.run l).2.state.session.connection = c) ↔
      Accepted l.state.contains [] specs queries ∧
        (specs.map QuerySpec.sql).foldlM Sql.Connection.admit? l.state.session.connection =
          some c := by
  obtain ⟨m, hm, herror, hok⟩ := run_load source specs l
  have hn : m.state.contains = l.state.contains := by rw [hm]; rfl
  have hd : m.state.session.connection = l.state.session.connection := by rw [hm]; rfl
  have hms : m.state.session.Sound := by
    rw [hm]
    exact hs.setCapacity _
  have hc := fun qs => checkAll_eq_ok_iff m.state.contains [] qs c hms ht
  have hp := prepares_reserve l.state specs.length
  obtain ⟨hp', hacc⟩ := run_checkAll m.state.contains specs [] m
  rw [← hm] at hp
  replace hp := (hp.trans hp').restored
  rw [hn, hd] at hc
  rw [hn] at herror hok hp hacc
  cases hr : (checkAll l.state.contains [] specs).run.run m with
  | mk result m' =>
    rw [hr] at hc hp hacc
    cases result with
    | error e =>
      obtain ⟨he, -⟩ := herror e m' hr
      rw [he]
      constructor
      · rintro ⟨⟨_, ⟨⟩⟩, _⟩
      · intro h
        cases ((hc queries).mpr h).1
    | ok qs =>
      obtain ⟨hk, hstate⟩ := hok qs m' hr
      have ha := (hacc qs rfl).acquires hp
      have hsession : (m'.state.addQueries qs).session = m'.state.session := by rw [addQueries_eq]
      rw [hk, hstate, hsession, ← hc]
      constructor
      · rintro ⟨-, h, h'⟩
        cases h.unique ha
        exact ⟨rfl, h'⟩
      · rintro ⟨⟨⟩, h'⟩
        exact ⟨⟨_, rfl⟩, ha, h'⟩

theorem loadText_eq_ok_iff (hs : l.state.session.Sound) :
    (((loadText text).run.run l).1 = .ok () ∧
        Acquires queries l.state ((loadText text).run.run l).2.state ∧
        ((loadText text).run.run l).2.state.session.connection = c) ↔
      Takes l.state.contains l.state.session.connection text queries c := by
  rw [Takes, loadText, Op.run_bind]
  cases hr : QuerySpec.readAll text with
  | error e =>
    constructor
    · intro h
      rw [load, Op.run_bracket] at h
      cases h.1
    · rintro ⟨_, ⟨⟩, _⟩
  | ok specs =>
    have h := load_eq_ok_iff textSource queries c hs
      fun spec hm => QuerySpec.terminated_of_mem hr hm
    generalize (load textSource (.ok specs)).run.run l = loaded at h ⊢
    obtain ⟨e | count, m⟩ := loaded
    · constructor
      · rintro ⟨⟨⟩, _⟩
      · rintro ⟨_, ⟨⟩, ha⟩
        obtain ⟨⟨_, he⟩, -⟩ := h.mpr ha
        cases he
    · constructor
      · rintro ⟨-, hq⟩
        exact ⟨specs, rfl, h.mp ⟨⟨count, rfl⟩, hq⟩⟩
      · rintro ⟨_, ⟨⟩, ha⟩
        exact ⟨rfl, (h.mpr ha).2⟩

/-! ### Texts one below the other -/

/-- It is all the same whether a name is in use because the registry holds it or because it has been
seen. -/
theorem Accepted.congr {held' : String → Bool} {seen' : List String}
    (h : ∀ name, held' name = false ∧ name ∉ seen' ↔ held name = false ∧ name ∉ seen)
    (ha : Accepted held seen specs queries) : Accepted held' seen' specs queries := by
  induction ha generalizing seen' with
  | nil seen => exact .nil seen'
  | @cons seen spec shape specs queries header rest ih =>
    obtain ⟨hc, hr, hu⟩ := checkHeader_eq_ok_iff.mp header
    refine .cons (checkHeader_eq_ok_iff.mpr ⟨hc, hr, (h spec.name).mpr hu⟩) (ih fun name => ?_)
    rw [List.mem_append, List.mem_append, not_or, not_or, ← and_assoc, ← and_assoc, h]

theorem accepted_seen_iff {names : List String} :
    Accepted held names specs queries ↔
      Accepted (fun name => held name || names.contains name) [] specs queries := by
  have hn : ∀ name, (held name || names.contains name) = false ∧ name ∉ ([] : List String) ↔
      held name = false ∧ name ∉ names := by
    intro name
    simp
  exact ⟨Accepted.congr hn, Accepted.congr fun name => (hn name).symm⟩

/-- The names that a registry holds once it has gained queries. -/
theorem Acquires.contains {r r' : Registry} (h : Acquires queries r r') :
    r'.contains = fun name => r.contains name || (queries.map Query.name).contains name := by
  funext name
  rw [contains_eq_isSome, contains_eq_isSome, List.contains_eq_mem]
  by_cases hm : name ∈ queries.map Query.name
  · obtain ⟨q, hq, rfl⟩ := List.mem_map.mp hm
    rw [h.added q hq, decide_eq_true hm, Bool.or_true, Option.isSome_some]
  · rw [h.kept name hm, decide_eq_false hm, Bool.or_false]

theorem accepted_append_iff {specs' : List QuerySpec} :
    Accepted held seen (specs ++ specs') queries ↔ ∃ qs ps, Accepted held seen specs qs ∧
      Accepted held (seen ++ qs.map Query.name) specs' ps ∧ queries = qs ++ ps := by
  induction specs generalizing seen queries with
  | nil =>
    constructor
    · intro h
      refine ⟨[], queries, .nil seen, ?_, rfl⟩
      rwa [List.map_nil, List.append_nil]
    · rintro ⟨_, ps, ⟨⟩, h, rfl⟩
      rwa [List.map_nil, List.append_nil] at h
  | cons spec specs ih =>
    simp only [List.cons_append, accepted_cons_iff, ih]
    constructor
    · rintro ⟨shape, _, hh, ⟨qs, ps, hq, hp, rfl⟩, rfl⟩
      refine ⟨spec.query shape :: qs, ps, ⟨shape, qs, hh, hq, rfl⟩, ?_, rfl⟩
      rwa [List.append_assoc] at hp
    · rintro ⟨_, ps, ⟨shape, qs, hh, hq, rfl⟩, hp, rfl⟩
      refine ⟨shape, qs ++ ps, hh, ⟨qs, ps, hq, ?_, rfl⟩, rfl⟩
      rwa [List.append_assoc]

theorem accepted_moved_iff (count : Nat) :
    Accepted held seen (specs.map (·.moved count)) queries ↔
      ∃ qs, Accepted held seen specs qs ∧ queries = qs.map (·.moved count) := by
  induction specs generalizing seen queries with
  | nil =>
    constructor
    · rintro ⟨⟩
      exact ⟨[], .nil seen, rfl⟩
    · rintro ⟨_, ⟨⟩, rfl⟩
      exact .nil seen
  | cons spec specs ih =>
    rw [List.map_cons, accepted_cons_iff]
    constructor
    · rintro ⟨shape, rest, hh, hr, rfl⟩
      obtain ⟨qs, hq, rfl⟩ := ih.mp hr
      exact ⟨spec.query shape :: qs, .cons hh hq, rfl⟩
    · rintro ⟨_, h, rfl⟩
      obtain ⟨shape, qs, hh, hq, rfl⟩ := accepted_cons_iff.mp h
      exact ⟨shape, qs.map (·.moved count), hh, ih.mpr ⟨qs, hq, rfl⟩, rfl⟩

/-- **What is taken from a text below another one is what is taken from each of them**, one after
the other. Where the upper text has been loaded its names are held, and where it stands above they
have been seen. -/
theorem takes_append_iff {a b : String} (hb : StandsAlone (linesOfText b)) :
    Takes held c (a ++ "\n" ++ b) queries d ↔ ∃ qs ps e, Takes held c a qs e ∧
      Takes (fun name => held name || (qs.map Query.name).contains name) e b ps d ∧
      queries = qs ++ ps.map (·.moved (a.toList.count '\n' + 1)) := by
  have hs : ∀ (specs : List QuerySpec) count,
      (specs.map (·.moved count)).map QuerySpec.sql = specs.map QuerySpec.sql := by
    intro specs count
    rw [List.map_map]
    rfl
  simp only [Takes, QuerySpec.readAll_append hb, ← accepted_seen_iff]
  constructor
  · rintro ⟨_, ⟨xs, ys, hx, hy, rfl⟩, ha, hf⟩
    obtain ⟨qs, _, hq, hm, rfl⟩ := accepted_append_iff.mp ha
    obtain ⟨ps, hp, rfl⟩ := (accepted_moved_iff _).mp hm
    rw [List.map_append, List.foldlM_append, hs] at hf
    obtain ⟨e, he, hf⟩ := Option.bind_eq_some_iff.mp hf
    exact ⟨qs, ps, e, ⟨xs, hx, hq, he⟩, ⟨ys, hy, hp, hf⟩, rfl⟩
  · rintro ⟨qs, ps, e, ⟨xs, hx, hq, he⟩, ⟨ys, hy, hp, hf⟩, rfl⟩
    refine ⟨_, ⟨xs, ys, hx, hy, rfl⟩, ?_, ?_⟩
    · exact accepted_append_iff.mpr ⟨qs, _, hq, (accepted_moved_iff _).mpr ⟨ps, hp, rfl⟩, rfl⟩
    · rw [List.map_append, List.foldlM_append, hs]
      exact Option.bind_eq_some_iff.mpr ⟨e, he, hf⟩

/-! ### Two loads and one -/

theorem sound_loadText (hs : l.state.session.Sound) (text : String) :
    ((loadText text).run.run l).2.state.session.Sound :=
  (gained_loadText text l).preserves (fun h => h.session.sound) hs

/-- What a load has added that has ended well. -/
theorem exists_takes (hs : l.state.session.Sound) (h : ((loadText text).run.run l).1 = .ok ()) :
    ∃ queries, Takes l.state.contains l.state.session.connection text queries
        ((loadText text).run.run l).2.state.session.connection ∧
      Acquires queries l.state ((loadText text).run.run l).2.state := by
  have ha : ∃ queries, Acquires queries l.state ((loadText text).run.run l).2.state := by
    have hc := run_load_cases textSource (QuerySpec.readAll text) l
    rw [loadText, Op.run_bind] at h ⊢
    generalize (load textSource (QuerySpec.readAll text)).run.run l = loaded at hc h ⊢
    obtain ⟨r, m⟩ := loaded
    rcases hc with ⟨e, rfl, -⟩ | ⟨specs, queries, r', -, ha, hp, rfl, hs⟩
    · cases h
    · refine ⟨queries, ?_⟩
      change Acquires queries l.state m.state
      rw [hs]
      exact ha.acquires hp.restored
  obtain ⟨queries, ha⟩ := ha
  exact ⟨queries, (loadText_eq_ok_iff hs).mp ⟨h, ha, rfl⟩, ha⟩

/-- What is there once two texts have been loaded, one after the other or at once: the queries that
were there once the upper text had been loaded are the same, and those of the lower text are further
down if the texts were loaded at once. -/
structure Below (count : Nat) (upper lower whole : Registry) : Prop where
  names : whole.names = lower.names
  kept : ∀ name q, upper.query? name = some q →
    lower.query? name = some q ∧ whole.query? name = some q
  moved : ∀ name, upper.query? name = none →
    whole.query? name = (lower.query? name).map (·.moved count)

theorem below_of_acquires {upper lower whole r : Registry} {count : Nat} {qs ps : List Query}
    (hu : Acquires qs r upper) (hl : Acquires ps upper lower)
    (hw : Acquires (qs ++ ps.map (·.moved count)) r whole) : Below count upper lower whole := by
  have hm : (ps.map (·.moved count)).map Query.name = ps.map Query.name := by
    rw [List.map_map]
    rfl
  have hnew : ∀ name q, upper.query? name = some q → name ∉ ps.map Query.name := by
    intro name q hq hmem
    obtain ⟨p, hp, rfl⟩ := List.mem_map.mp hmem
    rw [hl.fresh p hp] at hq
    cases hq
  -- What the table has under a name that neither text has.
  have hold : ∀ name, name ∉ qs.map Query.name → name ∉ ps.map Query.name →
      whole.query? name = upper.query? name := by
    intro name hq hp
    rw [hu.kept name hq]
    refine hw.kept name ?_
    rw [List.map_append, hm, List.mem_append, not_or]
    exact ⟨hq, hp⟩
  refine ⟨?_, fun name q hq => ⟨?_, ?_⟩, fun name hn => ?_⟩
  · rw [hw.names, hl.names, hu.names, List.map_append, hm, List.append_assoc]
  · rw [hl.kept name (hnew name q hq), hq]
  · by_cases hmem : name ∈ qs.map Query.name
    · obtain ⟨q', hq', rfl⟩ := List.mem_map.mp hmem
      rw [hw.added q' (List.mem_append_left _ hq'), ← hu.added q' hq', hq]
    · rw [hold name hmem (hnew name q hq), hq]
  · by_cases hmem : name ∈ ps.map Query.name
    · obtain ⟨p, hp, rfl⟩ := List.mem_map.mp hmem
      rw [hl.added p hp]
      exact hw.added (p.moved count) (List.mem_append_right _ (List.mem_map_of_mem hp))
    · have hq : name ∉ qs.map Query.name := by
        intro hmem
        obtain ⟨q, hq, rfl⟩ := List.mem_map.mp hmem
        rw [hu.added q hq] at hn
        cases hn
      rw [hold name hq hmem, hl.kept name hmem, hn]
      rfl

section

variable {a b : String}

theorem whole_of_pieces (hs : l.state.session.Sound) (hb : StandsAlone (linesOfText b))
    (ha : ((loadText a).run.run l).1 = .ok ())
    (hl : ((loadText b).run.run ((loadText a).run.run l).2).1 = .ok ()) :
    ((loadText (a ++ "\n" ++ b)).run.run l).1 = .ok () := by
  obtain ⟨qs, hta, hqa⟩ := exists_takes hs ha
  obtain ⟨ps, htb, -⟩ := exists_takes (sound_loadText hs a) hl
  rw [hqa.contains] at htb
  exact ((loadText_eq_ok_iff hs).mpr ((takes_append_iff hb).mpr ⟨qs, ps, _, hta, htb, rfl⟩)).1

theorem pieces_of_whole (hs : l.state.session.Sound) (hb : StandsAlone (linesOfText b))
    (hw : ((loadText (a ++ "\n" ++ b)).run.run l).1 = .ok ()) :
    ((loadText a).run.run l).1 = .ok () ∧
      ((loadText b).run.run ((loadText a).run.run l).2).1 = .ok () ∧
      Below (a.toList.count '\n' + 1) ((loadText a).run.run l).2.state
        ((loadText b).run.run ((loadText a).run.run l).2).2.state
        ((loadText (a ++ "\n" ++ b)).run.run l).2.state := by
  obtain ⟨_, ht, hq⟩ := exists_takes hs hw
  obtain ⟨qs, ps, e, hta, htb, rfl⟩ := (takes_append_iff hb).mp ht
  obtain ⟨ha, hqa, rfl⟩ := (loadText_eq_ok_iff hs).mpr hta
  rw [← hqa.contains] at htb
  obtain ⟨hl, hqb, -⟩ := (loadText_eq_ok_iff (sound_loadText hs a)).mpr htb
  exact ⟨ha, hl, below_of_acquires hqa hqb hq⟩

/-- **Two texts are loaded one after the other as they are loaded at once**, one below the other. -/
theorem loadText_append (hr : Reachable l.state) (hb : StandsAlone (linesOfText b)) :
    let upper := (loadText a).run.run l
    let lower := (loadText b).run.run upper.2
    let whole := (loadText (a ++ "\n" ++ b)).run.run l
    (upper.1 = .ok () ∧ lower.1 = .ok () ↔ whole.1 = .ok ()) ∧
      (whole.1 = .ok () →
        Below (a.toList.count '\n' + 1) upper.2.state lower.2.state whole.2.state) := by
  intro upper lower whole
  refine ⟨⟨?_, ?_⟩, ?_⟩
  · rintro ⟨ha, hl⟩
    exact whole_of_pieces hr.sound hb ha hl
  · intro hw
    obtain ⟨ha, hl, -⟩ := pieces_of_whole hr.sound hb hw
    exact ⟨ha, hl⟩
  · intro hw
    exact (pieces_of_whole hr.sound hb hw).2.2

end

/-- A registry with a table and a query. -/
def startedWith : Logged Registry :=
  memoryWith "create table t (c)" "-- :name old :one\nselect c from t\n"

/-- A text that ends in the middle of a line. -/
def upperText : String := "-- :name first :one\nselect c\nfrom t"

/-- A text with carriage returns that starts with a blank line. -/
def lowerText : String := "\r\n-- :name second :one\r\nselect c from t\r\n"

/-- The query on the second line of the lower text is on the fifth line of both texts. -/
theorem loadText_append_lines :
    ((loadText (upperText ++ "\n" ++ lowerText)).run.run startedWith).1 = .ok () ∧
      ((loadText (upperText ++ "\n" ++ lowerText)).run.run startedWith).2.state.names =
        ["old", "first", "second"] ∧
      (((loadText (upperText ++ "\n" ++ lowerText)).run.run startedWith).2.state.query?
        "second").map Query.line = some 5 := by
  have hr : Reachable startedWith.state := reachable_memoryWith _ (by decide +kernel)
  obtain ⟨hl, hw⟩ := loadText_append (a := upperText) (b := lowerText) hr (by decide +kernel)
  have hk := hl.mp (by decide +kernel)
  obtain ⟨hn, -, hm⟩ := hw hk
  have hs : ((loadText lowerText).run.run
      ((loadText upperText).run.run startedWith).2).2.state.names = ["old", "first", "second"] := by
    decide +kernel
  have hu : ((loadText upperText).run.run startedWith).2.state.query? "second" = none := by
    decide +kernel
  have hq : (((loadText lowerText).run.run
      ((loadText upperText).run.run startedWith).2).2.state.query? "second").map Query.line =
        some 2 := by
    decide +kernel
  have hc : upperText.toList.count '\n' + 1 = 3 := by decide +kernel
  refine ⟨hk, hn.trans hs, ?_⟩
  rw [hm "second" hu, hc, Option.map_map]
  change Option.map ((· + 3) ∘ Query.line) _ = some 5
  rw [← Option.map_map, hq]
  rfl

end Registry

end NamedSql
