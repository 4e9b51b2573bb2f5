import NamedSql.Proofs.Query.Rereading
import NamedSql.Proofs.Registry.Reachable

/-!
# What a registry holds

A registry holds its queries in a table and their names a second time, in order. Nothing keeps the
two in step but what is done with them: a load pushes a name and inserts a query, one after the
other, for each of the queries that it has checked. So a name that is pushed must not be listed yet,
or it would be there twice while the table has one query for it. Two checks see to this. The one
against the table keeps out the names that are there when the load starts, and it is the table that
is asked and not the list; the one against the names of the same text keeps the new ones apart.

The invariant is that table and order agree. One more query preserves it as long as its name is new
to the table, so a whole load does, because the two checks make every name new at its turn.

Queries are added at the end and never go away, because a unit of work that is rolled back gives up
data and no queries.

## Main definitions

* `Registry.Coherent` — the invariant
* `Registry.listed` — the queries of a registry as one list

## Main results

* `Registry.Coherent.addQuery`, `Registry.Coherent.addQueries` — the step and the run of a load,
  and `Registry.Coherent.addQuery_iff`, that the step asks for no more than it needs
* `Registry.Reachable.coherent` — every reachable registry has the invariant
* `Registry.Coherent.map_name_listed`, `Registry.Coherent.find?_listed` — a coherent registry is a
  list of queries that is searched by name
* `Registry.Leads.keeps` — along every run names are added at the end, and queries stay
* `Registry.representation` — what a caller sees of this
-/

namespace NamedSql

namespace Registry

variable {r r' : Registry} {q : Query} {queries : List Query} {name : String}

/-! ### The invariant -/

/-- Table and order agree: every name is listed once, the listed names are those of the table, and
both have the same number. What the table has is under its own name and has a body, and no name is
that of an operation. -/
structure Coherent (r : Registry) : Prop where
  nodup : r.names.Nodup
  mem_iff : ∀ name, name ∈ r.names ↔ (r.query? name).isSome = true
  size : r.size = r.names.length
  own : ∀ name q, r.query? name = some q → q.name = name
  body : ∀ name q, r.query? name = some q → q.sql ≠ ""
  free : ∀ name ∈ r.names, name ∉ reservedNames

theorem Coherent.of_eq (h : Coherent r) (hn : r'.names = r.names) (hq : r'.queries = r.queries) :
    Coherent r' := by
  have hl : r'.query? = r.query? := by
    funext name
    rw [query?, query?, hq]
  exact
    { nodup := hn ▸ h.nodup
      mem_iff := by rw [hn, hl]; exact h.mem_iff
      size := by rw [Registry.size, hq, hn]; exact h.size
      own := by rw [hl]; exact h.own
      body := by rw [hl]; exact h.body
      free := hn ▸ h.free }

theorem coherent_new (c : Sql.Connection) (verbose : Bool) : Coherent (.new c verbose) where
  nodup := List.nodup_nil
  mem_iff _ := by simp [names, query?, new]
  size := by simp [Registry.size, names, new]
  own _ _ h := by simp [query?, new] at h
  body _ _ h := by simp [query?, new] at h
  free _ h := nomatch h

/-- **One more query keeps table and order in step**, if its name is new to the table. -/
theorem Coherent.addQuery (h : Coherent r) (hn : r.query? q.name = none) (hb : q.sql ≠ "")
    (hf : q.name ∉ reservedNames) : Coherent (r.addQuery q) := by
  have hm : q.name ∉ r.names := by
    rw [h.mem_iff, hn]
    exact Bool.false_ne_true
  have hnames : (r.addQuery q).names = r.names ++ [q.name] := rfl
  refine
    { nodup := ?_, mem_iff := fun name => ?_, size := ?_, own := fun name q' hq => ?_,
      body := fun name q' hq => ?_, free := fun name hname => ?_ }
  · rw [hnames]
    exact List.nodup_append.mpr ⟨h.nodup, List.pairwise_singleton _ _, fun a ha b hb he =>
      hm (List.mem_singleton.mp hb ▸ he ▸ ha)⟩
  · rw [hnames, query?_addQuery, List.mem_append, List.mem_singleton, h.mem_iff]
    split
    · simp [‹q.name = name›]
    · simp [Ne.symm ‹q.name ≠ name›]
  · rw [size_addQuery hn, hnames, List.length_append, h.size, List.length_singleton]
  · rw [query?_addQuery] at hq
    split at hq
    · cases hq
      assumption
    · exact h.own name q' hq
  · rw [query?_addQuery] at hq
    split at hq
    · cases hq
      exact hb
    · exact h.body name q' hq
  · rw [hnames, List.mem_append, List.mem_singleton] at hname
    rcases hname with hname | rfl
    · exact h.free name hname
    · exact hf

/-- Nothing less will do: a query under a name that the table has would be listed a second time. -/
theorem Coherent.addQuery_iff (h : Coherent r) :
    Coherent (r.addQuery q) ↔ r.query? q.name = none ∧ q.sql ≠ "" ∧ q.name ∉ reservedNames := by
  refine ⟨fun hc => ⟨?_, ?_, ?_⟩, fun ⟨hn, hb, hf⟩ => h.addQuery hn hb hf⟩
  · have hm : q.name ∉ r.names := by
      intro hm
      exact (List.nodup_append.mp hc.nodup).2.2 q.name hm q.name (List.mem_singleton_self _) rfl
    rwa [h.mem_iff, Option.not_isSome_iff_eq_none] at hm
  · exact hc.body q.name q (by rw [query?_addQuery, if_pos rfl])
  · exact hc.free q.name (List.mem_append_right _ (List.mem_singleton_self _))

/-- So do more queries, if their names are new to the table and differ from each other. The
induction is on the queries: the name of the first one is not new any more for those behind it. -/
theorem Coherent.addQueries (h : Coherent r) (hd : (queries.map Query.name).Nodup)
    (hn : ∀ q ∈ queries, r.query? q.name = none) (hb : ∀ q ∈ queries, q.sql ≠ "")
    (hf : ∀ q ∈ queries, q.name ∉ reservedNames) : Coherent (r.addQueries queries) := by
  induction queries generalizing r with
  | nil => exact h
  | cons q queries ih =>
    rw [List.map_cons, List.nodup_cons] at hd
    rw [List.forall_mem_cons] at hn hb hf
    rw [addQueries_cons]
    refine ih (h.addQuery hn.1 hb.1 hf.1) hd.2 (fun q' hq => ?_) hb.2 hf.2
    have hne : q.name ≠ q'.name := fun he => hd.1 (he ▸ List.mem_map_of_mem hq)
    rw [query?_addQuery, if_neg hne]
    exact hn.2 q' hq

namespace Accepted

variable {held : String → Bool} {seen : List String} {specs : List QuerySpec}

theorem exists_spec (h : Accepted held seen specs queries) :
    ∀ q ∈ queries, ∃ spec ∈ specs, q.sql = spec.sql := by
  induction h with
  | nil seen => exact fun q hq => nomatch hq
  | @cons seen spec shape specs queries header rest ih =>
    intro q hq
    rcases List.mem_cons.mp hq with rfl | hq
    · exact ⟨spec, List.mem_cons_self, rfl⟩
    · obtain ⟨spec', hs, he⟩ := ih q hq
      exact ⟨spec', List.mem_cons_of_mem spec hs, he⟩

theorem not_reserved (h : Accepted held seen specs queries) :
    ∀ q ∈ queries, q.name ∉ reservedNames := by
  induction h with
  | nil seen => exact fun q hq => nomatch hq
  | @cons seen spec shape specs queries header rest ih =>
    intro q hq
    rcases List.mem_cons.mp hq with rfl | hq
    · have hf := (checkHeader_eq_ok_iff.mp header).2.1
      rwa [List.contains_eq_mem, decide_eq_false_iff_not] at hf
    · exact ih q hq

end Accepted

theorem Coherent.of_prepares (h : Coherent r) (hp : Prepares r r') : Coherent r' :=
  h.of_eq hp.restored.names hp.restored.queries

/-- The queries of a text that has been accepted do not clash with those that were there. -/
theorem Coherent.gained (hg : Gained r r') (h : Coherent r) : Coherent r' := by
  cases hg with
  | nothing hp => exact h.of_prepares hp
  | @added text specs queries m sources read accepted prepared hr =>
    have hc : Coherent (m.addQueries queries) := by
      refine (h.of_prepares prepared).addQueries accepted.nodup (fun q hq => ?_) (fun q hq => ?_)
        accepted.not_reserved
      · rw [query?, prepared.restored.queries]
        exact accepted.query?_eq_none q hq
      · obtain ⟨spec, hs, he⟩ := accepted.exists_spec q hq
        rw [he]
        exact (QuerySpec.regular_of_mem read hs).sql_ne_empty
    rw [hr]
    exact hc.of_eq rfl rfl

theorem Effect.queries_eq (h : Effect r r') : r'.names = r.names ∧ r'.queries = r.queries := by
  cases h with
  | executed i => exact ⟨rfl, rfl⟩
  | controlled command => exact ⟨rfl, rfl⟩
  | counted depth rollbackOnly => exact ⟨rfl, rfl⟩

theorem Opened.coherent (h : Opened r) : Coherent r := by
  obtain ⟨config, files, c, session, -, -, rfl⟩ := h.cases
  exact (coherent_new c config.verbose).of_eq rfl rfl

/-- Table and order of every reachable registry agree. -/
theorem Reachable.coherent (h : Reachable r) : Coherent r :=
  h.preserves Coherent.gained (fun _ _ hc => hc.of_eq rfl rfl)
    (fun he hc => hc.of_eq he.queries_eq.1 he.queries_eq.2) Opened.coherent

/-! ### The queries as one list -/

/-- The queries in the order in which they were loaded: for every listed name what the table has
under it. -/
def listed (r : Registry) : List Query := r.names.filterMap r.query?

theorem map_name_filterMap {names : List String}
    (hs : ∀ name ∈ names, (r.query? name).isSome = true)
    (ho : ∀ name q, r.query? name = some q → q.name = name) :
    (names.filterMap r.query?).map Query.name = names := by
  induction names with
  | nil => rfl
  | cons name names ih =>
    rw [List.forall_mem_cons] at hs
    obtain ⟨q, hq⟩ := Option.isSome_iff_exists.mp hs.1
    rw [List.filterMap_cons_some hq, List.map_cons, ho name q hq, ih hs.2]

theorem Coherent.map_name_listed (h : Coherent r) : r.listed.map Query.name = r.names :=
  map_name_filterMap (fun name => (h.mem_iff name).mp) h.own

theorem Coherent.mem_listed_iff (h : Coherent r) : q ∈ r.listed ↔ r.query? q.name = some q := by
  rw [listed, List.mem_filterMap]
  constructor
  · rintro ⟨name, -, hq⟩
    rwa [h.own name q hq]
  · intro hq
    exact ⟨q.name, (h.mem_iff q.name).mpr (Option.isSome_iff_exists.mpr ⟨q, hq⟩), hq⟩

/-- **To look up a name in the table is to search the list for it.** -/
theorem Coherent.find?_listed (h : Coherent r) (name : String) :
    r.listed.find? (·.name == name) = r.query? name := by
  cases hq : r.query? name with
  | none =>
    rw [List.find?_eq_none]
    rintro q hm hn
    rw [h.mem_listed_iff, eq_of_beq hn, hq] at hm
    cases hm
  | some q =>
    cases hf : r.listed.find? (·.name == name) with
    | none =>
      have hm := h.mem_listed_iff.mpr (h.own name q hq ▸ hq)
      exact absurd (h.own name q hq) (by simpa using List.find?_eq_none.mp hf q hm)
    | some q' =>
      have hm := h.mem_listed_iff.mp (List.mem_of_find?_eq_some hf)
      have hn : q'.name = name := by simpa using List.find?_some hf
      rw [← hm, hn, hq]

/-! ### History -/

/-- The names of one registry are those that another one starts with, and queries of that one are
those of the first. -/
structure Keeps (r r' : Registry) : Prop where
  names : r.names <+: r'.names
  queries : ∀ name q, r.query? name = some q → r'.query? name = some q

theorem Keeps.of_eq (hn : r'.names = r.names) (hq : r'.queries = r.queries) : Keeps r r' where
  names := hn ▸ List.prefix_rfl
  queries name q h := by rwa [query?, hq]

theorem Keeps.trans {r'' : Registry} (h : Keeps r r') (h' : Keeps r' r'') : Keeps r r'' where
  names := h.names.trans h'.names
  queries name q hq := h'.queries name q (h.queries name q hq)

theorem Gained.keeps (h : Gained r r') : Keeps r r' := by
  cases h with
  | nothing hp => exact .of_eq hp.restored.names hp.restored.queries
  | @added text specs queries m sources read accepted prepared hr =>
    have he := accepted.extended prepared
    rw [hr]
    exact ⟨⟨_, he.names.symm⟩, he.old⟩

/-- Along every run names are added at the end, and a query that is found stays what it is. -/
theorem Leads.keeps (h : Leads r r') : Keeps r r' :=
  h.preserves (P := Keeps r) (fun hg hk => hk.trans hg.keeps)
    (fun _ _ hk => hk.trans (.of_eq rfl rfl))
    (fun he hk => hk.trans (.of_eq he.queries_eq.1 he.queries_eq.2)) (.of_eq rfl rfl)

/-! ### What a caller sees -/

/-- **A reachable registry lists every name once, finds exactly the queries that it lists, each
under its own name and with a body, and none of them has the name of an operation.** Whatever is
done with it next, names are added at the end of the list, and a query that is found stays what it
is. -/
theorem representation {r : Registry} (h : Reachable r) :
    r.names.Nodup ∧ (∀ name, r.contains name = true ↔ name ∈ r.names) ∧
      r.size = r.names.length ∧ (r.isEmpty = true ↔ r.names = []) ∧
      (∀ name q, r.query? name = some q → q.name = name ∧ q.sql ≠ "") ∧
      (∀ name ∈ r.names, name ∉ reservedNames) ∧
      ∀ r', Leads r r' →
        r.names <+: r'.names ∧ ∀ name q, r.query? name = some q → r'.query? name = some q := by
  have hc := h.coherent
  refine ⟨hc.nodup, fun name => ?_, hc.size, ?_, fun name q hq => ?_, hc.free, fun r' hl => ?_⟩
  · rw [contains_eq_isSome, hc.mem_iff]
  · rw [isEmpty, Std.TreeMap.isEmpty_eq_size_eq_zero, beq_iff_eq, ← size, hc.size,
      List.length_eq_zero_iff]
  · exact ⟨hc.own name q hq, hc.body name q hq⟩
  · exact ⟨hl.keeps.names, hl.keeps.queries⟩

/-- A transaction that fails leaves the names of the registry as they are, and a load that fails in
its second query adds none. -/
theorem representation_failed :
    let l := memoryWith "create table t (c)" "-- :name add :insert\ninsert into t values (:c)\n"
    let l₁ := ((Step.transaction .nil (.abort "no")).run.run l).2
    let l₂ := ((loadText "-- :name b :one\nselect 1\n-- :name add :one\nselect 1\n").run.run l₁).2
    l₂.state.names = ["add"] ∧ l.state.names <+: l₂.state.names := by
  intro l l₁ l₂
  refine ⟨by decide +kernel, ?_⟩
  have hr : Reachable l.state := reachable_memoryWith _ (by decide +kernel)
  have hl : Leads l.state l₂.state :=
    (Relation.ReflTransGen.single (.step _ l)).tail (.loadText _ l₁)
  exact ((representation hr).2.2.2.2.2.2 l₂.state hl).1

end Registry

end NamedSql
