import NamedSql.Proofs.Registry.CachedRecords
import NamedSql.Proofs.Sql.Regular

/-!
# Registries on well-formed tables

A registry is opened on files that may hold databases. If every table in them is well formed, as the
engine leaves them, every table that the registry gets to see is, whatever is done with it.

## Main definitions

* `Files.WellFormed` — every table of every database in the files is well formed
* `Registry.Grounded` — a registry comes of opening one on such files

## Main results

* `Registry.Grounded.upholds` — whatever is done with a registry, every table stays well formed
* `Registry.grounded_memoryWith` — so it is in memory, where there are no files
-/

namespace NamedSql

/-! ### Files -/

/-- Every table of every database in the files is well formed. -/
def Files.WellFormed (f : Files) : Prop :=
  ∀ place d journal spills, (place, Node.database d journal spills) ∈ f.nodes → d.WellFormed

namespace Files

variable {f : Files} {l : Sql.Location} {place : Place}

theorem wellFormed_connect (journal : Sql.JournalMode) (spills : Bool) {d : Sql.Database}
    (h : d.WellFormed) : (f.connect l place journal spills d).1.database.WellFormed := by
  rw [connect]
  dsimp only
  split
  · exact Sql.Database.wellFormed_empty
  · exact h

theorem wellFormed_openAt (h : f.WellFormed) {opened : Sql.Connection × Files}
    (ho : f.openAt l place = some opened) : opened.1.database.WellFormed := by
  have hcreate : ∀ {opened : Sql.Connection × Files}, openAt.create f l place = some opened →
      opened.1.database.WellFormed := by
    rintro opened ⟨⟩
    exact wellFormed_connect _ _ Sql.Database.wellFormed_empty
  rw [openAt] at ho
  split at ho
  · cases ho
  · rename_i d journal spills hn
    cases ho
    refine wellFormed_connect journal spills ?_
    rw [node?] at hn
    split at hn
    · cases hn
    · obtain ⟨before, after, hs, -⟩ := List.lookup_eq_some_iff.mp hn
      exact h place d journal spills (hs ▸ List.mem_append_right before List.mem_cons_self)
  · cases ho
    exact Sql.Database.wellFormed_empty
  · exact hcreate ho
  · split at ho
    · exact hcreate ho
    · cases ho

theorem wellFormed_openDatabase (h : f.WellFormed) {opened : Sql.Connection × Files}
    (ho : f.openDatabase l = some opened) : opened.1.database.WellFormed := by
  obtain ⟨q, hq, rfl⟩ := Option.map_eq_some_iff.mp ho
  change q.1.database.WellFormed
  split at hq
  · cases hq
    exact Sql.Database.wellFormed_empty
  · split at hq
    · cases hq
      exact Sql.Database.wellFormed_empty
    · obtain ⟨place, -, hq⟩ := Option.bind_eq_some_iff.mp hq
      exact wellFormed_openAt h hq

end Files

namespace Registry

/-- The registry comes of opening one on files in which every table is well formed, and of moves. -/
def Grounded (r : Registry) : Prop :=
  ∃ config l r₀, Files.WellFormed l.state ∧ ((Registry.open config).run.run l).1 = .ok r₀ ∧
    Leads r₀ r

theorem Grounded.reachable {r : Registry} (h : Grounded r) : Reachable r := by
  obtain ⟨config, l, r₀, -, ho, hl⟩ := h
  exact ⟨r₀, ⟨config, l, ho⟩, hl⟩

/-- **Whatever is done with a registry, every table stays well formed.** -/
theorem Grounded.upholds {r : Registry} (h : Grounded r) :
    r.session.Upholds Sql.Connection.WellFormed Sql.Resolved.Wide := by
  obtain ⟨config, l, r₀, hfiles, ho, hl⟩ := h
  refine hl.preserves_session (fun h => h.session.upholds Sql.wellFormedLaw)
    (fun f hs => hs.addFunction Sql.wellFormedLaw f)
    (fun sql params hs => hs.call Sql.wellFormedLaw sql params)
    (fun command hs => hs.control Sql.wellFormedLaw command) ?_
  obtain ⟨files, c, session, ⟨c₀, hopen, hc⟩, hr, rfl⟩ := cases_of_open ho
  have ha := isAutocommit_configure hopen hc
  have hd : c.database.WellFormed := by
    have hconfigured := c₀.database_configure
    rw [hc] at hconfigured
    change c.database = c₀.database at hconfigured
    rw [hconfigured]
    rw [Sql.Connection.openAt] at hopen
    split at hopen
    · cases hopen
    · split at hopen
      · rename_i opened hopened
        cases hopen
        exact Files.wellFormed_openDatabase hfiles hopened
      · cases hopen
  have hn := preserves_runSchema (fun sql hs => hs.runBatch Sql.wellFormedLaw sql)
    (Sql.Session.upholds_new (Q := Sql.Resolved.Wide) ha
      (.of_transaction_eq_none hd (Option.isNone_iff_eq_none.mp ha)) leastCapacity) config files
  rwa [hr] at hn

/-- A registry in memory is opened on no files. -/
theorem grounded_memoryWith {sql : String} (text : String)
    (h : (openInMemory sql).isOk = true) : Grounded (memoryWith sql text).state := by
  rw [memoryWith]
  cases ho : openInMemory sql with
  | error e =>
    rw [ho] at h
    cases h
  | ok r =>
    exact ⟨_, _, r, fun _ _ _ _ hm => absurd hm List.not_mem_nil, ho,
      .single (.loadText text ⟨r, "store", []⟩)⟩

end Registry

end NamedSql
