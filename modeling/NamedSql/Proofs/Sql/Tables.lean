import NamedSql.Proofs.Sql.Aging

/-!
# Well-formed tables

A table has at least one column, and its rows are kept by ascending rowid, so that no two of them
have the same one. A row that is put in or taken out leaves a table as it should be. So a rowid
tells a row from all the others, and the number of rows goes up by one and down by one.

## Scope

What the rows of a table hold is not looked at here, only their rowids.

## Main definitions

* `Table.WellFormed`, `Database.WellFormed` — tables with columns whose rowids ascend

## Main results

* `Table.WellFormed.insert`, `Table.WellFormed.erase` — tables stay well formed
* `Table.WellFormed.row?_eq_some_iff` — a rowid tells a row from all the others
* `Table.row?_erase_of_ne` — the other rows stay
* `Table.length_insert`, `Table.WellFormed.length_erase` — the number of rows
* `Plan.wellFormed_of_change?` — a change of rows leaves every table well formed
-/

namespace NamedSql.Sql

namespace Table

variable {t : Table} {r s : Row} {rowid : Int64}

/-- A table has a column, and its rows are by ascending rowid. -/
structure WellFormed (t : Table) : Prop where
  columns : t.columns ≠ []
  ascending : t.rows.Pairwise fun r s => r.rowid < s.rowid

/-! ### Rows by their rowids -/

theorem mem_of_row? (h : t.row? rowid = some r) : r ∈ t.rows ∧ r.rowid = rowid :=
  ⟨List.mem_of_find?_eq_some h, by simpa using List.find?_some h⟩

theorem row?_eq_none_iff : t.row? rowid = none ↔ ∀ r ∈ t.rows, r.rowid ≠ rowid := by
  simp [row?]

/-- In a well-formed table a rowid tells a row from all the others. -/
theorem WellFormed.row?_eq_some_iff (h : t.WellFormed) :
    t.row? rowid = some r ↔ r ∈ t.rows ∧ r.rowid = rowid := by
  refine ⟨mem_of_row?, fun ⟨hm, hr⟩ => ?_⟩
  obtain ⟨columns, hp⟩ := h
  rw [row?]
  generalize t.rows = rows at hp hm
  induction rows with
  | nil => cases hm
  | cons s rest ih =>
    obtain ⟨hs, hrest⟩ := List.pairwise_cons.mp hp
    rw [List.find?_cons]
    rcases List.mem_cons.mp hm with rfl | hm
    · rw [hr, beq_self_eq_true]
    · have hlt : s.rowid < rowid := hr ▸ hs r hm
      rw [beq_false_of_ne (Int64.ne_of_lt hlt)]
      exact ih hrest hm

theorem row?_erase_self (t : Table) (rowid : Int64) : (t.erase rowid).row? rowid = none :=
  row?_eq_none_iff.mpr fun _ h => (mem_erase.mp h).2

theorem row?_erase_of_ne {other : Int64} (h : rowid ≠ other) :
    (t.erase other).row? rowid = t.row? rowid := by
  rw [row?, row?, erase, List.find?_filter]
  congr 1
  funext r
  by_cases hr : r.rowid = rowid
  · subst hr
    simp [h]
  · simp [hr]

theorem row?_erase_eq_none (h : t.row? rowid = none) (other : Int64) :
    (t.erase other).row? rowid = none :=
  row?_eq_none_iff.mpr fun r hr => row?_eq_none_iff.mp h r (mem_erase.mp hr).1

/-! ### Putting rows in and taking rows out -/

theorem lt_of_mem_insertRow {rows : List Row} (hr : rowid < r.rowid)
    (h : ∀ s ∈ rows, rowid < s.rowid) : ∀ s ∈ insertRow r rows, rowid < s.rowid := by
  intro s hs
  rcases mem_insertRow hs with rfl | hs
  · exact hr
  · exact h s hs

theorem pairwise_insertRow {rows : List Row} (h : rows.Pairwise fun r s => r.rowid < s.rowid) :
    (insertRow r rows).Pairwise fun r s => r.rowid < s.rowid := by
  induction rows with
  | nil => exact List.pairwise_singleton _ r
  | cons s rest ih =>
    obtain ⟨hs, hrest⟩ := List.pairwise_cons.mp h
    rw [insertRow]
    split
    · rename_i hlt
      exact List.pairwise_cons.mpr ⟨List.forall_mem_cons.mpr ⟨hlt, fun u hu =>
        Int64.lt_trans hlt (hs u hu)⟩, h⟩
    · rename_i hlt
      split
      · rename_i heq
        exact List.pairwise_cons.mpr ⟨fun u hu => heq ▸ hs u hu, hrest⟩
      · rename_i hne
        have hgt : s.rowid < r.rowid :=
          Int64.lt_of_le_of_ne (Int64.not_lt.mp hlt) (Ne.symm hne)
        exact List.pairwise_cons.mpr ⟨lt_of_mem_insertRow hgt hs, ih hrest⟩

theorem length_insertRow {rows : List Row} (h : ∀ s ∈ rows, s.rowid ≠ r.rowid) :
    (insertRow r rows).length = rows.length + 1 := by
  induction rows with
  | nil => rfl
  | cons s rest ih =>
    obtain ⟨hs, hrest⟩ := List.forall_mem_cons.mp h
    rw [insertRow]
    split
    · rfl
    · rw [if_neg (Ne.symm hs), List.length_cons, List.length_cons, ih hrest]

theorem WellFormed.insert (h : t.WellFormed) (r : Row) : (t.insert r).WellFormed :=
  ⟨h.columns, pairwise_insertRow h.ascending⟩

theorem WellFormed.erase (h : t.WellFormed) (rowid : Int64) : (t.erase rowid).WellFormed :=
  ⟨h.columns, h.ascending.filter _⟩

/-- A row that is put in is there. -/
theorem WellFormed.row?_insert_self (h : t.WellFormed) (r : Row) :
    (t.insert r).row? r.rowid = some r :=
  (h.insert r).row?_eq_some_iff.mpr ⟨self_mem_insertRow r t.rows, rfl⟩

/-- A row that is put in where there is none makes one row more. -/
theorem length_insert (hr : t.row? r.rowid = none) :
    (t.insert r).rows.length = t.rows.length + 1 :=
  length_insertRow (row?_eq_none_iff.mp hr)

/-- A row that is taken out makes one row less. -/
theorem WellFormed.length_erase (h : t.WellFormed) (hr : t.row? rowid = some r) :
    (t.erase rowid).rows.length + 1 = t.rows.length := by
  obtain ⟨hm, hrowid⟩ := mem_of_row? hr
  obtain ⟨columns, hp⟩ := h
  rw [Table.erase]
  dsimp only
  generalize t.rows = rows at hp hm
  induction rows with
  | nil => cases hm
  | cons s rest ih =>
    obtain ⟨hs, hrest⟩ := List.pairwise_cons.mp hp
    rcases List.mem_cons.mp hm with rfl | hm
    · have hall : ∀ u ∈ rest, (u.rowid != rowid) = true := fun u hu =>
        bne_iff_ne.mpr (hrowid ▸ (Int64.ne_of_lt (hs u hu)).symm)
      rw [List.filter_cons_of_neg (by simp [hrowid]), List.filter_eq_self.mpr hall,
        List.length_cons]
    · have hne : (s.rowid != rowid) = true :=
        bne_iff_ne.mpr (Int64.ne_of_lt (hrowid ▸ hs r hm))
      rw [List.filter_cons, if_pos hne, List.length_cons, List.length_cons, ih hrest hm]

end Table

/-! ### Databases -/

namespace Database

variable {d : Database} {t : Table} {name : String}

/-- Every table is well formed. -/
def WellFormed (d : Database) : Prop := ∀ t ∈ d.tables, t.WellFormed

theorem wellFormed_empty : empty.WellFormed := fun _ h => absurd h List.not_mem_nil

theorem WellFormed.find? (h : d.WellFormed) (ht : d.find? name = some t) : t.WellFormed :=
  h t (List.mem_of_find?_eq_some ht)

theorem WellFormed.put (h : d.WellFormed) (ht : t.WellFormed) : (d.put t).WellFormed := by
  obtain ⟨tables⟩ := d
  change ∀ u ∈ putTable t tables, u.WellFormed
  induction tables with
  | nil => exact List.forall_mem_singleton.mpr ht
  | cons u rest ih =>
    obtain ⟨hu, hrest⟩ := List.forall_mem_cons.mp h
    rw [putTable]
    split
    · exact List.forall_mem_cons.mpr ⟨ht, hrest⟩
    · exact List.forall_mem_cons.mpr ⟨hu, ih hrest⟩

theorem WellFormed.erase (h : d.WellFormed) (name : String) : (d.erase name).WellFormed :=
  fun t ht => h t (List.mem_filter.mp ht).1

/-- A table that is put where it is found is found there. -/
theorem find?_put (h : d.find? name = some t) {u : Table} (hu : u.name = t.name) :
    (d.put u).find? name = some u := by
  have hn := List.find?_some (p := fun t : Table => Token.sameName t.name name) h
  have hp : (fun v : Table => Token.sameName v.name name) =
      fun v => Token.sameName v.name u.name :=
    funext fun v => (sameName_of_sameName (hu ▸ hn)).symm
  have hs := d.find?_put_self u
  rw [Database.find?] at hs ⊢
  rwa [hp]

/-- Putting a table where it is found changes nothing. -/
theorem put_self (h : d.find? name = some t) : d.put t = d := by
  obtain ⟨tables⟩ := d
  have hn := List.find?_some (p := fun t : Table => Token.sameName t.name name) h
  change (⟨putTable t tables⟩ : Database) = ⟨tables⟩
  change tables.find? _ = some t at h
  congr 1
  induction tables with
  | nil => cases h
  | cons u rest ih =>
    rw [List.find?_cons] at h
    rw [putTable, sameName_of_sameName hn]
    cases hu : Token.sameName u.name name with
    | true =>
      rw [hu] at h
      cases h
      rfl
    | false =>
      rw [hu] at h
      exact congrArg (u :: ·) (ih h)

/-- Of two tables of the same name that are put one after the other the last one stays. -/
theorem put_put (d : Database) {t u : Table} (hn : u.name = t.name) :
    (d.put t).put u = d.put u := by
  obtain ⟨tables⟩ := d
  change (⟨putTable u (putTable t tables)⟩ : Database) = ⟨putTable u tables⟩
  congr 1
  induction tables with
  | nil => simp [putTable, hn, sameName_self]
  | cons v rest ih =>
    rw [putTable, putTable, hn]
    split
    · rw [putTable, hn, if_pos (sameName_self _)]
    · rename_i hv
      rw [putTable, hn, if_neg hv, ih]

end Database

/-! ### Changes of rows -/

/-- A change of rows leaves every table well formed, wherever it stops. -/
theorem Plan.wellFormed_of_change? {p : Plan} {parameters : List Value} {c change : Change}
    {stop : Option Stop} (hf : p.Fits c.database) (h : c.database.WellFormed)
    (hp : p.change? parameters c = some (change, stop)) : change.database.WellFormed := by
  have hput : ∀ {d : Database} {t u : Table} {name : String}, d.find? name = some t →
      u.name = t.name → d.WellFormed → u.WellFormed →
      (d.put u).WellFormed ∧ ((d.put u).find? name).isSome = true := by
    intro d t u name ht hn hd hu
    exact ⟨hd.put hu, Option.isSome_iff_exists.mpr ⟨u, Database.find?_put ht hn⟩⟩
  refine (ends_of_change? (P := fun d _ => d.WellFormed ∧
      ∀ table, p.changed? = some table → (d.find? table).isSome = true)
    (Q := fun _ => True) (fun _ => trivial) (fun table ht => ⟨?_, ?_⟩) (fun _ => trivial)
    (Or.inr fun _ _ _ => id) ⟨h, hf⟩ hp).1.1
  all_goals
    rintro d - r ⟨hd, hs⟩
    obtain ⟨t, hfound⟩ := Option.isSome_iff_exists.mp (hs table ht)
    rw [hfound, Option.getD_some, ht]
  · obtain ⟨hw, hs'⟩ := hput hfound (u := t.insert r) rfl hd ((hd.find? hfound).insert r)
    refine ⟨hw, fun table' ht' => ?_⟩
    cases ht'
    exact hs'
  · obtain ⟨hw, hs'⟩ := hput hfound (u := t.erase r) rfl hd ((hd.find? hfound).erase r)
    refine ⟨hw, fun table' ht' => ?_⟩
    cases ht'
    exact hs'

end NamedSql.Sql
