import NamedSql.Sql.Change

/-!
# What a table stores of a row

A row that is to be stored is first held against the columns that must not be nothing, and then
every column makes of its value what its affinity asks for. The column that is the rowid has the
rowid, whatever was to be there. So what is stored in a column tells what was to be stored there,
but for nothing where there must be something: a statement that replaces rows stores the default of
the column instead.

## Scope

Whether there is room for the row, and what its conditions come to, is not looked at here.

## Main definitions

* `Column.Stores` — what is stored in a column for a value
* `Table.Stores` — what is stored for a row

## Main results

* `Table.stores_of_checkNulls` — a row that passes the columns is stored as it should be
-/

namespace NamedSql.Sql

/-- What is stored in a column for a value. -/
def Column.Stores (c : Column) (conflict : Conflict) (v w : Value) : Prop :=
  w = c.affinity.store v ∨
    conflict = .replace ∧ c.notNull = true ∧ v = .null ∧ w = c.affinity.store c.default

/-- What is stored in a table for a row. -/
structure Table.Stores (t : Table) (conflict : Conflict) (r stored : Row) : Prop where
  rowid : stored.rowid = r.rowid
  width : stored.values.length = t.columns.length
  identity : ∀ i < t.columns.length, t.rowidColumn = some i → stored.value i = .integer r.rowid
  columns : ∀ i column, t.columns[i]? = some column → t.rowidColumn ≠ some i →
    column.Stores conflict (r.value i) (stored.value i)

theorem Row.value_set (r : Row) (i j : Nat) (v : Value) :
    ({ r with values := r.values.set i v } : Row).value j =
      if i = j ∧ i < r.values.length then v else r.value j := by
  rw [Row.value, Row.value, List.getD_eq_getElem?_getD, List.getD_eq_getElem?_getD,
    List.getElem?_set]
  by_cases hij : i = j
  · subst hij
    by_cases hi : i < r.values.length
    · rw [if_pos rfl, if_pos hi, if_pos ⟨rfl, hi⟩]
      rfl
    · rw [if_pos rfl, if_neg hi, if_neg fun h => hi h.2, List.getElem?_eq_none (Nat.not_lt.mp hi)]
  · rw [if_neg hij, if_neg fun h => hij h.1]

/-- A rule that is violated leaves a row out only if that is what the statement does. -/
theorem of_violated {conflict : Conflict} {f : Fault} {o : Option Row}
    (h : violated conflict f = .ok o) : o = none ∧ conflict = .ignore := by
  unfold violated at h
  split at h
  · cases h
    exact ⟨rfl, rfl⟩
  · cases h
  · cases h

/-- So does a column that must not be nothing. -/
theorem conflict_of_checkNulls {conflict : Conflict} {t : Table} {columns : List Column} {k : Nat}
    {r : Row} (h : checkNulls conflict t k columns r = .ok none) : conflict = .ignore := by
  induction columns generalizing k r with
  | nil => cases h
  | cons c rest ih =>
    rw [checkNulls] at h
    split at h
    · split at h
      · exact ih h
      · exact (of_violated h).2
    · exact ih h

/-- A row that passes the columns is as it was, but for nothing that has been replaced by the
default of a column. -/
theorem value_of_checkNulls {conflict : Conflict} {t : Table} {columns : List Column} {k : Nat}
    {r passed : Row} (h : checkNulls conflict t k columns r = .ok (some passed)) :
    passed.rowid = r.rowid ∧ ∀ i, passed.value i = r.value i ∨
      conflict = .replace ∧ r.value i = .null ∧ ∃ column, k ≤ i ∧ columns[i - k]? = some column ∧
        column.notNull = true ∧ passed.value i = column.default := by
  induction columns generalizing k r with
  | nil =>
    cases h
    exact ⟨rfl, fun i => Or.inl rfl⟩
  | cons column rest ih =>
    -- A column behind this one, counted from here.
    have hlater : ∀ i {c : Column}, k + 1 ≤ i → rest[i - (k + 1)]? = some c →
        k ≤ i ∧ (column :: rest)[i - k]? = some c := by
      intro i c hi hc
      have hs : i - k = (i - (k + 1)) + 1 := by omega
      rw [hs, List.getElem?_cons_succ, hc]
      exact ⟨Nat.le_of_succ_le hi, rfl⟩
    rw [checkNulls] at h
    split at h
    · rename_i hnull
      split at h
      · rename_i hreplace
        simp only [Bool.and_eq_true, beq_iff_eq] at hnull hreplace
        obtain ⟨⟨hnotNull, hvalue⟩, -⟩ := hnull
        obtain ⟨hrowid, hv⟩ := ih h
        refine ⟨hrowid, fun i => ?_⟩
        by_cases hset : k = i ∧ k < r.values.length
        · obtain ⟨rfl, hk⟩ := hset
          refine Or.inr ⟨hreplace.1, hvalue, column, Nat.le_refl k, ?_, hnotNull, ?_⟩
          · rw [Nat.sub_self, List.getElem?_cons_zero]
          · rcases hv k with hsame | ⟨-, -, c, hlt, -⟩
            · rw [hsame, Row.value_set, if_pos ⟨rfl, hk⟩]
            · omega
        · rcases hv i with hsame | ⟨hc, hn, c, hle, hcol, hrest⟩
          · rw [hsame, Row.value_set, if_neg hset]
            exact Or.inl rfl
          · rw [Row.value_set, if_neg hset] at hn
            obtain ⟨hle', hcol'⟩ := hlater i hle hcol
            exact Or.inr ⟨hc, hn, c, hle', hcol', hrest⟩
      · obtain ⟨hnone, -⟩ := of_violated h
        cases hnone
    · obtain ⟨hrowid, hv⟩ := ih h
      refine ⟨hrowid, fun i => (hv i).imp_right ?_⟩
      rintro ⟨hc, hn, c, hle, hcol, hrest⟩
      obtain ⟨hle', hcol'⟩ := hlater i hle hcol
      exact ⟨hc, hn, c, hle', hcol', hrest⟩

namespace Table

variable {t : Table}

theorem length_stored (t : Table) (r : Row) : (t.stored r).values.length = t.columns.length := by
  rw [stored, List.length_map, List.length_range]

theorem value_stored (t : Table) (r : Row) {i : Nat} (hi : i < t.columns.length) :
    (t.stored r).value i =
      if t.rowidColumn = some i then .integer r.rowid
      else (t.columnAffinity i).store (r.value i) := by
  rw [Row.value, stored, List.getD_eq_getElem?_getD, List.getElem?_map, List.getElem?_range hi]
  rfl

/-- **A row that passes the columns is stored as it should be.** -/
theorem stores_of_checkNulls {conflict : Conflict} {r passed : Row}
    (h : checkNulls conflict t 0 t.columns r = .ok (some passed)) :
    t.Stores conflict r (t.stored passed) := by
  obtain ⟨hrowid, hv⟩ := value_of_checkNulls h
  refine ⟨hrowid, t.length_stored passed, fun i hi hid => ?_, fun i column hcolumn hid => ?_⟩
  · rw [value_stored t passed hi, if_pos hid, hrowid]
  · have hi : i < t.columns.length := (List.getElem?_eq_some_iff.mp hcolumn).1
    have ha : t.columnAffinity i = column.affinity := by
      rw [columnAffinity, hcolumn]
      rfl
    rw [value_stored t passed hi, if_neg hid, ha]
    rcases hv i with hsame | ⟨hc, hnull, c, -, hcol, hnotNull, hdefault⟩
    · exact Or.inl (by rw [hsame])
    · rw [Nat.sub_zero, hcolumn] at hcol
      cases hcol
      exact Or.inr ⟨hc, hnotNull, hnull, by rw [hdefault]⟩

end Table

end NamedSql.Sql
