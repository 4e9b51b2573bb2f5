import NamedSql.Proofs.Record.Objects

/-!
# Records made by insertion

A record that is made by inserting pairs in turn is an ordered map. Its columns are distinct and
stand in the order in which they were first inserted, and each has the value that it was given last.
An insertion acts on one column only: it leaves the others where they are and what they are. So the
order in which columns are set again that are there does not matter.

## Scope

A row of a query may have several columns of one name. What is said of a single insertion, and of
columns that are set again, holds of such records too: the first column of the name is the one that
is set.

## Main definitions

* `Record.insertAll` — the record with pairs inserted in turn

## Main results

* `Record.columns_ofList` — the columns are in the order of their first insertion
* `Record.get?_insertAll` — a column has the value that it was given last
* `Record.insertAll_perm` — columns that are there may be set again in any order
* `Record.ordered_map` — what a record made by insertion is
-/

namespace NamedSql

namespace Record

variable {α : Type} [ToValue α] {r : Record} {column other : String}

/-- The record with pairs inserted in turn. -/
def insertAll (r : Record) (pairs : List (String × α)) : Record :=
  pairs.foldl (fun r p => r.insert p.1 p.2) r

theorem insertAll_cons (r : Record) (p : String × α) (pairs : List (String × α)) :
    r.insertAll (p :: pairs) = (r.insert p.1 p.2).insertAll pairs := rfl

theorem insertAll_concat (r : Record) (pairs : List (String × α)) (p : String × α) :
    r.insertAll (pairs ++ [p]) = (r.insertAll pairs).insert p.1 p.2 := by
  rw [insertAll, List.foldl_append]
  rfl

theorem ofList_eq_insertAll (pairs : List (String × α)) : ofList pairs = empty.insertAll pairs :=
  rfl

/-! ### Columns -/

/-- An insertion leaves every column where it is. -/
theorem columns_prefix_insert (r : Record) (column : String) (a : α) :
    r.columns <+: (r.insert column a).columns := by
  rw [columns_insert]
  split
  · exact List.prefix_rfl
  · exact List.prefix_append _ _

theorem eraseDups_concat (names : List String) (name : String) :
    (names ++ [name]).eraseDups =
      if name ∈ names then names.eraseDups else names.eraseDups ++ [name] := by
  rw [List.eraseDups_append]
  split
  · rename_i hm
    have hr : [name].removeAll names = [] := by simpa [List.removeAll] using hm
    rw [hr]
    exact List.append_nil _
  · rename_i hm
    have hr : [name].removeAll names = [name] := by simpa [List.removeAll] using hm
    rw [hr]
    rfl

/-- **The columns of a record made by insertion are in the order of their first insertion.** The
induction is on the insertions, from the last one. -/
theorem columns_ofList (pairs : List (String × α)) :
    (ofList pairs).columns = (pairs.map (·.1)).eraseDups := by
  rw [ofList_eq_insertAll]
  induction pairs using List.reverseRecOn with
  | nil => rfl
  | append_singleton pairs p ih =>
    rw [insertAll_concat, columns_insert, List.map_append, List.map_singleton, eraseDups_concat]
    simp only [ih, List.mem_eraseDups]

/-! ### Values -/

/-- **A column has the value that it was given last**, or the one that it had before. -/
theorem get?_insertAll (r : Record) (pairs : List (String × α)) (column : String) :
    (r.insertAll pairs).get? column =
      ((pairs.reverse.lookup column).map toValue).or (r.get? column) := by
  induction pairs using List.reverseRecOn with
  | nil => rfl
  | append_singleton pairs p ih =>
    rw [insertAll_concat, List.reverse_append, List.reverse_singleton, List.singleton_append,
      lookup_cons_eq_ite]
    split
    · rename_i hc
      rw [hc, get?_insert_self]
      rfl
    · rename_i hc
      rw [get?_insert_of_ne _ _ hc, ih]

theorem get?_ofList (pairs : List (String × α)) (column : String) :
    (ofList pairs).get? column = (pairs.reverse.lookup column).map toValue := by
  rw [ofList_eq_insertAll, get?_insertAll]
  exact Option.or_none

/-- Entries with distinct columns are listed by looking their columns up. -/
theorem eq_filterMap_lookup {entries : List (String × Value)}
    (h : (entries.map (·.1)).Nodup) :
    entries = (entries.map (·.1)).filterMap fun c => (entries.lookup c).map fun v => (c, v) := by
  induction entries with
  | nil => rfl
  | cons e entries ih =>
    rw [List.map_cons, List.nodup_cons] at h
    have hrest : ∀ c ∈ entries.map (·.1), (e :: entries).lookup c = entries.lookup c := by
      intro c hc
      have hne : c ≠ e.1 := fun he => h.1 (he ▸ hc)
      rw [lookup_cons_eq_ite, if_neg hne]
    rw [List.map_cons, List.filterMap_cons, lookup_cons_eq_ite, if_pos rfl,
      List.filterMap_congr fun c hc => by rw [hrest c hc], ← ih h.2]
    rfl

/-- A record made by insertion is its columns with the values that they were given last. -/
theorem entries_ofList (pairs : List (String × α)) :
    (ofList pairs).entries = (pairs.map (·.1)).eraseDups.filterMap fun c =>
      (pairs.reverse.lookup c).map fun a => (c, toValue a) := by
  have he := eq_filterMap_lookup (nodup_columns_ofList pairs)
  change _ = (ofList pairs).columns.filterMap fun c =>
    ((ofList pairs).get? c).map fun v => (c, v) at he
  rw [he, columns_ofList]
  refine List.filterMap_congr fun c _ => ?_
  rw [get?_ofList, Option.map_map]
  rfl

/-! ### Columns that are set again -/

/-- Setting a column that is there and setting another one may be done in either order. -/
theorem setEntry_comm {v w : Value} (hne : column ≠ other) {entries : List (String × Value)}
    (h : column ∈ entries.map (·.1)) :
    setEntry column v (setEntry other w entries) =
      setEntry other w (setEntry column v entries) := by
  induction entries with
  | nil => exact absurd h List.not_mem_nil
  | cons e entries ih =>
    obtain ⟨c, u⟩ := e
    by_cases hc : c = column
    · have ho : c ≠ other := fun ho => hne (hc.symm.trans ho)
      simp [setEntry, hc, hne]
    · by_cases ho : c = other
      · simp [setEntry, ho, hne.symm]
      · have hm : column ∈ entries.map (·.1) := (List.mem_cons.mp h).resolve_left (Ne.symm hc)
        simp [setEntry, hc, ho, ih hm]

theorem insert_comm (hne : column ≠ other) (h : column ∈ r.columns) (a b : α) :
    (r.insert other b).insert column a = (r.insert column a).insert other b :=
  congrArg Record.mk (setEntry_comm hne h)

/-- **Distinct columns that are there may be set again in any order.** -/
theorem insertAll_perm {pairs pairs' : List (String × α)} (hp : pairs.Perm pairs')
    (hn : (pairs.map (·.1)).Nodup) (h : ∀ p ∈ pairs, p.1 ∈ r.columns) :
    r.insertAll pairs = r.insertAll pairs' := by
  induction hp generalizing r with
  | nil => rfl
  | cons p _ ih =>
    rw [List.map_cons, List.nodup_cons] at hn
    refine ih hn.2 fun q hq => ?_
    exact (columns_prefix_insert r p.1 p.2).subset (h q (List.mem_cons_of_mem p hq))
  | swap p q pairs =>
    have hne : p.1 ≠ q.1 := by
      rw [List.map_cons, List.map_cons, List.nodup_cons] at hn
      exact fun he => hn.1 (he ▸ List.mem_cons_self)
    have hm : p.1 ∈ r.columns := h p (List.mem_cons_of_mem q List.mem_cons_self)
    rw [insertAll_cons, insertAll_cons, insert_comm hne hm]
    rfl
  | trans hp _ ih ih' =>
    rw [ih hn h]
    exact ih' ((hp.map (·.1)).nodup_iff.mp hn) fun p hm => h p (hp.mem_iff.mpr hm)

theorem setEntry_of_lookup {v : Value} {entries : List (String × Value)}
    (h : entries.lookup column = some v) : setEntry column v entries = entries := by
  induction entries with
  | nil => cases h
  | cons e entries ih =>
    obtain ⟨c, w⟩ := e
    rw [lookup_cons_eq_ite] at h
    by_cases hc : column = c
    · rw [if_pos hc] at h
      cases h
      simp [setEntry, hc]
    · rw [if_neg hc] at h
      simp [setEntry, Ne.symm hc, ih h]

/-- Setting columns to the values that they have changes nothing. -/
theorem insertAll_of_get? {pairs : List (String × α)}
    (h : ∀ p ∈ pairs, r.get? p.1 = some (toValue p.2)) : r.insertAll pairs = r := by
  induction pairs with
  | nil => rfl
  | cons p pairs ih =>
    have hp : r.insert p.1 p.2 = r :=
      congrArg Record.mk (setEntry_of_lookup (h p List.mem_cons_self))
    rw [insertAll_cons, hp]
    exact ih fun q hq => h q (List.mem_cons_of_mem p hq)

/-- **A record that is made by insertion is an ordered map.** Its columns are distinct, stand in the
order in which they were first inserted, and have the values that they were given last; nothing else
is found in it. An insertion into any record changes no other column and moves none, and what is
inserted stands for the value made from it. If distinct columns of a record are set again, the order
makes no difference, and none at all is made by setting them to what they are. -/
theorem ordered_map (pairs : List (String × α)) :
    (ofList pairs).columns.Nodup ∧
      (ofList pairs).columns = (pairs.map (·.1)).eraseDups ∧
      (ofList pairs).entries = ((pairs.map (·.1)).eraseDups.filterMap fun c =>
        (pairs.reverse.lookup c).map fun a => (c, toValue a)) ∧
      (∀ column, (ofList pairs).get? column = (pairs.reverse.lookup column).map toValue) ∧
      (∀ (r : Record) (column : String) (a : α),
        r.insert column a = r.insert column (toValue a) ∧
          (r.insert column a).get? column = some (toValue a) ∧
          (∀ other, other ≠ column → (r.insert column a).get? other = r.get? other) ∧
          r.columns <+: (r.insert column a).columns) ∧
      (∀ (r : Record) (pairs' : List (String × α)), pairs.Perm pairs' →
        (pairs.map (·.1)).Nodup → (∀ p ∈ pairs, p.1 ∈ r.columns) →
          r.insertAll pairs = r.insertAll pairs') ∧
      ∀ r : Record, (∀ p ∈ pairs, r.get? p.1 = some (toValue p.2)) → r.insertAll pairs = r := by
  refine ⟨nodup_columns_ofList pairs, columns_ofList pairs, entries_ofList pairs,
    get?_ofList pairs,
    fun r column a => ⟨rfl, get?_insert_self r column a, fun other ho => ?_, ?_⟩,
    fun r pairs' hp hn h => insertAll_perm hp hn h, fun r h => insertAll_of_get? h⟩
  · exact get?_insert_of_ne r a ho
  · exact columns_prefix_insert r column a

/-- A column that is set again stays in front, with its last value. -/
example : ofList [("a", Value.text "x"), ("b", .text "y"), ("a", .null)] =
    ⟨[("a", .null), ("b", .text "y")]⟩ := by
  decide

end Record

end NamedSql
