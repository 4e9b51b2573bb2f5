import Mathlib.Data.List.Induction
import Mathlib.Data.List.Nodup
import Mathlib.Logic.Function.Basic
import NamedSql.Record

/-!
# Records as objects

The object of a record has its members in the order of their names and no name twice, so of columns
with one name only one can come to be a member. It is the last one, whereas a column is looked up
from the front. The two agree on every column of a record that was made by inserting columns, which
has no column twice.

## Scope

A row of a query is a record as the engine delivers it, which may have columns of one name. What is
said of all records is said of those as well.

## Main definitions

* `Json.Sorted` — members in the order of their names, each name once
* `Json.overwritten` — what is found under each name once members were put in one after the other
* `Json.member?` — a member of an object
* `Record.last?` — the value of the last column of a name

## Main results

* `Json.ofMembers_eq_object_iff` — the object of a list of members, and that it is the only one
* `Record.member?_toJson` — the members of a record
* `Record.member?_toJson_ofList` — the members of a record that was made by insertion
-/

namespace NamedSql

/-! ### Looking up a name -/

theorem lookup_cons_eq_ite {α : Type} (name : String) (e : String × α) (es : List (String × α)) :
    (e :: es).lookup name = if name = e.1 then some e.2 else es.lookup name := by
  rw [List.lookup_cons]
  split
  · rename_i he
    rw [if_pos (beq_iff_eq.mp he)]
  · rename_i he
    rw [if_neg (beq_eq_false_iff_ne.mp he)]

theorem lookup_map {α β : Type} (f : α → β) (es : List (String × α)) (name : String) :
    (es.map fun e => (e.1, f e.2)).lookup name = (es.lookup name).map f := by
  induction es with
  | nil => rfl
  | cons e es ih =>
    rw [List.map_cons, lookup_cons_eq_ite, lookup_cons_eq_ite, ih]
    split
    · rfl
    · rfl

theorem isSome_lookup_iff {α : Type} {es : List (String × α)} {name : String} :
    (es.lookup name).isSome ↔ name ∈ es.map (·.1) := by
  rw [List.lookup_isSome_iff]
  simp only [List.mem_map, beq_iff_eq]
  exact ⟨fun ⟨e, hm, he⟩ => ⟨e, hm, he.symm⟩, fun ⟨e, hm, he⟩ => ⟨e, hm, he.symm⟩⟩

namespace Json

variable {ms ns : List (String × Json)} {name : String} {j : Json}

/-- The members are in the order of their names, and no name is there twice. -/
def Sorted (ms : List (String × Json)) : Prop := ms.Pairwise fun m n => m.1 < n.1

/-- What is found under each name once a member is put in, in place of what was there. -/
def put (found : String → Option Json) (m : String × Json) : String → Option Json :=
  Function.update found m.1 (some m.2)

/-- What is found under each name once members were put in one after the other. -/
def overwritten (ms : List (String × Json)) : String → Option Json := ms.foldl put fun _ => none

/-- The member of a name, if the value is an object that has one. -/
def member? : Json → String → Option Json
  | .object ms, name => ms.lookup name
  | _, _ => none

/-! ### Putting in a member -/

theorem mem_insertMember {m : String × Json} (h : m ∈ insertMember name j ms) :
    m = (name, j) ∨ m ∈ ms := by
  induction ms with
  | nil => exact Or.inl (List.mem_singleton.mp h)
  | cons n ms ih =>
    rw [insertMember] at h
    split at h
    · rcases List.mem_cons.mp h with h | h
      · exact Or.inl h
      · exact Or.inr (List.mem_cons_of_mem n h)
    · split at h
      · exact List.mem_cons.mp h
      · rcases List.mem_cons.mp h with rfl | h
        · exact Or.inr List.mem_cons_self
        · exact (ih h).imp_right (List.mem_cons_of_mem n)

theorem Sorted.insertMember (h : Sorted ms) (name : String) (j : Json) :
    Sorted (insertMember name j ms) := by
  induction ms with
  | nil => exact List.pairwise_singleton _ _
  | cons m ms ih =>
    obtain ⟨hm, hs⟩ := List.pairwise_cons.mp h
    rw [Json.insertMember]
    split
    · rename_i hn
      exact List.pairwise_cons.mpr ⟨fun n hmem => hn ▸ hm n hmem, hs⟩
    · rename_i hn
      split
      · rename_i hlt
        refine List.pairwise_cons.mpr ⟨fun n hmem => ?_, h⟩
        rcases List.mem_cons.mp hmem with rfl | hmem
        · exact hlt
        · exact String.lt_trans hlt (hm n hmem)
      · rename_i hlt
        have hgt : m.1 < name := by
          rcases Std.lt_trichotomy name m.1 with hl | he | hg
          · exact absurd hl hlt
          · exact absurd he hn
          · exact hg
        refine List.pairwise_cons.mpr ⟨fun n hmem => ?_, ih hs⟩
        rcases mem_insertMember hmem with rfl | hmem
        · exact hgt
        · exact hm n hmem

theorem lookup_insertMember (name : String) (j : Json) (ms : List (String × Json)) :
    (fun other => (insertMember name j ms).lookup other) =
      put (fun other => ms.lookup other) (name, j) := by
  funext other
  rw [put, Function.update_apply]
  induction ms with
  | nil => exact lookup_cons_eq_ite other (name, j) []
  | cons m ms ih =>
    rw [insertMember]
    split
    · rename_i hn
      rw [lookup_cons_eq_ite, lookup_cons_eq_ite, hn]
      split
      · rfl
      · rfl
    · rename_i hn
      split
      · exact lookup_cons_eq_ite other (name, j) (m :: ms)
      · rw [lookup_cons_eq_ite, lookup_cons_eq_ite, ih]
        split
        · rename_i ho
          rw [ho, if_neg (Ne.symm hn)]
        · rfl

/-! ### Members in order -/

theorem sorted_sortMembers (ms : List (String × Json)) : Sorted (sortMembers ms) := by
  have hs : ∀ acc, Sorted acc → Sorted (ms.foldl (fun acc m => insertMember m.1 m.2 acc) acc) := by
    induction ms with
    | nil => exact fun _ h => h
    | cons m ms ih => exact fun acc h => ih _ (h.insertMember m.1 m.2)
  exact hs [] List.Pairwise.nil

/-- Sorting members finds the same under each name as putting them in one after the other. -/
theorem lookup_sortMembers (ms : List (String × Json)) (name : String) :
    (sortMembers ms).lookup name = overwritten ms name := by
  have hs : ∀ acc : List (String × Json),
      (fun name => (ms.foldl (fun acc m => insertMember m.1 m.2 acc) acc).lookup name) =
        ms.foldl put fun name => acc.lookup name := by
    induction ms with
    | nil => exact fun _ => rfl
    | cons m ms ih =>
      intro acc
      rw [List.foldl_cons, List.foldl_cons, ih, lookup_insertMember]
  exact congrFun (hs []) name

theorem Sorted.mem_iff (h : Sorted ms) : (name, j) ∈ ms ↔ ms.lookup name = some j := by
  induction ms with
  | nil => exact ⟨nofun, nofun⟩
  | cons m ms ih =>
    obtain ⟨hm, hs⟩ := List.pairwise_cons.mp h
    rw [List.mem_cons, lookup_cons_eq_ite, ih hs]
    split
    · rename_i hn
      have hl : ms.lookup name ≠ some j := by
        intro hl
        have hlt := hm _ ((ih hs).mpr hl)
        exact absurd (hn ▸ hlt) (String.lt_irrefl _)
      refine ⟨fun hor => ?_, fun hj => Or.inl (Prod.ext hn (Option.some.inj hj).symm)⟩
      rw [← hor.resolve_right hl]
    · rename_i hn
      refine ⟨fun hor => hor.resolve_left ?_, Or.inr⟩
      rintro rfl
      exact hn rfl

theorem Sorted.nodup (h : Sorted ms) : ms.Nodup := by
  refine List.Pairwise.imp (fun {m n} hlt he => ?_) h
  rw [he] at hlt
  exact String.lt_irrefl _ hlt

/-- Members in order are determined by what is found under each name. -/
theorem Sorted.eq_of_lookup (hm : Sorted ms) (hn : Sorted ns)
    (h : ∀ name, ms.lookup name = ns.lookup name) : ms = ns := by
  have hp : ms.Perm ns := by
    rw [List.perm_ext_iff_of_nodup hm.nodup hn.nodup]
    rintro ⟨name, j⟩
    rw [hm.mem_iff, hn.mem_iff, h name]
  exact hp.eq_of_pairwise (fun _ _ _ _ hlt hgt => absurd hgt (String.lt_asymm hlt)) hm hn

/-- **The object of a list of members** is the one whose members are in order and are found as if
they had been put in one after the other; there is no other one. -/
theorem ofMembers_eq_object_iff :
    ofMembers ms = .object ns ↔ Sorted ns ∧ ∀ name, ns.lookup name = overwritten ms name := by
  rw [ofMembers, Json.object.injEq]
  constructor
  · rintro rfl
    exact ⟨sorted_sortMembers ms, lookup_sortMembers ms⟩
  · rintro ⟨hs, hn⟩
    exact (sorted_sortMembers ms).eq_of_lookup hs fun name =>
      (lookup_sortMembers ms name).trans (hn name).symm

/-- What was put in last is what is found first from the end. -/
theorem overwritten_eq_lookup_reverse (ms : List (String × Json)) (name : String) :
    overwritten ms name = ms.reverse.lookup name := by
  induction ms using List.reverseRecOn with
  | nil => rfl
  | append_singleton ms m ih =>
    rw [overwritten, List.foldl_append, List.foldl_cons, List.foldl_nil, put,
      Function.update_apply, List.reverse_append, List.reverse_singleton, List.singleton_append,
      lookup_cons_eq_ite, ← ih, overwritten]

end Json

namespace Record

variable {r : Record} {column : String}

/-- The value of the last column of that name. -/
def last? (r : Record) (column : String) : Option Value := r.entries.reverse.lookup column

/-- **The members of a record are the last columns of their names.** -/
theorem member?_toJson (r : Record) (column : String) :
    r.toJson.member? column = (r.last? column).map Value.toJson := by
  rw [toJson, Json.ofMembers, Json.member?, Json.lookup_sortMembers,
    Json.overwritten_eq_lookup_reverse, members, ← List.map_reverse, lookup_map, last?]

/-- A name is looked up with success from either end. -/
theorem isSome_last?_iff : (r.last? column).isSome ↔ (r.get? column).isSome := by
  rw [last?, get?, isSome_lookup_iff, isSome_lookup_iff, List.map_reverse, List.mem_reverse]

/-- The first column of a name that is there once is the last one. -/
theorem last?_eq_get? (h : r.columns.count column ≤ 1) : r.last? column = r.get? column := by
  cases hg : r.get? column with
  | none =>
    have hn := mt isSome_last?_iff.mp (by rw [hg]; exact Bool.false_ne_true)
    exact Option.not_isSome_iff_eq_none.mp hn
  | some v =>
    obtain ⟨before, after, he, -⟩ := List.lookup_eq_some_iff.mp hg
    have ha : column ∉ after.map (·.1) := by
      rw [columns, he, List.map_append, List.map_cons, List.count_append, List.count_cons_self] at h
      exact List.count_eq_zero.mp (by omega)
    rw [last?, he, List.reverse_append, List.reverse_cons, List.append_assoc]
    refine List.lookup_eq_some_iff.mpr ⟨after.reverse, before.reverse, rfl, fun e hm => ?_⟩
    rw [bne_iff_ne]
    rintro rfl
    exact ha (List.mem_map_of_mem (List.mem_reverse.mp hm))

/-! ### Records made by insertion -/

theorem nodup_columns_insert {α : Type} [ToValue α] (h : r.columns.Nodup) (column : String)
    (a : α) : (r.insert column a).columns.Nodup := by
  rw [columns_insert]
  split
  · exact h
  · rename_i hn
    refine List.nodup_append.mpr ⟨h, List.nodup_singleton column, fun c hc d hd => ?_⟩
    rw [List.mem_singleton.mp hd]
    rintro rfl
    exact hn hc

theorem nodup_columns_ofList {α : Type} [ToValue α] (pairs : List (String × α)) :
    (ofList pairs).columns.Nodup := by
  have hs : ∀ r : Record, r.columns.Nodup →
      (pairs.foldl (fun r p => r.insert p.1 p.2) r).columns.Nodup := by
    induction pairs with
    | nil => exact fun _ h => h
    | cons p pairs ih => exact fun r h => ih _ (nodup_columns_insert h p.1 p.2)
  exact hs empty List.nodup_nil

/-- **The members of a record that was made by insertion are its columns.** -/
theorem member?_toJson_ofList {α : Type} [ToValue α] (pairs : List (String × α))
    (column : String) :
    (ofList pairs).toJson.member? column = ((ofList pairs).get? column).map Value.toJson := by
  rw [member?_toJson,
    last?_eq_get? (List.nodup_iff_count_le_one.mp (nodup_columns_ofList pairs) column)]

end Record

end NamedSql
