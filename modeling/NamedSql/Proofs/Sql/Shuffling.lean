import Mathlib.Data.List.Nodup
import Mathlib.Data.List.Perm.Subperm
import NamedSql.Proofs.Sql.Admitting

/-!
# The order of prepared statements

A session keeps prepared statements in the order in which they were used last, which decides what is
given up first when there are too many. As long as there is room for all of them nothing is given
up, and the order makes no difference: whatever is done with sessions that keep the same statements
in different orders comes out the same, and leaves such sessions again.

## Scope

The statements are those of certain texts, and the calls are of these texts. A text that is prepared
besides them needs room of its own.

## Main definitions

* `Session.Keeps` — a session keeps the statements of certain texts, and has room for them
* `Session.Shuffled` — two sessions keep the same statements, in different orders

## Main results

* `Session.Shuffled.call`, `Session.Shuffled.control` — calls and transactions
* `Session.Shuffled.prepare`, `Session.Shuffled.countStatements` — what a load does
* `Session.Keeps.shuffled_keep` — to use a statement changes the order
-/

namespace NamedSql.Sql

/-! ### Lists of entries -/

section Entries

variable {α : Type} {entries entries' : List (String × α)} {key : String} {a : α}

theorem lookup_eq_some_iff_mem (hn : (entries.map Prod.fst).Nodup) :
    entries.lookup key = some a ↔ (key, a) ∈ entries := by
  induction entries with
  | nil => exact ⟨nofun, nofun⟩
  | cons e rest ih =>
    obtain ⟨k, b⟩ := e
    rw [List.map_cons, List.nodup_cons] at hn
    rw [List.lookup_cons, List.mem_cons, Prod.mk.injEq]
    by_cases hk : key = k
    · subst hk
      have hrest : (key, a) ∉ rest := fun hm => hn.1 (List.mem_map.mpr ⟨_, hm, rfl⟩)
      simp only [beq_self_eq_true, Option.some.injEq, true_and, hrest, or_false]
      exact eq_comm
    · simp only [beq_eq_false_iff_ne.mpr hk, hk, false_and, false_or]
      exact ih hn.2

theorem lookup_of_perm (hn : (entries.map Prod.fst).Nodup) (hp : entries'.Perm entries)
    (key : String) : entries'.lookup key = entries.lookup key := by
  refine Option.ext fun a => ?_
  rw [lookup_eq_some_iff_mem hn, lookup_eq_some_iff_mem ((hp.map Prod.fst).nodup_iff.mpr hn),
    hp.mem_iff]

theorem mem_iff_of_mem {texts : List String} {text : String} (h : text ∈ texts) (key : String) :
    key ∈ texts ↔ key = text ∨ key ∈ texts :=
  ⟨Or.inr, fun hk => hk.elim (fun hk => hk ▸ h) id⟩

end Entries

namespace Session

variable {s t : Session} {texts : List String} {sql text : String} {p : Prepared}

/-! ### What is kept -/

/-- The session keeps the statements of certain texts and no others, and has room for them. -/
structure Keeps (s : Session) (texts : List String) : Prop where
  nodup : (s.prepared.map Prod.fst).Nodup
  mem_iff : ∀ text, text ∈ s.prepared.map Prod.fst ↔ text ∈ texts
  room : texts.length ≤ s.capacity

/-- The entries once a statement has been used. -/
def entries (s : Session) (text : String) (p : Prepared) : List (String × Prepared) :=
  (text, p) :: s.prepared.filter (·.1 != text)

theorem keep_eq (s : Session) (text : String) (p : Prepared) :
    s.keep text p = { s with prepared := (s.entries text p).take s.capacity } := rfl

theorem mem_entries_iff (s : Session) (text : String) (p : Prepared) (key : String) :
    key ∈ (s.entries text p).map Prod.fst ↔ key = text ∨ key ∈ s.prepared.map Prod.fst := by
  simp only [entries, List.map_cons, List.mem_cons, List.mem_map, List.mem_filter, bne_iff_ne]
  constructor
  · rintro (h | ⟨e, ⟨he, -⟩, rfl⟩)
    · exact Or.inl h
    · exact Or.inr ⟨e, he, rfl⟩
  · rintro (h | ⟨e, he, rfl⟩)
    · exact Or.inl h
    · by_cases hk : e.1 = text
      · exact Or.inl hk
      · exact Or.inr ⟨e, ⟨he, hk⟩, rfl⟩

namespace Keeps

variable (h : s.Keeps texts)
include h

theorem exists_lookup (hm : text ∈ texts) : ∃ p, s.prepared.lookup text = some p := by
  obtain ⟨⟨key, p⟩, he, rfl⟩ := List.mem_map.mp ((h.mem_iff text).mpr hm)
  exact ⟨p, (lookup_eq_some_iff_mem h.nodup).mpr he⟩

theorem length_le : s.prepared.length ≤ texts.length := by
  rw [← s.prepared.length_map Prod.fst]
  exact (h.nodup.subperm fun key hk => (h.mem_iff key).mp hk).length_le

theorem nodup_entries (text : String) (p : Prepared) :
    ((s.entries text p).map Prod.fst).Nodup := by
  rw [entries, List.map_cons, List.nodup_cons]
  refine ⟨fun hm => ?_, h.nodup.sublist (List.filter_sublist.map _)⟩
  obtain ⟨e, he, hk⟩ := List.mem_map.mp hm
  exact bne_iff_ne.mp (List.mem_filter.mp he).2 hk

/-- Nothing is given up when a statement is used for which there is room. -/
theorem keep {texts' : List String} (hm : ∀ key, key ∈ texts' ↔ key = text ∨ key ∈ texts)
    (hr : texts'.length ≤ s.capacity) (p : Prepared) :
    (s.keep text p).Keeps texts' ∧ (s.keep text p).prepared = s.entries text p := by
  have hn := h.nodup_entries text p
  have hmem : ∀ key, key ∈ (s.entries text p).map Prod.fst ↔ key ∈ texts' := by
    intro key
    rw [mem_entries_iff, h.mem_iff, hm]
  have hl : (s.entries text p).length ≤ s.capacity := by
    refine le_trans ?_ hr
    rw [← (s.entries text p).length_map Prod.fst]
    exact (hn.subperm fun key hk => (hmem key).mp hk).length_le
  have he : (s.keep text p).prepared = s.entries text p := by
    rw [keep_eq, List.take_of_length_le hl]
  refine ⟨⟨?_, ?_, hr⟩, he⟩
  · rwa [he]
  · rwa [he]

theorem setCapacity {capacity : Nat} (hr : texts.length ≤ capacity) :
    (s.setCapacity capacity).Keeps texts ∧ (s.setCapacity capacity).prepared = s.prepared := by
  have he : (s.setCapacity capacity).prepared = s.prepared :=
    List.take_of_length_le (h.length_le.trans hr)
  refine ⟨⟨?_, ?_, hr⟩, he⟩
  · rw [he]
    exact h.nodup
  · rw [he]
    exact h.mem_iff

end Keeps

/-! ### Different orders -/

/-- The sessions keep the same statements of certain texts, in different orders. -/
structure Shuffled (texts : List String) (s t : Session) : Prop where
  keeps : s.Keeps texts
  connection : t.connection = s.connection
  capacity : t.capacity = s.capacity
  prepared : t.prepared.Perm s.prepared

theorem Keeps.shuffled (h : s.Keeps texts) : Shuffled texts s s := ⟨h, rfl, rfl, .refl _⟩

/-- To use a statement that is kept changes the order and nothing else. -/
theorem Keeps.shuffled_keep (h : s.Keeps texts) (hl : s.prepared.lookup text = some p) :
    Shuffled texts s (s.keep text p) := by
  have hm := (lookup_eq_some_iff_mem h.nodup).mp hl
  have ht : text ∈ texts := (h.mem_iff text).mp (List.mem_map.mpr ⟨_, hm, rfl⟩)
  obtain ⟨-, he⟩ := h.keep (mem_iff_of_mem ht) h.room p
  refine ⟨h, rfl, rfl, ?_⟩
  rw [he, List.perm_ext_iff_of_nodup (.of_map _ (h.nodup_entries text p)) (.of_map _ h.nodup)]
  rintro ⟨key, q⟩
  rw [entries, List.mem_cons, List.mem_filter, Prod.mk.injEq, bne_iff_ne]
  constructor
  · rintro (⟨rfl, rfl⟩ | ⟨hq, -⟩)
    · exact hm
    · exact hq
  · intro hq
    by_cases hk : key = text
    · subst hk
      have hq' := (lookup_eq_some_iff_mem h.nodup).mpr hq
      rw [hl] at hq'
      exact Or.inl ⟨rfl, (Option.some.inj hq').symm⟩
    · exact Or.inr ⟨hq, hk⟩

namespace Shuffled

variable (h : Shuffled texts s t)
include h

theorem lookup (text : String) : t.prepared.lookup text = s.prepared.lookup text :=
  lookup_of_perm h.keeps.nodup h.prepared text

theorem keeps_right : t.Keeps texts := by
  have hp := h.prepared.map Prod.fst
  exact ⟨hp.nodup_iff.mpr h.keeps.nodup, fun text => hp.mem_iff.trans (h.keeps.mem_iff text),
    h.capacity ▸ h.keeps.room⟩

theorem of_connection (c : Connection) :
    Shuffled texts { s with connection := c } { t with connection := c } :=
  ⟨⟨h.keeps.nodup, h.keeps.mem_iff, h.keeps.room⟩, rfl, h.capacity, h.prepared⟩

theorem setCapacity {capacity : Nat} (hr : texts.length ≤ capacity) :
    Shuffled texts (s.setCapacity capacity) (t.setCapacity capacity) := by
  obtain ⟨hs, he⟩ := h.keeps.setCapacity hr
  obtain ⟨-, he'⟩ := h.keeps_right.setCapacity hr
  exact ⟨hs, h.connection, rfl, by rw [he, he']; exact h.prepared⟩

theorem keep {texts' : List String} (hm : ∀ key, key ∈ texts' ↔ key = text ∨ key ∈ texts)
    (hr : texts'.length ≤ s.capacity) (p : Prepared) :
    Shuffled texts' (s.keep text p) (t.keep text p) := by
  obtain ⟨hs, he⟩ := h.keeps.keep hm hr p
  obtain ⟨-, he'⟩ := h.keeps_right.keep hm (h.capacity ▸ hr) p
  refine ⟨hs, h.connection, h.capacity, ?_⟩
  rw [he, he']
  exact (h.prepared.filter _).cons _

/-- To use a statement of one of the texts. -/
theorem keep_of_mem (hm : text ∈ texts) (p : Prepared) :
    Shuffled texts (s.keep text p) (t.keep text p) :=
  h.keep (mem_iff_of_mem hm) h.keeps.room p

/-! ### Calls -/

theorem renewed (p : Prepared) :
    (t.renewed p).2 = (s.renewed p).2 ∧ Shuffled texts (s.renewed p).1 (t.renewed p).1 := by
  rw [Session.renewed, Session.renewed, h.connection]
  split
  · exact ⟨rfl, h⟩
  · rw [prepareParsed, prepareParsed, h.connection]
    exact ⟨rfl, h.of_connection _⟩

theorem execute (hm : text ∈ texts) (p : Prepared) (values : List Value) :
    (t.execute text p values).2 = (s.execute text p values).2 ∧
      Shuffled texts (s.execute text p values).1 (t.execute text p values).1 := by
  obtain ⟨he, hs⟩ := h.renewed p
  rw [Session.execute, Session.execute]
  generalize s.renewed p = renewed at he hs ⊢
  generalize t.renewed p = renewed' at he hs ⊢
  obtain ⟨u, result⟩ := renewed
  obtain ⟨u', result'⟩ := renewed'
  dsimp only at he hs
  subst he
  cases result' with
  | error f => exact ⟨rfl, hs.keep_of_mem hm p⟩
  | ok q =>
    dsimp only
    rw [hs.connection]
    exact ⟨rfl, (hs.of_connection _).keep_of_mem hm q⟩

/-- **A call of one of the texts comes out the same.** -/
theorem call (hm : Text.trimmed sql ∈ texts) (params : Params) :
    (t.call sql params).2 = (s.call sql params).2 ∧
      Shuffled texts (s.call sql params).1 (t.call sql params).1 := by
  obtain ⟨p, hl⟩ := h.keeps.exists_lookup hm
  have hl' := (h.lookup (Text.trimmed sql)).trans hl
  rw [Session.call, Session.call]
  dsimp only
  rw [find_of_lookup_eq_some hl, find_of_lookup_eq_some hl']
  dsimp only
  cases bindParameters p.parsed.parameters params with
  | error f => exact ⟨rfl, h.keep_of_mem hm p⟩
  | ok values =>
    obtain ⟨he, hs⟩ := h.execute hm p values
    exact ⟨congrArg Except.ok he, hs⟩

theorem control (command : Control) :
    (t.control command).2 = (s.control command).2 ∧
      Shuffled texts (s.control command).1 (t.control command).1 := by
  rw [Session.control, Session.control, h.connection]
  exact ⟨rfl, h.of_connection _⟩

end Shuffled

/-! ### Preparing -/

/-- What looks at a text changes nothing but the connection. -/
theorem start_eq (s : Session) (text : List Char) :
    (s.start text).1 = { s with connection := (s.start text).1.connection } := by
  unfold start
  dsimp only
  split
  · rfl
  · split
    · rfl
    · rename_i parsed _
      have hp : (s.prepareParsed parsed).1 =
          { s with connection := (s.prepareParsed parsed).1.connection } := rfl
      split
      · rename_i ht
        rwa [ht] at hp
      · rename_i ht
        rwa [ht] at hp

theorem countFrom_eq (limit fuel count : Nat) (s : Session) (text : List Char) :
    (countFrom limit fuel count s text).1 =
      { s with connection := (countFrom limit fuel count s text).1.connection } := by
  induction fuel generalizing count s text with
  | zero => rfl
  | succ fuel ih =>
    cases text with
    | nil => rfl
    | cons c rest =>
      have hs := s.start_eq (c :: rest)
      unfold countFrom
      split
      · rfl
      · split
        · rename_i t f ht
          rwa [ht] at hs
        · rename_i t start ht
          rw [ht] at hs
          dsimp only at hs
          rw [ih, hs]

theorem capacity_countStatements (s : Session) (limit : Nat) (sql : String) :
    (s.countStatements limit sql).1.capacity = s.capacity := by
  rw [countStatements, countFrom_eq]

theorem find_eq (s : Session) (text : String) :
    (s.find text).1 = { s with connection := (s.find text).1.connection } := by
  rw [find]
  split
  · rfl
  · exact s.start_eq text.toList

theorem capacity_prepare (s : Session) (sql : String) :
    (s.prepare sql).1.capacity = s.capacity := by
  have hc : (s.find (Text.trimmed sql)).1.capacity = s.capacity := by
    rw [find_eq]
  rw [prepare]
  generalize s.find (Text.trimmed sql) = found at hc ⊢
  obtain ⟨t, f | p⟩ := found
  · exact hc
  · exact hc

namespace Shuffled

variable (h : Shuffled texts s t)
include h

theorem countStatements (limit : Nat) (sql : String) :
    (t.countStatements limit sql).2 = (s.countStatements limit sql).2 ∧
      Shuffled texts (s.countStatements limit sql).1 (t.countStatements limit sql).1 := by
  obtain ⟨he, hc⟩ := countStatements_of_connection h.connection limit sql
  refine ⟨he, ?_⟩
  have hs : (s.countStatements limit sql).1 =
      { s with connection := (s.countStatements limit sql).1.connection } := countFrom_eq ..
  have ht : (t.countStatements limit sql).1 =
      { t with connection := (t.countStatements limit sql).1.connection } := countFrom_eq ..
  rw [hs, ht, hc]
  exact h.of_connection _

theorem find (text : String) :
    (t.find text).2 = (s.find text).2 ∧ Shuffled texts (s.find text).1 (t.find text).1 := by
  cases hl : s.prepared.lookup text with
  | some p =>
    rw [find_of_lookup_eq_some hl, find_of_lookup_eq_some ((h.lookup text).trans hl)]
    exact ⟨rfl, h⟩
  | none =>
    obtain ⟨he, hc⟩ := start_of_connection h.connection text.toList
    have hs := h.of_connection (s.start text.toList).1.connection
    have hu := s.start_eq text.toList
    have hv := t.start_eq text.toList
    rw [hc] at hv
    rw [← hu, ← hv] at hs
    rw [Session.find, Session.find, hl, (h.lookup text).trans hl]
    dsimp only
    refine ⟨?_, hs⟩
    rw [he]
    cases (s.start text.toList).2 with
    | error f => rfl
    | ok start =>
      dsimp only [Except.map, empty]
      rw [hc]

/-- **A text that is prepared is kept besides the others**, if there is room for it. -/
theorem prepare (hr : texts.length + 1 ≤ s.capacity) (sql : String) :
    (t.prepare sql).2 = (s.prepare sql).2 ∧
      ((s.prepare sql).2 = none →
        Shuffled (texts ++ [Text.trimmed sql]) (s.prepare sql).1 (t.prepare sql).1) := by
  obtain ⟨he, hs⟩ := h.find (Text.trimmed sql)
  have hc : (s.find (Text.trimmed sql)).1.capacity = s.capacity := by
    rw [find_eq]
  rw [Session.prepare, Session.prepare]
  generalize s.find (Text.trimmed sql) = found at he hs hc ⊢
  generalize t.find (Text.trimmed sql) = found' at he hs ⊢
  obtain ⟨u, result⟩ := found
  obtain ⟨u', result'⟩ := found'
  dsimp only at he hs hc
  subst he
  cases result' with
  | error f => exact ⟨rfl, fun hok => by cases hok⟩
  | ok p =>
    refine ⟨rfl, fun _ => hs.keep (fun key => ?_) ?_ p⟩
    · rw [List.mem_append, List.mem_singleton, or_comm]
    · rw [List.length_append, List.length_singleton, hc]
      exact hr

end Shuffled

end Session

end NamedSql.Sql
