import Mathlib.Data.List.TakeWhile
import NamedSql.Query.Annotated

/-!
# Kinds of lines

The four kinds of lines of an annotated text, said without the reader: a line is blank, or it is
meant as a header, and then it follows the grammar or does not, or it is part of a body.

## Scope

That a line is meant as a header is said by its start alone. What makes a header follow the grammar
is left to the reader of headers.

## Main definitions

* `HeaderLike` — a line that is meant as a header
* `IsBody` — a line that is part of a body

## Main results

* `headerLike_iff` — how lines that are meant as headers are told apart
* `Line.of_blank`, `Line.of_header`, `Line.of_malformed`, `Line.of_isBody` — how lines are
  classified
-/

namespace NamedSql

open Text

namespace Header

/-! ### The mark of a header -/

theorem afterGap?_append {gap t : List Char} (hn : gap ≠ [])
    (hg : ∀ c ∈ gap, isGap c = true) (ht : ∀ c ∈ t.head?, isGap c = false) :
    afterGap? (gap ++ t) = some t := by
  obtain ⟨c, r, rfl⟩ := List.exists_cons_of_ne_nil hn
  have hr : (r ++ t).dropWhile isGap = t.dropWhile isGap :=
    List.dropWhile_append_of_pos fun d hd => hg d (List.mem_cons_of_mem _ hd)
  have hd : t.dropWhile isGap = t := by
    cases t with
    | nil => rfl
    | cons d t => rw [List.dropWhile_cons_of_neg (by simpa using ht d rfl)]
  rw [List.cons_append, afterGap?, if_pos (hg c List.mem_cons_self), hr, hd]

theorem exists_gap_of_afterGap? {r t : List Char} (h : afterGap? r = some t) :
    ∃ gap, r = gap ++ t ∧ gap ≠ [] ∧ ∀ c ∈ gap, isGap c = true := by
  match r with
  | [] => cases h
  | c :: r =>
    rw [afterGap?] at h
    split at h
    · rename_i hc
      cases h
      refine ⟨c :: r.takeWhile isGap, ?_, List.cons_ne_nil _ _, ?_⟩
      · rw [List.cons_append, List.takeWhile_append_dropWhile]
      · intro d hd
        rcases List.mem_cons.mp hd with rfl | hd
        · exact hc
        · exact List.mem_takeWhile_imp hd
    · cases h

/-- The mark of a header is two hyphens, a gap and `:name`. -/
theorem afterMark?_eq_some_iff {line t : List Char} :
    afterMark? line = some t ↔
      ∃ gap, line = '-' :: '-' :: (gap ++ ':' :: 'n' :: 'a' :: 'm' :: 'e' :: t) ∧ gap ≠ [] ∧
        ∀ c ∈ gap, isGap c = true := by
  constructor
  · intro h
    unfold afterMark? at h
    split at h
    · split at h
      · rename_i r _ hr
        cases h
        obtain ⟨gap, rfl, hn, hg⟩ := exists_gap_of_afterGap? hr
        exact ⟨gap, rfl, hn, hg⟩
      · cases h
    · cases h
  · rintro ⟨gap, rfl, hn, hg⟩
    have hc : ∀ c ∈ (':' :: 'n' :: 'a' :: 'm' :: 'e' :: t).head?, isGap c = false := by
      rintro c ⟨⟩
      rfl
    rw [afterMark?, afterGap?_append hn hg hc]
    rfl

end Header

/-! ### Lines that are meant as headers -/

/-- A line that is meant as a header: without the blanks at its end it starts with two hyphens, at
least one space or tab, and `:name`, and no word goes on there. -/
def HeaderLike (line : List Char) : Prop :=
  ∃ gap rest, trimEnd line = '-' :: '-' :: (gap ++ ':' :: 'n' :: 'a' :: 'm' :: 'e' :: rest) ∧
    gap ≠ [] ∧ (∀ c ∈ gap, c = ' ' ∨ c = '\t') ∧ ∀ c ∈ rest.head?, isWord c = false

theorem headerLike_iff (line : List Char) :
    HeaderLike line ↔ Header.isHeaderLike (trimEnd line) = true := by
  have hg : ∀ c, Header.isGap c = true ↔ c = ' ' ∨ c = '\t' := by
    intro c
    rw [Header.isGap, Bool.or_eq_true, beq_iff_eq, beq_iff_eq]
  constructor
  · rintro ⟨gap, rest, hl, hn, hc, hw⟩
    have hm := Header.afterMark?_eq_some_iff.mpr
      ⟨gap, hl, hn, fun c hm => (hg c).mpr (hc c hm)⟩
    rw [Header.isHeaderLike, hm]
    cases rest with
    | nil => rfl
    | cons c rest => simp [hw c rfl]
  · intro h
    rw [Header.isHeaderLike] at h
    cases hm : Header.afterMark? (trimEnd line) with
    | none =>
      rw [hm] at h
      cases h
    | some rest =>
      rw [hm] at h
      obtain ⟨gap, hl, hn, hc⟩ := Header.afterMark?_eq_some_iff.mp hm
      refine ⟨gap, rest, hl, hn, fun c hm => (hg c).mp (hc c hm), ?_⟩
      cases rest with
      | nil => exact fun c hc => nomatch hc
      | cons d rest =>
        rintro c ⟨⟩
        simpa using h

instance : DecidablePred HeaderLike := fun line => decidable_of_iff' _ (headerLike_iff line)

/-- A line that is part of a body. -/
def IsBody (line : List Char) : Prop := trim line ≠ [] ∧ ¬HeaderLike line

instance : DecidablePred IsBody := fun _ => inferInstanceAs (Decidable (_ ∧ _))

theorem trim_ne_nil_of_headerLike {line : List Char} (h : HeaderLike line) : trim line ≠ [] := by
  obtain ⟨gap, rest, hl, -⟩ := h
  intro ht
  rw [trimEnd_eq_nil_iff.mpr (trim_eq_nil_iff.mp ht)] at hl
  cases hl

/-! ### How lines are classified -/

namespace Line

variable {line : List Char}

theorem of_blank (h : trim line = []) : Line.of line = .blank := if_pos h

theorem of_header {h : Header} (hl : HeaderLike line)
    (hr : Header.read? (trimEnd line) = some h) : Line.of line = .header h := by
  rw [Line.of, if_neg (trim_ne_nil_of_headerLike hl), if_pos ((headerLike_iff line).mp hl), hr]

theorem of_malformed (hl : HeaderLike line) (hr : Header.read? (trimEnd line) = none) :
    Line.of line = .malformed := by
  rw [Line.of, if_neg (trim_ne_nil_of_headerLike hl), if_pos ((headerLike_iff line).mp hl), hr]

theorem of_isBody (h : IsBody line) : Line.of line = .body (trim line) := by
  rw [Line.of, if_neg h.1, if_neg (mt (headerLike_iff line).mpr h.2)]

end Line

end NamedSql
