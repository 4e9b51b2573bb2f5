import Mathlib.Data.List.TakeWhile
import NamedSql.Text.Blank

/-!
# Trimmed texts

What trimming leaves of a text, and which texts it leaves as they are: those that neither start nor
end with a blank. Trimming only takes blanks away, at the ends, so nothing comes into a text by it
and trimming once is enough.

## Main definitions

* `Trimmed` — a text without blanks at its ends
* `Terminated` — a text that is trimmed but for a line feed at its end

## Main results

* `trimEnd_append_blank`, `trim_append_blank` — a blank at the end
* `trimEnd_eq_self_iff`, `trim_eq_self_iff` — the texts that trimming leaves as they are
* `trim_trim` — trimming twice
* `trim_trimEnd` — trimming the end first
* `mem_of_mem_trim` — nothing comes into a text by trimming
-/

namespace NamedSql.Text

variable {s t : List Char} {c : Char}

/-! ### Blanks at the end -/

theorem trimEnd_cons_of_ne_nil (c : Char) (h : trimEnd s ≠ []) :
    trimEnd (c :: s) = c :: trimEnd s := by
  obtain ⟨d, t, hs⟩ := List.exists_cons_of_ne_nil h
  rw [trimEnd, hs]

theorem trimEnd_cons_of_eq_nil (c : Char) (h : trimEnd s = []) :
    trimEnd (c :: s) = if isBlank c then [] else [c] := by
  rw [trimEnd, h]

theorem trimEnd_prefix_self (s : List Char) : trimEnd s <+: s := by
  induction s with
  | nil => exact List.prefix_rfl
  | cons c s ih =>
    by_cases hs : trimEnd s = []
    · rw [trimEnd_cons_of_eq_nil c hs]
      split
      · exact List.nil_prefix
      · exact List.cons_prefix_cons.mpr ⟨rfl, List.nil_prefix⟩
    · rw [trimEnd_cons_of_ne_nil c hs]
      exact List.cons_prefix_cons.mpr ⟨rfl, ih⟩

/-- A blank at the end is trimmed away. -/
theorem trimEnd_append_blank (hc : isBlank c = true) (s : List Char) :
    trimEnd (s ++ [c]) = trimEnd s := by
  induction s with
  | nil => exact (trimEnd_cons_of_eq_nil c rfl).trans (if_pos hc)
  | cons d s ih => rw [List.cons_append, trimEnd, trimEnd, ih]

theorem trim_append_blank (hc : isBlank c = true) (s : List Char) : trim (s ++ [c]) = trim s := by
  rw [trim, trim, trimStart, trimStart, List.dropWhile_append]
  split
  · rename_i hs
    rw [List.dropWhile_cons_of_pos hc, List.isEmpty_iff.mp hs]
    rfl
  · exact trimEnd_append_blank hc _

/-- What trimming leaves does not end with a blank. -/
theorem isBlank_getLast?_trimEnd (s : List Char) :
    ∀ c ∈ (trimEnd s).getLast?, isBlank c = false := by
  induction s with
  | nil => exact fun c hc => nomatch hc
  | cons d s ih =>
    intro c hc
    by_cases hs : trimEnd s = []
    · rw [trimEnd_cons_of_eq_nil d hs] at hc
      by_cases hd : isBlank d = true
      · rw [if_pos hd] at hc
        cases hc
      · rw [if_neg hd] at hc
        cases hc
        simpa using hd
    · rw [trimEnd_cons_of_ne_nil d hs, List.getLast?_cons, Option.mem_def] at hc
      refine ih c ?_
      rw [List.getLast?_eq_some_getLast hs] at hc ⊢
      simpa using hc

theorem trimEnd_eq_self_iff : trimEnd s = s ↔ ∀ c ∈ s.getLast?, isBlank c = false := by
  constructor
  · intro h
    have hl := isBlank_getLast?_trimEnd s
    rwa [h] at hl
  · intro h
    induction s with
    | nil => rfl
    | cons d s ih =>
      by_cases hs : s = []
      · subst hs
        have hd : isBlank d = false := h d rfl
        rw [trimEnd_cons_of_eq_nil d trimEnd_nil, hd]
        rfl
      · have he : trimEnd s = s := by
          refine ih fun c hc => h c ?_
          rw [List.getLast?_eq_some_getLast hs] at hc
          rw [List.getLast?_cons, List.getLast?_eq_some_getLast hs]
          simpa using hc
        rw [trimEnd_cons_of_ne_nil d (by rwa [he]), he]

/-! ### Blanks at both ends -/

/-- A text without blanks at its ends. -/
structure Trimmed (s : List Char) : Prop where
  head : ∀ c ∈ s.head?, isBlank c = false
  last : ∀ c ∈ s.getLast?, isBlank c = false

theorem Trimmed.trimStart (h : Trimmed s) : trimStart s = s := by
  cases s with
  | nil => rfl
  | cons c s =>
    have hc : ¬isBlank c = true := by
      rw [h.head c rfl]
      exact Bool.false_ne_true
    rw [Text.trimStart, List.dropWhile_cons_of_neg hc]

theorem Trimmed.trimEnd (h : Trimmed s) : trimEnd s = s := trimEnd_eq_self_iff.mpr h.last

theorem Trimmed.trim (h : Trimmed s) : trim s = s := by
  rw [Text.trim, h.trimStart, h.trimEnd]

theorem trimmed_trim (s : List Char) : Trimmed (trim s) := by
  refine ⟨fun c hc => ?_, isBlank_getLast?_trimEnd _⟩
  have hs : ∀ c ∈ (Text.trimStart s).head?, isBlank c = false := by
    intro c hc
    have hn := List.head?_dropWhile_not isBlank s
    rw [Text.trimStart] at hc
    rw [Option.mem_def.mp hc] at hn
    simpa using hn
  -- What is left at the end starts as the text does.
  obtain ⟨t, ht⟩ := trimEnd_prefix_self (Text.trimStart s)
  refine hs c ?_
  rw [← ht, List.head?_append]
  rw [Text.trim] at hc
  rw [Option.mem_def.mp hc]
  rfl

theorem trim_eq_self_iff : trim s = s ↔ Trimmed s := by
  constructor
  · intro h
    rw [← h]
    exact trimmed_trim s
  · exact Trimmed.trim

theorem trim_trim (s : List Char) : trim (trim s) = trim s := (trimmed_trim s).trim

/-! ### The end first -/

theorem trimEnd_cons_congr (c : Char) (h : trimEnd s = trimEnd t) :
    trimEnd (c :: s) = trimEnd (c :: t) := by
  rw [trimEnd, trimEnd, h]

theorem trimEnd_trimEnd (s : List Char) : trimEnd (trimEnd s) = trimEnd s :=
  trimEnd_eq_self_iff.mpr (isBlank_getLast?_trimEnd s)

theorem trim_cons_of_blank (hc : isBlank c = true) (s : List Char) : trim (c :: s) = trim s := by
  rw [trim, trim, trimStart, trimStart, List.dropWhile_cons_of_pos hc]

theorem trim_cons_of_not_blank (hc : isBlank c = false) (s : List Char) :
    trim (c :: s) = c :: trimEnd s := by
  have hn : ¬isBlank c = true := by
    rw [hc]
    exact Bool.false_ne_true
  rw [trim, trimStart, List.dropWhile_cons_of_neg hn]
  by_cases hs : trimEnd s = []
  · rw [trimEnd_cons_of_eq_nil c hs, if_neg hn, hs]
  · exact trimEnd_cons_of_ne_nil c hs

/-- The blanks at the end may be trimmed away first. -/
theorem trim_trimEnd (s : List Char) : trim (trimEnd s) = trim s := by
  induction s with
  | nil => rfl
  | cons c s ih =>
    by_cases hs : trimEnd s = []
    · have ht : trim s = [] := trim_eq_nil_iff.mpr (trimEnd_eq_nil_iff.mp hs)
      rw [trimEnd_cons_of_eq_nil c hs]
      cases hc : isBlank c with
      | true => exact ((trim_cons_of_blank hc s).trans ht).symm
      | false =>
        rw [if_neg Bool.false_ne_true, trim_cons_of_not_blank hc, trim_cons_of_not_blank hc, hs]
        rfl
    · rw [trimEnd_cons_of_ne_nil c hs]
      cases hc : isBlank c with
      | true => rw [trim_cons_of_blank hc, trim_cons_of_blank hc, ih]
      | false => rw [trim_cons_of_not_blank hc, trim_cons_of_not_blank hc, trimEnd_trimEnd]

/-! ### Texts that end with a line feed -/

/-- A text that is trimmed but for a line feed at its end. -/
def Terminated (s : List Char) : Prop := s = trim s ++ ['\n']

theorem Trimmed.terminated (h : Trimmed s) : Terminated (s ++ ['\n']) := by
  rw [Terminated, trim_append_blank (by decide), h.trim]

theorem mem_of_mem_trimEnd (h : c ∈ trimEnd s) : c ∈ s := (trimEnd_prefix_self s).subset h

theorem mem_of_mem_trim (h : c ∈ trim s) : c ∈ s :=
  (List.dropWhile_suffix isBlank).subset (mem_of_mem_trimEnd h)

end NamedSql.Text
