import NamedSql.Proofs.Query.Rendering

/-!
# Queries read again

What comes of writing a query that was read and of reading what was written. Reading trims the lines
of a body, and so moves an indented line to the start of its line, where it may be taken for a
header. That is the only thing that can go wrong: everything else that is read can be written and is
read again as it was.

## Scope

Nothing is said of what is read in place of a query with such a line, except that it is not one
query. The first of its lines may leave the query without a body, and any of them may be malformed.

## Main results

* `QuerySpec.regular_of_mem` — queries that have been read can be written
* `QuerySpec.headerFree_iff_of_mem` — which lines of a text keep a query from being read again
* `QuerySpec.readAll_display` — what is read of a query that was read and written
-/

namespace NamedSql

open Text Blocks

namespace Blocks

/-! ### Lines of a text -/

theorem not_mem_of_mem_split {c : Char} {s part : List Char} (h : part ∈ split c s) : c ∉ part := by
  induction s generalizing part with
  | nil =>
    rw [split, List.mem_singleton] at h
    rw [h]
    exact List.not_mem_nil
  | cons d s ih =>
    rw [split] at h
    split at h
    · rcases List.mem_cons.mp h with rfl | h
      · exact List.not_mem_nil
      · exact ih h
    · rename_i hd
      obtain ⟨first, more, hs⟩ := List.exists_cons_of_ne_nil (split_ne_nil c s)
      rw [hs] at h ih
      rcases List.mem_cons.mp h with rfl | h
      · rintro (_ | ⟨_, hm⟩)
        · exact hd rfl
        · exact ih List.mem_cons_self hm
      · exact ih (List.mem_cons_of_mem first h)

theorem exists_part_of_mem_linesOf {parts : List (List Char)} {l : List Char}
    (h : l ∈ linesOf parts) : ∃ part ∈ parts, ∀ c ∈ l, c ∈ part := by
  fun_induction linesOf parts with
  | case1 => cases h
  | case2 => cases h
  | case3 last hn =>
    rw [List.mem_singleton.mp h]
    exact ⟨last, List.mem_cons_self, fun c hc => hc⟩
  | case4 part parts hn ih =>
    rcases List.mem_cons.mp h with rfl | h
    · exact ⟨part, List.mem_cons_self, fun c hc => mem_of_mem_withoutReturn hc⟩
    · obtain ⟨p, hp, hc⟩ := ih h
      exact ⟨p, List.mem_cons_of_mem part hp, hc⟩

theorem newline_not_mem_of_mem_linesOfText {text : String} {l : List Char}
    (h : l ∈ linesOfText text) : '\n' ∉ l := by
  obtain ⟨part, hp, hc⟩ := exists_part_of_mem_linesOf h
  exact fun hn => not_mem_of_mem_split hp (hc _ hn)

/-! ### Bodies that have been read -/

/-- The lines that a body keeps of some lines. -/
def keptLines (ls : List (List Char)) : List (List Char) := (ls.filter fun l => IsBody l).map trim

theorem bodyText_eq_terminated (ls : List (List Char)) :
    bodyText ls = terminated (keptLines ls) := by
  rw [bodyText, terminated, keptLines, List.flatMap_map]

theorem mem_keptLines {ls : List (List Char)} {l : List Char} :
    l ∈ keptLines ls ↔ ∃ m ∈ ls, IsBody m ∧ trim m = l := by
  simp [keptLines, and_assoc]

theorem isKept_of_mem_keptLines {ls : List (List Char)} (h : ∀ l ∈ ls, '\n' ∉ l) :
    ∀ l ∈ keptLines ls, IsKept l := by
  intro l hl
  obtain ⟨m, hm, hb, rfl⟩ := mem_keptLines.mp hl
  exact ⟨hb.1, trim_trim m, fun hn => h m hm (mem_of_mem_trim hn)⟩

theorem exists_specAt_of_mem {ls : List (List Char)} {spec : QuerySpec} (h : spec ∈ specsOf ls) :
    ∃ i, specAt ls i = some spec := by
  obtain ⟨i, -, hi⟩ := List.mem_filterMap.mp h
  exact ⟨i, hi⟩

end Blocks

namespace QuerySpec

variable {text : String} {specs : List QuerySpec} {spec : QuerySpec}

/-- The lines of the block that a query was read from. -/
theorem exists_block_of_mem (h : readAll text = .ok specs) (hs : spec ∈ specs) :
    ∃ i line hd, (linesOfText text)[i]? = some line ∧ HeaderLike line ∧
      Header.read? (trimEnd line) = some hd ∧ spec.toHeader = hd ∧
      spec.sql = String.ofList
        (terminated (keptLines (untilHeader ((linesOfText text).drop (i + 1))))) ∧
      spec.line = i + 1 := by
  obtain ⟨-, rfl⟩ := ((outcome_readAll text).eq_ok_iff specs).mp h
  obtain ⟨i, hi⟩ := exists_specAt_of_mem hs
  rw [specAt] at hi
  split at hi
  · cases hi
  · rename_i line hl
    split at hi
    · rename_i hh
      obtain ⟨hd, hr, rfl⟩ := Option.map_eq_some_iff.mp hi
      exact ⟨i, line, hd, hl, hh, hr, rfl, by rw [bodyText_eq_terminated], rfl⟩
    · cases hi

/-- A query that has been read can be written. -/
theorem regular_of_mem (h : readAll text = .ok specs) (hs : spec ∈ specs) : spec.Regular := by
  obtain ⟨i, line, hd, hl, hh, hr, he, hb, -⟩ := exists_block_of_mem h hs
  have hn : ∀ l ∈ linesOfText text, '\n' ∉ l := fun l => newline_not_mem_of_mem_linesOfText
  refine ⟨?_, _, ?_, isKept_of_mem_keptLines fun l hl => ?_, hb⟩
  · rw [he]
    exact Header.regular_of_read?
      (fun hm => hn line (List.mem_of_getElem? hl) (mem_of_mem_trimEnd hm)) hr
  · -- The header has a body line before the next one.
    obtain ⟨hw, -⟩ := ((outcome_readAll text).eq_ok_iff specs).mp h
    obtain ⟨hi, rfl⟩ := List.getElem?_eq_some_iff.mp hl
    have hsplit : linesOfText text =
        (linesOfText text).take i ++ (linesOfText text)[i] :: (linesOfText text).drop (i + 1) := by
      rw [← List.drop_eq_getElem_cons hi, List.take_append_drop]
    obtain ⟨m, hm, hmb⟩ := hw.bodies _ _ _ hsplit hh
    exact List.ne_nil_of_mem (mem_keptLines.mpr ⟨m, hm, hmb, rfl⟩)
  · exact hn l (List.mem_of_mem_drop ((List.takeWhile_prefix _).subset hl))

/-- The body of a query that has been read ends with a line feed, and is trimmed before that. -/
theorem terminated_of_mem (h : readAll text = .ok specs) (hs : spec ∈ specs) :
    Terminated spec.sql.toList := by
  obtain ⟨ls, hn, hk, hb⟩ := (regular_of_mem h hs).body
  rw [hb, String.toList_ofList]
  exact terminated_kept hn hk

/-- What keeps a query from being read again is a line of its block that would be a header if it
were not indented. -/
theorem headerFree_iff_of_mem (h : readAll text = .ok specs) (hs : spec ∈ specs) :
    spec.HeaderFree ↔
      ∀ l ∈ untilHeader ((linesOfText text).drop spec.line), ¬HeaderLike (trim l) := by
  obtain ⟨i, line, hd, -, -, -, -, hb, hi⟩ := exists_block_of_mem h hs
  have hn : ∀ l ∈ untilHeader ((linesOfText text).drop (i + 1)), '\n' ∉ l := fun l hl =>
    newline_not_mem_of_mem_linesOfText
      (List.mem_of_mem_drop ((List.takeWhile_prefix _).subset hl))
  rw [HeaderFree, hb, hi, linesOfText_kept (isKept_of_mem_keptLines hn)]
  constructor
  · intro hf l hl hh
    have hbody : IsBody l := by
      refine ⟨fun ht => trim_ne_nil_of_headerLike hh ?_, not_headerLike_of_mem_untilHeader hl⟩
      rw [trim_trim, ht]
    exact hf _ (mem_keptLines.mpr ⟨l, hl, hbody, rfl⟩) hh
  · intro hf l hl
    obtain ⟨m, hm, -, rfl⟩ := mem_keptLines.mp hl
    exact hf m hm

/-! ### Reading what was written -/

/-- A query that can be written is read again, as the only one, if no line of its body is meant as a
header. -/
theorem readAll_display_of_headerFree (h : spec.Regular) (hf : spec.HeaderFree) :
    readAll spec.display = .ok [{ spec with line := 1 }] := by
  have he : ∀ e ∈ [(⟨[], spec⟩ : Entry)], e.Regular := by
    intro e he
    rw [List.mem_singleton.mp he]
    exact ⟨nofun, h, hf⟩
  have ha : ∀ l ∈ ([] : List (List Char)), IsBlankLine l := nofun
  have ht : document [⟨[], spec⟩] ++ terminated [] = spec.display.toList := by
    rw [document_cons]
    exact (List.append_nil _).trans (List.append_nil _)
  have hr := readLines_document he ha [] none nofun
  rw [ht] at hr
  exact hr

/-- A line of the body that is meant as a header is a second one, so it is not one query that is
read. -/
theorem readAll_display_ne_of_not_headerFree (h : spec.Regular) (hf : ¬spec.HeaderFree)
    (spec' : QuerySpec) : readAll spec.display ≠ .ok [spec'] := by
  intro hr
  obtain ⟨ls, -, hk, hs⟩ := h.body
  have hl : linesOfText spec.display = spec.header.toList :: ls := by
    have hl := lines_display_append h.header hk hs []
    rw [List.append_nil, lines_nil, List.append_nil] at hl
    rw [linesOfText, ← lines_eq_linesOf, hl]
  obtain ⟨hw, he⟩ := ((outcome_readAll spec.display).eq_ok_iff _).mp hr
  have hline := line_specsOf hw
  rw [← he, hl] at hline
  -- The header is at the first place, and the line of the body at a later one.
  rw [HeaderFree, hs, linesOfText_kept hk] at hf
  obtain ⟨l, hm, hh⟩ : ∃ l ∈ ls, HeaderLike l := by
    by_contra hn
    exact hf fun l hl hh => hn ⟨l, hl, hh⟩
  obtain ⟨i, hi⟩ := List.mem_iff_getElem?.mp hm
  have hlt : i < ls.length := (List.getElem?_eq_some_iff.mp hi).1
  have hplace : ∀ j, j < ls.length + 1 → isHeaderAt (spec.header.toList :: ls) j = true →
      j + 1 = spec'.line := by
    intro j hj hp
    have hmem : j + 1 ∈ [spec'].map QuerySpec.line := by
      rw [hline]
      exact List.mem_map_of_mem (List.mem_filter.mpr ⟨List.mem_range.mpr hj, hp⟩)
    simpa using hmem
  have h₀ := hplace 0 (Nat.succ_pos _) (by simpa [isHeaderAt] using headerLike_header h.header)
  have h₁ := hplace (i + 1) (Nat.succ_lt_succ hlt) (by simpa [isHeaderAt, hi] using hh)
  omega

/-- **A query that was read is read again from what it is written as exactly if no line of its body
is meant as a header**, and then as it was, at the first line. Otherwise something else than one
query is read, or nothing. -/
theorem readAll_display (h : readAll text = .ok specs) (hs : spec ∈ specs) :
    (spec.HeaderFree → readAll spec.display = .ok [{ spec with line := 1 }]) ∧
    (¬spec.HeaderFree → ∀ spec', readAll spec.display ≠ .ok [spec']) :=
  ⟨readAll_display_of_headerFree (regular_of_mem h hs),
    readAll_display_ne_of_not_headerFree (regular_of_mem h hs)⟩

/-- A query with a bare argument and an indented body, read below a blank line. -/
theorem readAll_display_indented :
    readAll (display ⟨"find", "get", some "id", "select *\nfrom users\n", 2⟩) =
      .ok [⟨"find", "get", some "id", "select *\nfrom users\n", 1⟩] := by
  have hr : readAll "\n-- :name find :get id \n  select *\n\n  from users" =
      .ok [⟨"find", "get", some "id", "select *\nfrom users\n", 2⟩] := by
    decide +kernel
  exact (readAll_display hr List.mem_cons_self).1 (by decide +kernel)

/-- An indented line stays in the body of the first query and opens the second one when it is read
again, which leaves the first one without a body. -/
theorem indented_header_is_not_reread :
    readAll "-- :name a :one\n  -- :name b :one\nselect 1\n" =
        .ok [⟨"a", "one", none, "-- :name b :one\nselect 1\n", 1⟩] ∧
      readAll (display ⟨"a", "one", none, "-- :name b :one\nselect 1\n", 1⟩) =
        .error (.parseStructure 1 "query 'a' has no SQL body") := by
  decide +kernel

end QuerySpec

end NamedSql
