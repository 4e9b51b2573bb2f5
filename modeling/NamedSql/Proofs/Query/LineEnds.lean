import Mathlib.Logic.Relation
import NamedSql.Proofs.Query.Appending

/-!
# The ends of lines

How the lines of a text end makes no difference to what is read of it. Line feeds may come with
carriage returns or without, blanks may stand at the end of any line, and the last line may end with
a line feed or not: the queries are the same, at the same lines, and so is the error, with its line
and its words.

The reason is that a line is only looked at without the blanks at its end, a carriage return being
one of them, and that a blank line at the end of a text does nothing. So reading a text is reading
its `rows`.

## Main definitions

* `Text.rows` — the lines of a text as far as the reader sees them
* `LineEdit` — a change to the ends of the lines of a text

## Main results

* `QuerySpec.readAll_eq_rows` — reading a text is reading its rows
* `QuerySpec.readAll_congr_lineEdits` — changes to the ends of lines are not noticed
-/

namespace NamedSql

open Text Blocks

namespace Text

variable {s t : List Char} {c : Char}

/-! ### The rows of a text -/

/-- The lines of a text as far as the reader sees them: what stands between the line feeds, without
the blanks at its end. -/
def rows (s : List Char) : List (List Char) := (split '\n' s).map trimEnd

theorem rows_newline (s : List Char) : rows ('\n' :: s) = [] :: rows s := rfl

theorem rows_cons_congr (c : Char) (h : rows s = rows t) : rows (c :: s) = rows (c :: t) := by
  by_cases hc : c = '\n'
  · rw [hc, rows_newline, rows_newline, h]
  · obtain ⟨part, parts, hs, hcs⟩ := exists_split_cons hc s
    obtain ⟨part', parts', ht, hct⟩ := exists_split_cons hc t
    rw [rows, rows, hs, ht, List.map_cons, List.map_cons] at h
    obtain ⟨hp, hps⟩ := List.cons.inj h
    rw [rows, rows, hcs, hct, List.map_cons, List.map_cons, trimEnd_cons_congr c hp, hps]

theorem rows_append_congr (before : List Char) (h : rows s = rows t) :
    rows (before ++ s) = rows (before ++ t) := by
  induction before with
  | nil => exact h
  | cons c before ih => exact rows_cons_congr c ih

theorem head?_split (separator : Char) (s : List Char) :
    (split separator s).head? = some (s.takeWhile (· ≠ separator)) := by
  induction s with
  | nil => rfl
  | cons c s ih =>
    obtain ⟨part, parts, hs⟩ := List.exists_cons_of_ne_nil (split_ne_nil separator s)
    rw [hs, List.head?_cons, Option.some.injEq] at ih
    rw [split]
    split
    · rename_i hc
      rw [List.takeWhile_cons_of_neg (by simpa using hc)]
      rfl
    · rename_i hc
      rw [List.takeWhile_cons_of_pos (by simpa using hc), hs, List.head?_cons, ih]

/-- A blank before a line that is blank throughout is not seen. -/
theorem rows_cons_of_blank (hc : isBlank c = true) (hn : c ≠ '\n')
    (hs : ∀ d ∈ s.takeWhile (· ≠ '\n'), isBlank d = true) : rows (c :: s) = rows s := by
  obtain ⟨part, parts, hp, hcs⟩ := exists_split_cons hn s
  have hh := head?_split '\n' s
  rw [hp, List.head?_cons, Option.some.injEq] at hh
  rw [← hh, ← trimEnd_eq_nil_iff] at hs
  rw [rows, rows, hcs, hp, List.map_cons, List.map_cons, trimEnd_cons_of_eq_nil c hs, if_pos hc, hs]

/-- Blanks at the end of a line are not seen. -/
theorem rows_insert_blanks {blanks after : List Char}
    (hb : ∀ c ∈ blanks, isBlank c = true ∧ c ≠ '\n')
    (ha : ∀ c ∈ after.takeWhile (· ≠ '\n'), isBlank c = true) :
    rows (blanks ++ after) = rows after := by
  induction blanks with
  | nil => rfl
  | cons c blanks ih =>
    obtain ⟨hc, hb⟩ := List.forall_mem_cons.mp hb
    rw [List.cons_append, rows_cons_of_blank hc.1 hc.2, ih hb]
    intro d hd
    rw [List.takeWhile_append_of_pos fun e he => by simpa using (hb e he).2] at hd
    rcases List.mem_append.mp hd with hd | hd
    · exact (hb d hd).1
    · exact ha d hd

/-- The text with a carriage return before every line feed. -/
def withReturns (s : List Char) : List Char :=
  s.flatMap fun c => if c = '\n' then ['\r', '\n'] else [c]

theorem rows_withReturns (s : List Char) : rows (withReturns s) = rows s := by
  induction s with
  | nil => rfl
  | cons c s ih =>
    rw [withReturns, List.flatMap_cons]
    split
    · rename_i hc
      have hr : rows ('\r' :: '\n' :: withReturns s) = rows ('\n' :: withReturns s) :=
        rows_cons_of_blank (by decide) (by decide) fun d hd => nomatch hd
      rw [hc]
      exact hr.trans (rows_cons_congr '\n' ih)
    · exact rows_cons_congr c ih

theorem rows_append_newline (s : List Char) : rows (s ++ ['\n']) = rows s ++ [[]] := by
  rw [rows, split_append_separator, List.map_append]
  rfl

end Text

theorem Line.of_trimEnd (l : List Char) : Line.of (trimEnd l) = Line.of l := by
  rw [Line.of, Line.of, trim_trimEnd, trimEnd_trimEnd]

/-- A change to the ends of the lines of a text. -/
inductive LineEdit : List Char → List Char → Prop
  /-- Blanks are put at the end of a line, where only blanks may stand before the line feed or the
  end of the text. -/
  | blanks (before : List Char) {blanks after : List Char}
      (hb : ∀ c ∈ blanks, isBlank c = true ∧ c ≠ '\n')
      (ha : ∀ c ∈ after.takeWhile (· ≠ '\n'), isBlank c = true) :
      LineEdit (before ++ after) (before ++ blanks ++ after)
  /-- A carriage return is put before every line feed. -/
  | returns (text : List Char) : LineEdit text (withReturns text)
  /-- A line feed is put at the end of the text. -/
  | newline (text : List Char) : LineEdit text (text ++ ['\n'])

namespace QuerySpec

/-! ### Reading rows -/

theorem readLines_map_trimEnd (ls : List (List Char)) (current : Option QuerySpec) (number : Nat) :
    readLines current number (ls.map trimEnd) = readLines current number ls := by
  induction ls generalizing current number with
  | nil => rfl
  | cons l ls ih =>
    exact readLines_cons_congr (Line.of_trimEnd l) (trimEnd_trimEnd l) ih current number

/-- A blank line at the end does nothing. -/
theorem readLines_append_nil (ls : List (List Char)) (current : Option QuerySpec) (number : Nat) :
    readLines current number (ls ++ [[]]) = readLines current number ls := by
  induction ls generalizing current number with
  | nil => exact (readLines_blank rfl current number []).trans (readLines_nil current _ number)
  | cons l ls ih => exact readLines_cons_congr rfl rfl ih current number

/-- Reading a text is reading its rows. -/
theorem readAll_eq_rows (text : String) : readAll text = readLines none 1 (rows text.toList) := by
  have hw : (split '\n' text.toList).map trimEnd =
      ((split '\n' text.toList).map withoutReturn).map trimEnd := by
    rw [List.map_map]
    exact List.map_congr_left fun l _ => (trimEnd_withoutReturn l).symm
  rw [readAll, lines_eq_linesOf, readLines_linesOf, rows, hw, readLines_map_trimEnd]

/-! ### Changes to the ends of lines -/

theorem readLines_rows_lineEdit {s t : List Char} (h : LineEdit s t) (current : Option QuerySpec)
    (number : Nat) : readLines current number (rows s) = readLines current number (rows t) := by
  cases h with
  | blanks before hb ha =>
    rw [List.append_assoc, rows_append_congr before (rows_insert_blanks hb ha)]
  | returns => rw [rows_withReturns]
  | newline => rw [rows_append_newline, readLines_append_nil]

/-- **What is read of a text does not depend on how its lines end.** Two texts that come from each
other by any number of changes to the ends of lines, made or undone, have the same queries at the
same lines, or the same error with the same line and the same words. -/
theorem readAll_congr_lineEdits {s t : String}
    (h : Relation.EqvGen LineEdit s.toList t.toList) : readAll s = readAll t := by
  have hr : ∀ u v, Relation.EqvGen LineEdit u v →
      readLines none 1 (rows u) = readLines none 1 (rows v) := by
    intro u v huv
    induction huv with
    | rel u v hs => exact readLines_rows_lineEdit hs none 1
    | refl u => rfl
    | symm u v _ ih => exact ih.symm
    | trans u v w _ _ hu hv => exact hu.trans hv
  rw [readAll_eq_rows, readAll_eq_rows]
  exact hr _ _ h

/-- A header and a body line in one text end with line feeds, and in the other one with blanks and
carriage returns, and the last line feed is missing. -/
theorem readAll_returns_and_blanks :
    Relation.EqvGen LineEdit "-- :name one :get\nselect 1\n".toList
        "-- :name one :get \u00a0\r\nselect 1".toList ∧
      readAll "-- :name one :get\nselect 1\n" =
        readAll "-- :name one :get \u00a0\r\nselect 1" := by
  have hb : LineEdit "-- :name one :get\nselect 1".toList
      "-- :name one :get \u00a0\nselect 1".toList :=
    @LineEdit.blanks "-- :name one :get".toList [' ', '\u00a0'] "\nselect 1".toList
      (List.forall_mem_cons.mpr ⟨by decide, List.forall_mem_singleton.mpr (by decide)⟩)
      (List.forall_mem_nil _)
  have hr : LineEdit "-- :name one :get \u00a0\nselect 1".toList
      "-- :name one :get \u00a0\r\nselect 1".toList :=
    .returns "-- :name one :get \u00a0\nselect 1".toList
  have hn : LineEdit "-- :name one :get\nselect 1".toList
      "-- :name one :get\nselect 1\n".toList :=
    .newline "-- :name one :get\nselect 1".toList
  have h : Relation.EqvGen LineEdit "-- :name one :get\nselect 1\n".toList
      "-- :name one :get \u00a0\r\nselect 1".toList :=
    .trans _ _ _ (.symm _ _ (.rel _ _ hn)) (.trans _ _ _ (.rel _ _ hb) (.rel _ _ hr))
  exact ⟨h, readAll_congr_lineEdits h⟩

end QuerySpec

end NamedSql
