import NamedSql.Proofs.Query.Blocks
import NamedSql.Proofs.Query.HeaderGrammar

/-!
# Written queries

A query is written as its header line and its body, and texts of queries are read back as the
queries that they were written from. Writing and reading know nothing of each other: the header is
put together from its parts and taken apart by the grammar, and the body is told from the next
header by the start of its lines.

## Scope

A query can be written if its name and kind are identifiers, its argument could stand between
parentheses, and its body is what a reader keeps of lines. It is read back only if no line of its
body is meant as a header, which is kept apart (`HeaderFree`), because queries that have been read
need not have it.

## Main definitions

* `terminated` — lines with their line feeds
* `QuerySpec.Regular`, `QuerySpec.HeaderFree` — queries that can be written, and read back
* `Entry`, `document` — queries with blank lines before them, and their text
* `placed` — queries at the lines of their headers

## Main results

* `Blocks.lines_terminated_append` — the lines of a text that starts with lines
* `QuerySpec.read?_header` — the header of a query is read back
* `readAll_document` — the queries of a document are read back
-/

namespace NamedSql

open Text Blocks

/-! ### Lines with line feeds -/

/-- Lines, each with a line feed at its end, as a body is kept. -/
def terminated (ls : List (List Char)) : List Char := ls.flatMap (· ++ ['\n'])

theorem terminated_cons (l : List Char) (ls : List (List Char)) :
    terminated (l :: ls) = l ++ '\n' :: terminated ls := by
  rw [terminated, List.flatMap_cons, List.append_assoc]
  rfl

theorem terminated_eq_nil_iff {ls : List (List Char)} : terminated ls = [] ↔ ls = [] := by
  cases ls with
  | nil => exact ⟨fun _ => rfl, fun _ => rfl⟩
  | cons l ls =>
    rw [terminated_cons]
    exact ⟨fun h => absurd h (by simp), fun h => nomatch h⟩

theorem count_newline_terminated {ls : List (List Char)} (h : ∀ l ∈ ls, '\n' ∉ l) :
    (terminated ls).count '\n' = ls.length := by
  induction ls with
  | nil => rfl
  | cons l ls ih =>
    have hl : l.count '\n' = 0 := List.count_eq_zero.mpr (h l List.mem_cons_self)
    have hi := ih fun m hm => h m (List.mem_cons_of_mem l hm)
    rw [terminated_cons, List.count_append, List.count_cons_self, hl, hi, List.length_cons]
    omega

theorem split_append_newline {l : List Char} (h : '\n' ∉ l) (r : List Char) :
    split '\n' (l ++ '\n' :: r) = l :: split '\n' r := by
  induction l with
  | nil => exact split_newline r
  | cons c l ih =>
    have hc : c ≠ '\n' := fun e => h (e ▸ List.mem_cons_self)
    have hi := ih fun hm => h (List.mem_cons_of_mem c hm)
    obtain ⟨part, parts, hs, hsc⟩ := exists_split_cons hc (l ++ '\n' :: r)
    rw [hi] at hs
    obtain ⟨rfl, rfl⟩ := List.cons.inj hs
    exact hsc

namespace Blocks

theorem lines_append_newline {l : List Char} (h : '\n' ∉ l) (r : List Char) :
    lines (l ++ '\n' :: r) = withoutReturn l :: lines r := by
  rw [lines_eq_linesOf, split_append_newline h, linesOf_cons (split_ne_nil _ _), lines_eq_linesOf]

theorem lines_terminated_append {ls : List (List Char)} (h : ∀ l ∈ ls, '\n' ∉ l) (r : List Char) :
    lines (terminated ls ++ r) = ls.map withoutReturn ++ lines r := by
  induction ls with
  | nil => rfl
  | cons l ls ih =>
    have hi := ih fun m hm => h m (List.mem_cons_of_mem l hm)
    rw [terminated_cons, List.append_assoc, List.cons_append,
      lines_append_newline (h l List.mem_cons_self), hi]
    rfl

theorem lines_terminated {ls : List (List Char)} (h : ∀ l ∈ ls, '\n' ∉ l) :
    lines (terminated ls) = ls.map withoutReturn := by
  have ht := lines_terminated_append h []
  rwa [List.append_nil, lines_nil, List.append_nil] at ht

/-- A carriage return is a blank, so a line that is trimmed does not end with one. -/
theorem withoutReturn_of_trim {l : List Char} (h : trim l = l) : withoutReturn l = l := by
  refine if_neg fun hr => ?_
  have hb := (trim_eq_self_iff.mp h).last '\r' hr
  cases hb

theorem mem_of_mem_withoutReturn {l : List Char} {c : Char} (h : c ∈ withoutReturn l) : c ∈ l := by
  rw [withoutReturn] at h
  split at h
  · exact (List.dropLast_sublist l).subset h
  · exact h

end Blocks

/-! ### Headers -/

namespace QuerySpec

/-- The header of a query, which is all of it but for its body and its place. -/
def toHeader (spec : QuerySpec) : Header := ⟨spec.name, spec.kind, spec.arg⟩

/-- What is written behind the kind of a query: its argument between parentheses, if it has one. -/
def writtenArg (spec : QuerySpec) : List Char :=
  match spec.arg with
  | some arg => '(' :: (arg.toList ++ [')'])
  | none => []

theorem toList_header (spec : QuerySpec) :
    spec.header.toList =
      '-' :: '-' :: ([' '] ++ ':' :: 'n' :: 'a' :: 'm' :: 'e' :: ([' '] ++ (spec.name.toList ++
        ([' '] ++ ':' :: (spec.kind.toList ++ spec.writtenArg))))) := by
  rw [header, writtenArg]
  cases spec.arg with
  | none => simp
  | some arg => simp

variable {spec : QuerySpec}

theorem argument?_writtenArg (h : spec.toHeader.Regular) :
    ∃ raw, Header.argument? spec.writtenArg = some raw ∧ Header.argumentOf raw = spec.arg := by
  have hr := h.arg
  rw [writtenArg]
  change ∀ a, spec.arg = some a → IsArgument a.toList at hr
  cases ha : spec.arg with
  | none => exact ⟨[], rfl, rfl⟩
  | some a =>
    have hw := hr a ha
    refine ⟨a.toList, Header.argument?_parenthesised hw.paren, ?_⟩
    rw [Header.argumentOf_of_trimmed hw.ne_nil hw.trimmed, String.ofList_toList]

/-- The header of a query is read back from its line. -/
theorem read?_header (h : spec.toHeader.Regular) :
    Header.read? spec.header.toList = some spec.toHeader := by
  obtain ⟨raw, ha, hr⟩ := argument?_writtenArg h
  have hg : ∀ gap ∈ [[' '], [' '], [' ']], gap ≠ [] ∧ ∀ c ∈ gap, Header.isGap c = true := by
    simp [Header.isGap]
  have hw : ∀ c ∈ spec.writtenArg.head?, isIdentPart c = false := by
    rw [writtenArg]
    cases spec.arg with
    | none => rintro c ⟨⟩
    | some a =>
      rintro c ⟨⟩
      rfl
  have hn : IsIdentifier spec.name.toList := h.name
  have hk : IsIdentifier spec.kind.toList := h.kind
  rw [toList_header, Header.read?_parts hg hn hk hw ha, hr, String.ofList_toList,
    String.ofList_toList]
  rfl

/-- A written header has no blanks at its ends. -/
theorem trimmed_header (h : spec.toHeader.Regular) : Trimmed spec.header.toList := by
  have hk : spec.kind.toList ≠ [] := by
    obtain ⟨c, r, hk, -⟩ := h.kind
    change spec.kind.toList = c :: r at hk
    rw [hk]
    exact List.cons_ne_nil c r
  have hl : spec.header.toList.getLast? = (spec.kind.toList ++ spec.writtenArg).getLast? := by
    have hn : spec.kind.toList ++ spec.writtenArg ≠ [] := List.append_ne_nil_of_left_ne_nil hk _
    have ht : spec.header.toList =
        (['-', '-', ' ', ':', 'n', 'a', 'm', 'e', ' '] ++ (spec.name.toList ++ [' ', ':'])) ++
          (spec.kind.toList ++ spec.writtenArg) := by
      rw [toList_header]
      simp
    rw [ht, List.getLast?_append, List.getLast?_eq_some_getLast hn]
    rfl
  refine ⟨?_, fun c hc => ?_⟩
  · rw [toList_header]
    rintro c ⟨⟩
    rfl
  · rw [hl, writtenArg] at hc
    cases ha : spec.arg with
    | none =>
      rw [ha] at hc
      have hm : c ∈ spec.kind.toList := List.mem_of_getLast? (by simpa using hc)
      exact isBlank_of_isIdentPart (h.kind.isIdentPart c hm)
    | some a =>
      rw [ha] at hc
      dsimp only at hc
      rw [← List.cons_append, ← List.append_assoc, List.getLast?_concat] at hc
      cases hc
      rfl

theorem headerLike_header (h : spec.toHeader.Regular) : HeaderLike spec.header.toList := by
  refine ⟨[' '], [' '] ++ (spec.name.toList ++
    ([' '] ++ ':' :: (spec.kind.toList ++ spec.writtenArg))), ?_, by decide, by simp, ?_⟩
  · rw [(trimmed_header h).trimEnd]
    exact toList_header spec
  · rintro c ⟨⟩
    decide +kernel

theorem newline_not_mem_header (h : spec.toHeader.Regular) : '\n' ∉ spec.header.toList := by
  have hn : ∀ name, IsIdentifier name → '\n' ∉ name := by
    intro name hi hm
    cases hi.isIdentPart '\n' hm
  have ha : '\n' ∉ spec.writtenArg := by
    rw [writtenArg]
    cases ha : spec.arg with
    | none => exact List.not_mem_nil
    | some a => simpa using (h.arg a ha).newline
  have hn' : '\n' ∉ spec.name.toList := hn _ h.name
  have hk' : '\n' ∉ spec.kind.toList := hn _ h.kind
  rw [toList_header]
  simp [hn', hk', ha]

theorem of_header_line (h : spec.toHeader.Regular) :
    Line.of spec.header.toList = .header spec.toHeader := by
  refine Line.of_header (headerLike_header h) ?_
  rw [(trimmed_header h).trimEnd]
  exact read?_header h

end QuerySpec

/-! ### Queries that can be written -/

/-- A line that stays as it is in a body, since it is not empty and nothing of it is trimmed away.
-/
structure IsKept (l : List Char) : Prop where
  ne_nil : l ≠ []
  trimmed : trim l = l
  newline : '\n' ∉ l

/-- A line with nothing on it but blanks, which is left out wherever it stands. -/
structure IsBlankLine (l : List Char) : Prop where
  blank : ∀ c ∈ l, isBlank c = true
  newline : '\n' ∉ l

instance : DecidablePred IsKept := fun l =>
  decidable_of_iff (l ≠ [] ∧ trim l = l ∧ '\n' ∉ l)
    ⟨fun ⟨hn, ht, hl⟩ => ⟨hn, ht, hl⟩, fun h => ⟨h.ne_nil, h.trimmed, h.newline⟩⟩

-- By `List.all`: a quantifier over characters is also decided by a search through all of them.
instance : DecidablePred IsBlankLine := fun l =>
  decidable_of_iff (l.all isBlank = true ∧ '\n' ∉ l)
    ⟨fun ⟨hb, hl⟩ => ⟨List.all_eq_true.mp hb, hl⟩,
      fun h => ⟨List.all_eq_true.mpr h.blank, h.newline⟩⟩

namespace QuerySpec

/-- A query that can be written: its header can, and its body is made of lines as they are kept. -/
structure Regular (spec : QuerySpec) : Prop where
  header : spec.toHeader.Regular
  body : ∃ ls, ls ≠ [] ∧ (∀ l ∈ ls, IsKept l) ∧ spec.sql = String.ofList (terminated ls)

/-- No line of the body is meant as a header, even when it stands by itself. -/
def HeaderFree (spec : QuerySpec) : Prop := ∀ l ∈ linesOfText spec.sql, ¬HeaderLike l

instance (spec : QuerySpec) : Decidable spec.HeaderFree :=
  inferInstanceAs (Decidable (∀ l ∈ linesOfText spec.sql, ¬HeaderLike l))

end QuerySpec

/-- Blank lines are read as blank lines, also if they end with a carriage return. -/
theorem trim_eq_nil_of_mem_blanks {ls : List (List Char)} (h : ∀ l ∈ ls, IsBlankLine l) :
    ∀ l ∈ ls.map withoutReturn, trim l = [] := by
  intro l hl
  obtain ⟨m, hm, rfl⟩ := List.mem_map.mp hl
  rw [trim_eq_nil_iff]
  exact fun c hc => (h m hm).blank c (mem_of_mem_withoutReturn hc)

theorem lines_kept_append {ls : List (List Char)} (h : ∀ l ∈ ls, IsKept l) (r : List Char) :
    lines (terminated ls ++ r) = ls ++ lines r := by
  have hm : ls.map withoutReturn = ls.map id :=
    List.map_congr_left fun l hl => withoutReturn_of_trim (h l hl).trimmed
  rw [List.map_id] at hm
  rw [lines_terminated_append fun l hl => (h l hl).newline, hm]

theorem linesOfText_kept {ls : List (List Char)} (h : ∀ l ∈ ls, IsKept l) :
    linesOfText (String.ofList (terminated ls)) = ls := by
  have hl := lines_kept_append h []
  rw [List.append_nil, lines_nil, List.append_nil] at hl
  rw [linesOfText, ← lines_eq_linesOf, String.toList_ofList, hl]

/-- Of lines that are kept no blank is trimmed away but the last line feed. -/
theorem terminated_kept {ls : List (List Char)} (hn : ls ≠ []) (h : ∀ l ∈ ls, IsKept l) :
    Terminated (terminated ls) := by
  obtain ⟨ls, last, rfl⟩ : ∃ init last, ls = init ++ [last] :=
    ⟨_, _, (List.dropLast_concat_getLast hn).symm⟩
  have hl := h last (List.mem_append_right ls List.mem_cons_self)
  have hs : terminated (ls ++ [last]) = (terminated ls ++ last) ++ ['\n'] := by
    rw [terminated, terminated, List.flatMap_append, List.flatMap_singleton, List.append_assoc]
  have ht : Trimmed (terminated ls ++ last) := by
    refine ⟨fun c hc => ?_, fun c hc => ?_⟩
    · cases ls with
      | nil => exact (trim_eq_self_iff.mp hl.trimmed).head c hc
      | cons l ls =>
        have hm := h l List.mem_cons_self
        obtain ⟨d, r, rfl⟩ := List.exists_cons_of_ne_nil hm.ne_nil
        exact (trim_eq_self_iff.mp hm.trimmed).head c hc
    · rw [List.getLast?_append, List.getLast?_eq_some_getLast hl.ne_nil, Option.some_or,
        ← List.getLast?_eq_some_getLast hl.ne_nil] at hc
      exact (trim_eq_self_iff.mp hl.trimmed).last c hc
  rw [hs]
  exact ht.terminated

namespace QuerySpec

variable {spec : QuerySpec} {ls : List (List Char)}

theorem toList_display (hs : spec.sql = String.ofList (terminated ls)) :
    spec.display.toList = spec.header.toList ++ '\n' :: terminated ls := by
  have hb : spec.sql.toList = terminated ls := by rw [hs, String.toList_ofList]
  rw [display, String.toList_append, String.toList_append, hb, List.append_assoc]
  rfl

/-- The lines of a query that is written are its header and the lines of its body. -/
theorem lines_display_append (h : spec.toHeader.Regular) (hk : ∀ l ∈ ls, IsKept l)
    (hs : spec.sql = String.ofList (terminated ls)) (r : List Char) :
    lines (spec.display.toList ++ r) = spec.header.toList :: (ls ++ lines r) := by
  rw [toList_display hs, List.append_assoc, List.cons_append,
    lines_append_newline (newline_not_mem_header h),
    withoutReturn_of_trim (trimmed_header h).trim, lines_kept_append hk]

end QuerySpec

/-! ### Documents -/

/-- A query with the blank lines before it, as it may stand in a text among others. -/
structure Entry where
  gap : List (List Char)
  spec : QuerySpec

namespace Entry

/-- The blank lines and the query as it is written. -/
def text (e : Entry) : List Char := terminated e.gap ++ e.spec.display.toList

/-- An entry that is read back: a regular query whose body hides no header, behind lines that are
blank. -/
structure Regular (e : Entry) : Prop where
  gap : ∀ l ∈ e.gap, IsBlankLine l
  spec : e.spec.Regular
  headerFree : e.spec.HeaderFree

end Entry

/-- Entries one after the other, with nothing between them but the blank lines that they begin with.
-/
def document (es : List Entry) : List Char := es.flatMap Entry.text

/-- The line that goes on behind a text, counted from one as places in a text are told. -/
def lineBehind (s : List Char) : Nat := s.count '\n' + 1

/-- The queries of entries behind a text, each at the line that its header lands on. -/
def placed (before : List Char) (es : List Entry) : List QuerySpec :=
  es.mapIdx fun i e =>
    { e.spec with line := lineBehind (before ++ document (es.take i) ++ terminated e.gap) }

theorem document_cons (e : Entry) (es : List Entry) : document (e :: es) = e.text ++ document es :=
  List.flatMap_cons

theorem placed_cons (before : List Char) (e : Entry) (es : List Entry) :
    placed before (e :: es) =
      { e.spec with line := lineBehind (before ++ terminated e.gap) } ::
        placed (before ++ e.text) es := by
  rw [placed, placed, List.mapIdx_cons]
  simp only [List.take_zero, List.take_succ_cons, document_cons, List.append_assoc]
  rfl

/-! ### Reading over lines -/

namespace QuerySpec

variable {current : Option QuerySpec} {number : Nat} {rest : List (List Char)}

theorem readLines_blanks {ls : List (List Char)} (h : ∀ l ∈ ls, trim l = [])
    (current : Option QuerySpec) (number : Nat) (rest : List (List Char)) :
    readLines current number (ls ++ rest) = readLines current (number + ls.length) rest := by
  induction ls generalizing number with
  | nil => rfl
  | cons l ls ih =>
    have hl : Line.of l = .blank := Line.of_blank (h l List.mem_cons_self)
    have hi := ih (fun m hm => h m (List.mem_cons_of_mem l hm)) (number + 1)
    rw [List.cons_append, readLines_blank hl, hi, List.length_cons, Nat.add_right_comm,
      Nat.add_assoc]

theorem readLines_kept {ls : List (List Char)} (h : ∀ l ∈ ls, IsKept l)
    (hf : ∀ l ∈ ls, ¬HeaderLike l) (spec : QuerySpec) (number : Nat) (rest : List (List Char)) :
    readLines (some spec) number (ls ++ rest) =
      readLines (some { spec with sql := spec.sql ++ String.ofList (terminated ls) })
        (number + ls.length) rest := by
  induction ls generalizing number spec with
  | nil => rw [terminated, List.flatMap_nil, String.ofList_nil, String.append_empty]; rfl
  | cons l ls ih =>
    have hk := h l List.mem_cons_self
    have hb : Line.of l = .body l := by
      have hb : IsBody l := ⟨by rw [hk.trimmed]; exact hk.ne_nil, hf l List.mem_cons_self⟩
      rw [Line.of_isBody hb, hk.trimmed]
    have hi := ih (fun m hm => h m (List.mem_cons_of_mem l hm))
      (fun m hm => hf m (List.mem_cons_of_mem l hm)) (spec.addLine l) (number + 1)
    rw [List.cons_append, readLines_body hb, hi, List.length_cons, Nat.add_right_comm,
      Nat.add_assoc, terminated_cons, addLine]
    dsimp only
    rw [String.append_assoc, ← String.ofList_append, List.append_assoc]
    rfl

/-- A header is read over: the open query is done, and that of the header is open. -/
theorem readLines_header {line : List Char} {h : Header} (hl : Line.of line = .header h)
    (hc : ∀ spec ∈ current, spec.sql ≠ "") :
    readLines current number (line :: rest) =
      (readLines (some (opened h number)) (number + 1) rest).map (current.toList ++ ·) := by
  cases current with
  | none =>
    rw [readLines, hl]
    exact (map_append_nil _).symm
  | some spec =>
    rw [readLines, hl]
    dsimp only
    rw [finish, if_neg (hc spec rfl)]
    rfl

theorem Regular.sql_ne_empty {spec : QuerySpec} (h : spec.Regular) : spec.sql ≠ "" := by
  obtain ⟨ls, hn, -, hs⟩ := h.body
  rw [hs, Ne, String.ofList_eq_empty_iff, terminated_eq_nil_iff]
  exact hn

/-- The lines of an entry are read over: the open query is done, and that of the entry is open, with
its whole body. -/
theorem readLines_entry {e : Entry} (h : e.Regular) (hc : ∀ spec ∈ current, spec.sql ≠ "")
    (r : List Char) (before : List Char) :
    readLines current (lineBehind before) (lines (e.text ++ r)) =
      (readLines (some { e.spec with line := lineBehind (before ++ terminated e.gap) })
        (lineBehind (before ++ e.text)) (lines r)).map (current.toList ++ ·) := by
  obtain ⟨ls, hn, hk, hs⟩ := h.spec.body
  have hf : ∀ l ∈ ls, ¬HeaderLike l := by
    have hf := h.headerFree
    rwa [HeaderFree, hs, linesOfText_kept hk] at hf
  have hg := trim_eq_nil_of_mem_blanks h.gap
  have hlines : lines (e.text ++ r) =
      e.gap.map withoutReturn ++ e.spec.header.toList :: (ls ++ lines r) := by
    rw [Entry.text, List.append_assoc, lines_terminated_append fun l hl => (h.gap l hl).newline,
      lines_display_append h.spec.header hk hs]
  have hgap : lineBehind (before ++ terminated e.gap) = lineBehind before + e.gap.length := by
    rw [lineBehind, lineBehind, List.count_append,
      count_newline_terminated fun l hl => (h.gap l hl).newline]
    omega
  have hline : lineBehind (before ++ e.text) =
      lineBehind (before ++ terminated e.gap) + 1 + ls.length := by
    rw [Entry.text, toList_display hs, ← List.append_assoc, lineBehind, lineBehind,
      List.count_append, List.count_append, List.count_append, List.count_cons_self,
      count_newline_terminated fun l hl => (hk l hl).newline,
      List.count_eq_zero.mpr (newline_not_mem_header h.spec.header)]
    omega
  rw [hlines, readLines_blanks hg, List.length_map, ← hgap,
    readLines_header (of_header_line h.spec.header) hc, readLines_kept hk hf, hline]
  rw [opened]
  dsimp only
  rw [String.empty_append, ← hs]
  rfl

/-- Entries behind a text are read as their queries. The induction is on the entries; the query that
is still open is the one before them. -/
theorem readLines_document {es : List Entry} (h : ∀ e ∈ es, e.Regular)
    {after : List (List Char)} (ha : ∀ l ∈ after, IsBlankLine l) (before : List Char)
    (current : Option QuerySpec) (hc : ∀ spec ∈ current, spec.sql ≠ "") :
    readLines current (lineBehind before) (lines (document es ++ terminated after)) =
      .ok (current.toList ++ placed before es) := by
  induction es generalizing current before with
  | nil =>
    have hl := lines_terminated fun l hl => (ha l hl).newline
    have hr := readLines_blanks (trim_eq_nil_of_mem_blanks ha) current (lineBehind before) []
    rw [List.append_nil] at hr
    rw [document, List.flatMap_nil, List.nil_append, hl, hr]
    cases current with
    | none => rfl
    | some spec =>
      rw [readLines, finish, if_neg (hc spec rfl)]
      rfl
  | cons e es ih =>
    have he := h e List.mem_cons_self
    have hi := ih (fun d hd => h d (List.mem_cons_of_mem e hd)) (before ++ e.text)
      (some { e.spec with line := lineBehind (before ++ terminated e.gap) })
      (fun spec hs => by cases hs; exact he.spec.sql_ne_empty)
    rw [document_cons, List.append_assoc, readLines_entry he hc, hi, placed_cons]
    rfl

/-- **Queries that are written one after the other, with any blank lines between them, are read
back, each at the line that its header lands on.** -/
theorem readAll_document {es : List Entry} (h : ∀ e ∈ es, e.Regular) {after : List (List Char)}
    (ha : ∀ l ∈ after, IsBlankLine l) :
    readAll (String.ofList (document es ++ terminated after)) = .ok (placed [] es) := by
  have hr := readLines_document h ha [] none nofun
  rw [readAll, String.toList_ofList]
  exact hr

/-- A query with an argument and, after two blank lines, one without. -/
theorem readAll_document_pair :
    readAll ("\n-- :name find :get(clé, id)\nselect *\nfrom users\n \t\n\n" ++
        "-- :name clear :run\ndelete -- :name\n\n") =
      .ok [⟨"find", "get", some "clé, id", "select *\nfrom users\n", 2⟩,
        ⟨"clear", "run", none, "delete -- :name\n", 7⟩] := by
  let find : Entry := ⟨[[]], "find", "get", some "clé, id", "select *\nfrom users\n", 0⟩
  let clear : Entry := ⟨[[' ', '\t'], []], "clear", "run", none, "delete -- :name\n", 0⟩
  have hf : find.Regular := by
    refine ⟨by decide, ⟨⟨by decide, by decide, ?_⟩, ?_⟩, by decide +kernel⟩
    · rintro a ⟨⟩
      decide
    · exact ⟨["select *".toList, "from users".toList], by decide, by decide, by decide⟩
  have hc : clear.Regular := by
    refine ⟨by decide, ⟨⟨by decide, by decide, nofun⟩, ?_⟩, by decide +kernel⟩
    exact ⟨["delete -- :name".toList], by decide, by decide, by decide⟩
  have he : ∀ e ∈ [find, clear], e.Regular := by
    intro e he
    rcases List.mem_cons.mp he with rfl | he
    · exact hf
    · rw [List.mem_singleton.mp he]
      exact hc
  have ha : ∀ l ∈ [([] : List Char)], IsBlankLine l := by decide
  have hr := readAll_document he ha
  have ht : String.ofList (document [find, clear] ++ terminated [[]]) =
      "\n-- :name find :get(clé, id)\nselect *\nfrom users\n \t\n\n" ++
        "-- :name clear :run\ndelete -- :name\n\n" := by
    decide +kernel
  rw [ht] at hr
  rw [hr]
  decide +kernel

end QuerySpec

end NamedSql
