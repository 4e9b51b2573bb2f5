import NamedSql.Proofs.Query.LineKinds

/-!
# Blocks of annotated texts

What the queries of an annotated text are, said over the whole of its lines: a query for every
header, with the body lines below it up to the next header. A text has queries exactly if nothing is
wrong with it, and otherwise the first thing that is wrong, in the order of reading, is the error.

## Scope

A block is found to be empty only where it ends, at the next header that follows the grammar or at
the end of the text. A malformed header right after it is therefore reported first.

## Main definitions

* `Blocks.WellFormed` — lines with nothing wrong
* `Blocks.specsOf` — the queries of the headers among some lines
* `Blocks.FaultAt` — what is found to be wrong at a place
* `Blocks.Reading` — the invariant of the reader: what it knows of the lines that it has read
* `Blocks.linesOfText` — the lines of a text, from its parts between line feeds

## Main results

* `Blocks.outcome_readLines` — reading on from any place
* `Blocks.wellFormed_iff` — lines are well-formed exactly if nothing is found to be wrong
* `Blocks.line_specsOf`, `Blocks.bodyText_specsOf` — no header and no body line is lost
* `Blocks.readAll_spec` — the queries of a text, or its first fault
-/

namespace NamedSql.Blocks

open Text

/-! ### What is read from lines -/

/-- The body lines among some lines, each without blanks at its ends and with a line feed. -/
def bodyText (ls : List (List Char)) : List Char :=
  (ls.filter fun l => IsBody l).flatMap fun l => trim l ++ ['\n']

/-- The lines up to the next header, or all of them if there is none. -/
def untilHeader (ls : List (List Char)) : List (List Char) :=
  ls.takeWhile fun l => !decide (HeaderLike l)

/-- The query of the header at a place, if there is one. Places count from zero. -/
def specAt (ls : List (List Char)) (i : Nat) : Option QuerySpec :=
  match ls[i]? with
  | none => none
  | some line =>
    if HeaderLike line then
      (Header.read? (trimEnd line)).map fun h =>
        ⟨h.name, h.kind, h.arg, String.ofList (bodyText (untilHeader (ls.drop (i + 1)))), i + 1⟩
    else none

/-- The queries of the headers among some lines, in order. Each has the body that stands behind its
header. -/
def specsOf (ls : List (List Char)) : List QuerySpec :=
  (List.range ls.length).filterMap (specAt ls)

/-- Lines with nothing wrong, in terms of the lines alone and not of how they are read. -/
structure WellFormed (ls : List (List Char)) : Prop where
  /-- What is meant as a header follows the grammar, as far as the end of its line. -/
  headers : ∀ l ∈ ls, HeaderLike l → (Header.read? (trimEnd l)).isSome
  /-- A header stands before every body line. -/
  opened : ∀ before l after, ls = before ++ l :: after → IsBody l → ∃ m ∈ before, HeaderLike m
  /-- Every header has a body line before the next header, so that no query is empty. -/
  bodies : ∀ before l after, ls = before ++ l :: after → HeaderLike l →
    ∃ m ∈ untilHeader after, IsBody m

/-! ### What may be wrong -/

/-- The error of lines of which the last header has no body. -/
def EmptyBlock (ls : List (List Char)) (e : Error) : Prop :=
  ∃ before l block h, ls = before ++ l :: block ∧ HeaderLike l ∧
    Header.read? (trimEnd l) = some h ∧ (∀ m ∈ block, ¬HeaderLike m ∧ ¬IsBody m) ∧
    e = .parseStructure (before.length + 1) ("query '" ++ h.name ++ "' has no SQL body")

/-- What is found to be wrong at a place, which may be the end. -/
inductive FaultAt (ls : List (List Char)) (i : Nat) : Error → Prop
  | malformed {l : List Char} (hl : ls[i]? = some l) (hh : HeaderLike l)
      (hr : Header.read? (trimEnd l) = none) :
      FaultAt ls i
        (.parseStructure (i + 1) ("malformed header '" ++ String.ofList (trimEnd l) ++ "'"))
  | stray {l : List Char} (hl : ls[i]? = some l) (hb : IsBody l)
      (hn : ∀ m ∈ ls.take i, ¬HeaderLike m) :
      FaultAt ls i (.parseStructure (i + 1) "SQL before the first '-- :name' header")
  | empty {e : Error} (hb : EmptyBlock (ls.take i) e)
      (he : i = ls.length ∨ ∃ l h, ls[i]? = some l ∧ HeaderLike l ∧
        Header.read? (trimEnd l) = some h) :
      FaultAt ls i e

/-! ### Body lines -/

theorem bodyText_append (ls ms : List (List Char)) :
    bodyText (ls ++ ms) = bodyText ls ++ bodyText ms := by
  rw [bodyText, List.filter_append, List.flatMap_append]
  rfl

theorem bodyText_cons_of_isBody {l : List Char} (h : IsBody l) (ls : List (List Char)) :
    bodyText (l :: ls) = trim l ++ '\n' :: bodyText ls := by
  rw [bodyText, List.filter_cons_of_pos (by simpa using h), List.flatMap_cons, List.append_assoc]
  rfl

theorem bodyText_cons_of_not_isBody {l : List Char} (h : ¬IsBody l) (ls : List (List Char)) :
    bodyText (l :: ls) = bodyText ls := by
  rw [bodyText, List.filter_cons_of_neg (by simpa using h)]
  rfl

theorem bodyText_eq_nil_iff {ls : List (List Char)} : bodyText ls = [] ↔ ∀ l ∈ ls, ¬IsBody l := by
  induction ls with
  | nil => exact ⟨fun _ l hl => (nomatch hl), fun _ => rfl⟩
  | cons l ls ih =>
    rw [List.forall_mem_cons, ← ih]
    by_cases h : IsBody l
    · rw [bodyText_cons_of_isBody h]
      exact ⟨fun hn => absurd hn (by simp), fun hn => absurd h hn.1⟩
    · rw [bodyText_cons_of_not_isBody h]
      exact ⟨fun hn => ⟨h, hn⟩, fun hn => hn.2⟩

theorem untilHeader_append {block : List (List Char)} (hb : ∀ m ∈ block, ¬HeaderLike m)
    (rest : List (List Char)) : untilHeader (block ++ rest) = block ++ untilHeader rest := by
  refine List.takeWhile_append_of_pos fun m hm => ?_
  simpa using hb m hm

theorem untilHeader_cons_of_headerLike {l : List Char} (h : HeaderLike l)
    (rest : List (List Char)) : untilHeader (l :: rest) = [] := by
  rw [untilHeader, List.takeWhile_cons_of_neg (by simpa using h)]

theorem untilHeader_cons {l : List Char} (h : ¬HeaderLike l) (rest : List (List Char)) :
    untilHeader (l :: rest) = l :: untilHeader rest := by
  rw [untilHeader, List.takeWhile_cons_of_pos (by simpa using h)]
  rfl

theorem not_headerLike_of_mem_untilHeader {ls : List (List Char)} {m : List Char}
    (h : m ∈ untilHeader ls) : ¬HeaderLike m := by
  simpa using List.mem_takeWhile_imp h

/-! ### Faults, by the line at the place -/

section

variable {before rest : List (List Char)} {line : List Char} {e : Error}

theorem getElem?_middle (before rest : List (List Char)) (line : List Char) :
    (before ++ line :: rest)[before.length]? = some line := by
  simp

theorem take_middle (before rest : List (List Char)) :
    (before ++ rest).take before.length = before :=
  List.take_left

/-- What is found to be wrong at a line. -/
theorem faultAt_middle_iff :
    FaultAt (before ++ line :: rest) before.length e ↔
      (HeaderLike line ∧ Header.read? (trimEnd line) = none ∧
        e = .parseStructure (before.length + 1)
          ("malformed header '" ++ String.ofList (trimEnd line) ++ "'")) ∨
      (IsBody line ∧ (∀ m ∈ before, ¬HeaderLike m) ∧
        e = .parseStructure (before.length + 1) "SQL before the first '-- :name' header") ∨
      (HeaderLike line ∧ (Header.read? (trimEnd line)).isSome ∧ EmptyBlock before e) := by
  constructor
  · intro h
    cases h with
    | malformed hl hh hr =>
      rw [getElem?_middle] at hl
      cases hl
      exact Or.inl ⟨hh, hr, rfl⟩
    | stray hl hb hn =>
      rw [getElem?_middle] at hl
      rw [take_middle] at hn
      cases hl
      exact Or.inr (Or.inl ⟨hb, hn, rfl⟩)
    | empty hb he =>
      rw [take_middle] at hb
      rcases he with he | ⟨l, h, hl, hh, hr⟩
      · simp at he
      · rw [getElem?_middle] at hl
        cases hl
        exact Or.inr (Or.inr ⟨hh, by rw [hr]; rfl, hb⟩)
  · rintro (⟨hh, hr, rfl⟩ | ⟨hb, hn, rfl⟩ | ⟨hh, hr, hb⟩)
    · exact .malformed (getElem?_middle before rest line) hh hr
    · refine .stray (getElem?_middle before rest line) hb ?_
      rwa [take_middle]
    · obtain ⟨h, hr⟩ := Option.isSome_iff_exists.mp hr
      refine .empty ?_ (Or.inr ⟨line, h, getElem?_middle before rest line, hh, hr⟩)
      rwa [take_middle]

/-- What is found to be wrong at the end. -/
theorem faultAt_length_iff {ls : List (List Char)} : FaultAt ls ls.length e ↔ EmptyBlock ls e := by
  have hn : ls[ls.length]? = none := List.getElem?_eq_none (Nat.le_refl _)
  constructor
  · intro h
    cases h with
    | malformed hl => rw [hn] at hl; cases hl
    | stray hl => rw [hn] at hl; cases hl
    | empty hb _ => rwa [List.take_length] at hb
  · intro h
    refine .empty ?_ (Or.inl rfl)
    rwa [List.take_length]

theorem le_length_of_faultAt {ls : List (List Char)} {i : Nat} (h : FaultAt ls i e) :
    i ≤ ls.length := by
  have hs : ∀ l, ls[i]? = some l → i ≤ ls.length := by
    intro l hl
    exact Nat.le_of_lt (List.getElem?_eq_some_iff.mp hl).1
  cases h with
  | malformed hl => exact hs _ hl
  | stray hl => exact hs _ hl
  | empty _ he =>
    rcases he with rfl | ⟨l, h, hl, -⟩
    · exact Nat.le_refl _
    · exact hs _ hl

end

/-! ### The invariant of the reader -/

/-- What the reader knows of the lines that it has read: they are blank, or the last header is the
one of the open query, with the body lines below it. -/
inductive Reading (before : List (List Char)) : Option QuerySpec → Prop
  | lead (hn : ∀ m ∈ before, ¬HeaderLike m ∧ ¬IsBody m) : Reading before none
  | block {first block : List (List Char)} {l : List Char} {h : Header}
      (hs : before = first ++ l :: block) (hl : HeaderLike l)
      (hr : Header.read? (trimEnd l) = some h) (hn : ∀ m ∈ block, ¬HeaderLike m) :
      Reading before
        (some ⟨h.name, h.kind, h.arg, String.ofList (bodyText block), first.length + 1⟩)

/-- Lines have at most one last header, by which the block that is open at a place is determined. -/
theorem last_header_unique {first block first' block' : List (List Char)} {l l' : List Char}
    (h : first ++ l :: block = first' ++ l' :: block') (hl : HeaderLike l) (hl' : HeaderLike l')
    (hb : ∀ m ∈ block, ¬HeaderLike m) (hb' : ∀ m ∈ block', ¬HeaderLike m) :
    first = first' ∧ l = l' ∧ block = block' := by
  rcases List.append_eq_append_iff.mp h with ⟨t, rfl, ht⟩ | ⟨t, rfl, ht⟩
  · cases t with
    | nil =>
      obtain ⟨rfl, rfl⟩ := List.cons.inj ht
      exact ⟨(List.append_nil first).symm, rfl, rfl⟩
    | cons x t =>
      obtain ⟨-, rfl⟩ := List.cons.inj ht
      exact absurd hl' (hb l' (List.mem_append_right t List.mem_cons_self))
  · cases t with
    | nil =>
      obtain ⟨rfl, rfl⟩ := List.cons.inj ht
      exact ⟨List.append_nil first', rfl, rfl⟩
    | cons x t =>
      obtain ⟨-, rfl⟩ := List.cons.inj ht
      exact absurd hl (hb' l (List.mem_append_right t List.mem_cons_self))

theorem Reading.not_emptyBlock {before : List (List Char)} (h : Reading before none) (e : Error) :
    ¬EmptyBlock before e := by
  rintro ⟨first, l, block, h', rfl, hl, -⟩
  cases h with
  | lead hn => exact (hn l (List.mem_append_right first List.mem_cons_self)).1 hl

/-- The last header has no body exactly if the open query cannot be finished. -/
theorem Reading.emptyBlock_iff {before : List (List Char)} {spec : QuerySpec} {e : Error}
    (h : Reading before (some spec)) : EmptyBlock before e ↔ spec.finish = .error e := by
  cases h with
  | @block first block l h hs hl hr hn =>
    have he : String.ofList (bodyText block) = "" ↔ ∀ m ∈ block, ¬IsBody m := by
      rw [← bodyText_eq_nil_iff, String.ofList_eq_empty_iff]
    rw [QuerySpec.finish]
    dsimp only
    constructor
    · rintro ⟨first', l', block', h', hs', hl', hr', hb', rfl⟩
      obtain ⟨rfl, rfl, rfl⟩ :=
        last_header_unique (hs.symm.trans hs') hl hl' hn fun m hm => (hb' m hm).1
      rw [hr] at hr'
      cases hr'
      rw [if_pos (he.mpr fun m hm => (hb' m hm).2)]
    · intro hf
      split at hf
      · rename_i hb
        cases hf
        exact ⟨first, l, block, h, hs, hl, hr, fun m hm => ⟨hn m hm, he.mp hb m hm⟩, rfl⟩
      · cases hf

/-! ### Reading on -/

/-- The open query with the body lines that are still to come. -/
def finished (current : Option QuerySpec) (rest : List (List Char)) : List QuerySpec :=
  match current with
  | none => []
  | some spec => [{ spec with sql := spec.sql ++ String.ofList (bodyText (untilHeader rest)) }]

/-- What comes of reading on at a place: the first fault from there on, or the open query and the
queries of the headers from there on. -/
def Outcome (ls : List (List Char)) (place count : Nat) (current : List QuerySpec) :
    Except Error (List QuerySpec) → Prop
  | .error e => ∃ i, place ≤ i ∧ FaultAt ls i e ∧ ∀ j, place ≤ j → j < i → ∀ f, ¬FaultAt ls j f
  | .ok specs => (∀ i, place ≤ i → ∀ f, ¬FaultAt ls i f) ∧
      specs = current ++ (List.range' place count).filterMap (specAt ls)

/-- A fault at the place where reading goes on is the first one. -/
theorem Outcome.fault {ls : List (List Char)} {place : Nat} {e : Error} (h : FaultAt ls place e)
    (count : Nat) (current : List QuerySpec) : Outcome ls place count current (.error e) :=
  ⟨place, Nat.le_refl _, h, fun _ hp hj => absurd hp (Nat.not_le.mpr hj)⟩

/-- Reading goes on over a line at which nothing is wrong. -/
theorem Outcome.step {ls : List (List Char)} {place count : Nat}
    {current current' : List QuerySpec} {r : Except Error (List QuerySpec)}
    (h : Outcome ls (place + 1) count current r) (done : List QuerySpec)
    (hf : ∀ f, ¬FaultAt ls place f)
    (hd : done ++ current = current' ++ (specAt ls place).toList) :
    Outcome ls place (count + 1) current' (r.map (done ++ ·)) := by
  have hn : ∀ (P : Nat → Prop), P place → (∀ j, place + 1 ≤ j → P j) → ∀ j, place ≤ j → P j := by
    intro P hp hs j hj
    rcases Nat.eq_or_lt_of_le hj with rfl | hj
    · exact hp
    · exact hs j hj
  cases r with
  | error e =>
    obtain ⟨i, hi, he, hj⟩ := h
    refine ⟨i, Nat.le_of_succ_le hi, he, ?_⟩
    exact hn _ (fun _ => hf) hj
  | ok specs =>
    obtain ⟨hi, rfl⟩ := h
    refine ⟨hn _ hf hi, ?_⟩
    dsimp only
    rw [List.range'_succ, ← List.append_assoc, hd, List.filterMap_cons]
    cases specAt ls place with
    | none => simp
    | some spec => simp

theorem specAt_of_not_headerLike {line : List Char} (h : ¬HeaderLike line)
    (before rest : List (List Char)) : specAt (before ++ line :: rest) before.length = none := by
  rw [specAt, getElem?_middle]
  exact if_neg h

theorem specAt_of_header {line : List Char} {h : Header} (hl : HeaderLike line)
    (hr : Header.read? (trimEnd line) = some h) (before rest : List (List Char)) :
    specAt (before ++ line :: rest) before.length =
      some ⟨h.name, h.kind, h.arg, String.ofList (bodyText (untilHeader rest)),
        before.length + 1⟩ := by
  have hd : (before ++ line :: rest).drop (before.length + 1) = rest := by
    rw [List.append_cons]
    exact List.drop_left' (by simp)
  rw [specAt, getElem?_middle]
  dsimp only
  rw [if_pos hl, hr, hd]
  rfl

theorem finished_of_headerLike {line : List Char} (h : HeaderLike line) (spec : QuerySpec)
    (rest : List (List Char)) : finished (some spec) (line :: rest) = [spec] := by
  rw [finished, untilHeader_cons_of_headerLike h]
  simp [bodyText]

theorem finished_of_blank {line : List Char} (h : ¬HeaderLike line) (hb : ¬IsBody line)
    (current : Option QuerySpec) (rest : List (List Char)) :
    finished current (line :: rest) = finished current rest := by
  cases current with
  | none => rfl
  | some spec => rw [finished, untilHeader_cons h, bodyText_cons_of_not_isBody hb]; rfl

theorem finished_of_isBody {line : List Char} (h : IsBody line) (spec : QuerySpec)
    (rest : List (List Char)) :
    finished (some spec) (line :: rest) = finished (some (spec.addLine (trim line))) rest := by
  rw [finished, finished, untilHeader_cons h.2, bodyText_cons_of_isBody h, QuerySpec.addLine]
  dsimp only
  rw [String.append_assoc, ← String.ofList_append, List.append_assoc]
  rfl

/-! ### One line -/

section

variable {before : List (List Char)} {line : List Char} {current : Option QuerySpec}

theorem Reading.blank (h : Reading before current) (hl : ¬HeaderLike line) (hb : ¬IsBody line) :
    Reading (before ++ [line]) current := by
  cases h with
  | lead hn =>
    refine .lead fun m hm => ?_
    rcases List.mem_append.mp hm with hm | hm
    · exact hn m hm
    · rw [List.mem_singleton.mp hm]
      exact ⟨hl, hb⟩
  | @block first block l h hs hl' hr hn =>
    have ht : bodyText (block ++ [line]) = bodyText block := by
      rw [bodyText_append, bodyText_cons_of_not_isBody hb]
      exact List.append_nil _
    rw [← ht]
    refine .block (by rw [hs, List.append_assoc, List.cons_append]) hl' hr fun m hm => ?_
    rcases List.mem_append.mp hm with hm | hm
    · exact hn m hm
    · rwa [List.mem_singleton.mp hm]

theorem Reading.body {spec : QuerySpec} (h : Reading before (some spec)) (hb : IsBody line) :
    Reading (before ++ [line]) (some (spec.addLine (trim line))) := by
  cases h with
  | @block first block l h hs hl' hr hn =>
    have ht : String.ofList (bodyText block) ++ String.ofList (trim line ++ ['\n']) =
        String.ofList (bodyText (block ++ [line])) := by
      rw [bodyText_append, bodyText_cons_of_isBody hb, ← String.ofList_append]
      rfl
    rw [QuerySpec.addLine]
    dsimp only
    rw [ht]
    refine .block (by rw [hs, List.append_assoc, List.cons_append]) hl' hr fun m hm => ?_
    rcases List.mem_append.mp hm with hm | hm
    · exact hn m hm
    · rw [List.mem_singleton.mp hm]
      exact hb.2

theorem Reading.header {h : Header} (hl : HeaderLike line)
    (hr : Header.read? (trimEnd line) = some h) (before : List (List Char)) :
    Reading (before ++ [line]) (some (QuerySpec.opened h (before.length + 1))) :=
  .block rfl hl hr fun _ hm => nomatch hm

/-- Something was read before a body line can be stray. -/
theorem Reading.exists_headerLike {spec : QuerySpec} (h : Reading before (some spec)) :
    ∃ m ∈ before, HeaderLike m := by
  cases h with
  | @block first block l h hs hl' hr hn =>
    exact ⟨l, by rw [hs]; exact List.mem_append_right first List.mem_cons_self, hl'⟩

end

/-! ### The whole text -/

theorem not_faultAt_blank {before rest : List (List Char)} {line : List Char}
    (hl : ¬HeaderLike line) (hb : ¬IsBody line) (f : Error) :
    ¬FaultAt (before ++ line :: rest) before.length f := by
  rw [faultAt_middle_iff]
  rintro (⟨h, -⟩ | ⟨h, -⟩ | ⟨h, -⟩)
  · exact hl h
  · exact hb h
  · exact hl h

theorem map_append_nil (r : Except Error (List QuerySpec)) : r.map ([] ++ ·) = r := by
  cases r with
  | error e => rfl
  | ok specs => rfl

/-- Nothing is wrong from the end on unless the last header has no body. -/
theorem not_faultAt_end {ls : List (List Char)} (h : ∀ f, ¬EmptyBlock ls f) (i : Nat)
    (hi : ls.length ≤ i) (f : Error) : ¬FaultAt ls i f := by
  intro hf
  obtain rfl : i = ls.length := Nat.le_antisymm (le_length_of_faultAt hf) hi
  exact h f (faultAt_length_iff.mp hf)

theorem finished_nil (spec : QuerySpec) : finished (some spec) [] = [spec] := by
  simp [finished, untilHeader, bodyText]

theorem eq_of_finish {spec spec' : QuerySpec} (h : spec.finish = .ok spec') : spec' = spec := by
  rw [QuerySpec.finish] at h
  split at h
  · cases h
  · cases h
    rfl

/-- The last header has a body if the open query can be finished. -/
theorem Reading.not_emptyBlock_of_finish {before : List (List Char)} {spec spec' : QuerySpec}
    (h : Reading before (some spec)) (hf : spec.finish = .ok spec') (f : Error) :
    ¬EmptyBlock before f := by
  rw [h.emptyBlock_iff, hf]
  exact nofun

/-- At a header that follows the grammar nothing is wrong but an empty block before it. -/
theorem not_faultAt_header {before rest : List (List Char)} {line : List Char} {h : Header}
    (hl : HeaderLike line) (hr : Header.read? (trimEnd line) = some h)
    (he : ∀ f, ¬EmptyBlock before f) (f : Error) :
    ¬FaultAt (before ++ line :: rest) before.length f := by
  rw [faultAt_middle_iff]
  rintro (⟨-, hn, -⟩ | ⟨hb, -⟩ | ⟨-, -, hb⟩)
  · rw [hr] at hn
    cases hn
  · exact hb.2 hl
  · exact he f hb

/-- At a body line nothing is wrong if a header stands before it. -/
theorem not_faultAt_isBody {before rest : List (List Char)} {line : List Char} (hb : IsBody line)
    (he : ∃ m ∈ before, HeaderLike m) (f : Error) :
    ¬FaultAt (before ++ line :: rest) before.length f := by
  rw [faultAt_middle_iff]
  rintro (⟨hl, -⟩ | ⟨-, hn, -⟩ | ⟨hl, -⟩)
  · exact hb.2 hl
  · obtain ⟨m, hm, hl⟩ := he
    exact hn m hm hl
  · exact hb.2 hl

section

variable {before rest : List (List Char)} {line : List Char} {current : Option QuerySpec}

/-- Reading on finds the first fault of the text that is not before the rest, or the queries. -/
def ReadsOn (before : List (List Char)) (current : Option QuerySpec) (rest : List (List Char)) :
    Prop :=
  Outcome (before ++ rest) before.length rest.length (finished current rest)
    (QuerySpec.readLines current (before.length + 1) rest)

/-- Reading on after a line, as part of the text with that line. -/
theorem ReadsOn.outcome (h : ReadsOn (before ++ [line]) current rest) :
    Outcome (before ++ line :: rest) (before.length + 1) rest.length (finished current rest)
      (QuerySpec.readLines current (before.length + 1 + 1) rest) := by
  rw [ReadsOn, List.length_append, List.length_singleton, ← List.append_cons] at h
  exact h

theorem readsOn_nil (h : Reading before current) : ReadsOn before current [] := by
  rw [ReadsOn, List.append_nil]
  cases current with
  | none => exact ⟨not_faultAt_end h.not_emptyBlock, rfl⟩
  | some spec =>
    rw [QuerySpec.readLines, finished_nil]
    cases hf : spec.finish with
    | error e => exact .fault (faultAt_length_iff.mpr (h.emptyBlock_iff.mpr hf)) _ _
    | ok spec' =>
      obtain rfl := eq_of_finish hf
      exact ⟨not_faultAt_end (h.not_emptyBlock_of_finish hf), rfl⟩

theorem readsOn_malformed (hl : HeaderLike line) (hr : Header.read? (trimEnd line) = none) :
    ReadsOn before current (line :: rest) := by
  rw [ReadsOn, QuerySpec.readLines, Line.of_malformed hl hr]
  exact .fault (faultAt_middle_iff.mpr (Or.inl ⟨hl, hr, rfl⟩)) _ _

/-- A header finishes the query before it, if there is one, and opens another one. -/
theorem readsOn_header {hd : Header} (h : Reading before current) (hl : HeaderLike line)
    (hr : Header.read? (trimEnd line) = some hd)
    (hi : ReadsOn (before ++ [line]) (some (QuerySpec.opened hd (before.length + 1))) rest) :
    ReadsOn before current (line :: rest) := by
  have hi := hi.outcome
  have hs := specAt_of_header hl hr before rest
  rw [ReadsOn]
  cases current with
  | none =>
    rw [QuerySpec.readLines, Line.of_header hl hr]
    dsimp only
    rw [← map_append_nil (QuerySpec.readLines _ _ _)]
    refine hi.step [] (not_faultAt_header hl hr h.not_emptyBlock) ?_
    rw [hs]
    simp [finished, QuerySpec.opened]
  | some spec =>
    rw [QuerySpec.readLines, Line.of_header hl hr]
    dsimp only
    cases hf : spec.finish with
    | error e =>
      have he := h.emptyBlock_iff.mpr hf
      refine .fault (faultAt_middle_iff.mpr (Or.inr (Or.inr ⟨hl, ?_, he⟩))) _ _
      rw [hr]
      rfl
    | ok spec' =>
      obtain rfl := eq_of_finish hf
      rw [finished_of_headerLike hl]
      refine hi.step [spec'] ?_ ?_
      · exact not_faultAt_header hl hr (h.not_emptyBlock_of_finish hf)
      · rw [hs]
        simp [finished, QuerySpec.opened]

theorem readsOn_stray (h : Reading before none) (hb : IsBody line) :
    ReadsOn before none (line :: rest) := by
  have hn : ∀ m ∈ before, ¬HeaderLike m := by
    cases h with
    | lead hn => exact fun m hm => (hn m hm).1
  rw [ReadsOn, QuerySpec.readLines, Line.of_isBody hb]
  exact .fault (faultAt_middle_iff.mpr (Or.inr (Or.inl ⟨hb, hn, rfl⟩))) _ _

theorem readsOn_isBody {spec : QuerySpec} (h : Reading before (some spec)) (hb : IsBody line)
    (hi : ReadsOn (before ++ [line]) (some (spec.addLine (trim line))) rest) :
    ReadsOn before (some spec) (line :: rest) := by
  rw [ReadsOn, QuerySpec.readLines_body (Line.of_isBody hb), finished_of_isBody hb,
    ← map_append_nil (QuerySpec.readLines _ _ _)]
  refine hi.outcome.step [] (not_faultAt_isBody hb h.exists_headerLike) ?_
  rw [specAt_of_not_headerLike hb.2]
  exact (List.append_nil _).symm

theorem readsOn_blank (hl : ¬HeaderLike line) (hb : ¬IsBody line)
    (hi : ReadsOn (before ++ [line]) current rest) : ReadsOn before current (line :: rest) := by
  have ht : trim line = [] := by
    by_contra hn
    exact hb ⟨hn, hl⟩
  rw [ReadsOn, QuerySpec.readLines_blank (Line.of_blank ht), finished_of_blank hl hb,
    ← map_append_nil (QuerySpec.readLines _ _ _)]
  refine hi.outcome.step [] (not_faultAt_blank hl hb) ?_
  rw [specAt_of_not_headerLike hl]
  exact (List.append_nil _).symm

end

/-- **Reading on from any place finds the first fault from there on, or the queries.** The induction
is on the lines that are still to be read; `Reading` says what is known of those before. -/
theorem outcome_readLines (rest before : List (List Char)) {current : Option QuerySpec}
    (h : Reading before current) :
    Outcome (before ++ rest) before.length rest.length (finished current rest)
      (QuerySpec.readLines current (before.length + 1) rest) := by
  change ReadsOn before current rest
  induction rest generalizing before current with
  | nil => exact readsOn_nil h
  | cons line rest ih =>
    by_cases hl : HeaderLike line
    · cases hr : Header.read? (trimEnd line) with
      | none => exact readsOn_malformed hl hr
      | some hd => exact readsOn_header h hl hr (ih _ (.header hl hr before))
    · by_cases hb : IsBody line
      · cases current with
        | none => exact readsOn_stray h hb
        | some spec => exact readsOn_isBody h hb (ih _ (h.body hb))
      · exact readsOn_blank hl hb (ih _ (h.blank hl hb))

/-! ### Lines with nothing wrong -/

/-- The lines from the next header on, or none of them if there is none. -/
def fromHeader (ls : List (List Char)) : List (List Char) :=
  ls.dropWhile fun l => !decide (HeaderLike l)

theorem untilHeader_append_fromHeader (ls : List (List Char)) :
    untilHeader ls ++ fromHeader ls = ls := List.takeWhile_append_dropWhile

theorem headerLike_of_fromHeader {ls rest : List (List Char)} {l : List Char}
    (h : fromHeader ls = l :: rest) : HeaderLike l := by
  have hn := List.head?_dropWhile_not (fun l => !decide (HeaderLike l)) ls
  rw [fromHeader] at h
  rw [h] at hn
  simpa using hn

theorem WellFormed.not_faultAt {ls : List (List Char)} (h : WellFormed ls) (i : Nat) (e : Error) :
    ¬FaultAt ls i e := by
  intro hf
  cases hf with
  | malformed hl hh hr =>
    have hs := h.headers _ (List.mem_of_getElem? hl) hh
    rw [hr] at hs
    cases hs
  | @stray l hl hb hn =>
    obtain ⟨hi, hl⟩ := List.getElem?_eq_some_iff.mp hl
    have hs : ls = ls.take i ++ l :: ls.drop (i + 1) := by
      rw [← hl, ← List.drop_eq_getElem_cons hi, List.take_append_drop]
    obtain ⟨m, hm, hh⟩ := h.opened _ _ _ hs hb
    exact hn m hm hh
  | empty hb he =>
    obtain ⟨before, l, block, hd, ht, hl, -, hn, -⟩ := hb
    have hu : untilHeader (ls.drop i) = [] := by
      rcases he with rfl | ⟨l', -, hl', hh, -⟩
      · rw [List.drop_length]
        rfl
      · obtain ⟨hi, rfl⟩ := List.getElem?_eq_some_iff.mp hl'
        rw [List.drop_eq_getElem_cons hi, untilHeader_cons_of_headerLike hh]
    have hs : ls = before ++ l :: (block ++ ls.drop i) := by
      rw [← List.cons_append, ← List.append_assoc, ← ht, List.take_append_drop]
    obtain ⟨m, hm, hb⟩ := h.bodies _ _ _ hs hl
    rw [untilHeader_append fun m hm => (hn m hm).1, hu, List.append_nil] at hm
    exact (hn m hm).2 hb

/-- A block without a body is found to be wrong at the end of the text, or at the header that
follows it. -/
theorem exists_faultAt_of_emptyBlock {block after : List (List Char)} {e : Error}
    (hh : ∀ l ∈ after, HeaderLike l → (Header.read? (trimEnd l)).isSome)
    (he : EmptyBlock (block ++ untilHeader after) e) :
    ∃ i, FaultAt (block ++ after) i e := by
  have hs : block ++ after = (block ++ untilHeader after) ++ fromHeader after := by
    rw [List.append_assoc, untilHeader_append_fromHeader]
  rw [hs]
  cases hf : fromHeader after with
  | nil =>
    rw [List.append_nil]
    exact ⟨_, faultAt_length_iff.mpr he⟩
  | cons l rest =>
    have hl := headerLike_of_fromHeader hf
    have hm : l ∈ after := by
      rw [← untilHeader_append_fromHeader after, hf]
      exact List.mem_append_right _ List.mem_cons_self
    exact ⟨_, faultAt_middle_iff.mpr (Or.inr (Or.inr ⟨hl, hh l hm hl, he⟩))⟩

theorem wellFormed_of_not_faultAt {ls : List (List Char)} (h : ∀ i e, ¬FaultAt ls i e) :
    WellFormed ls := by
  have hh : ∀ l ∈ ls, HeaderLike l → (Header.read? (trimEnd l)).isSome := by
    intro l hl hh
    obtain ⟨i, hi⟩ := List.mem_iff_getElem?.mp hl
    by_contra hn
    exact h i _ (.malformed hi hh (Option.not_isSome_iff_eq_none.mp hn))
  refine ⟨hh, fun before l after hs hb => ?_, fun before l after hs hl => ?_⟩
  · by_contra hn
    subst hs
    refine h before.length _ (faultAt_middle_iff.mpr (Or.inr (Or.inl ⟨hb, ?_, rfl⟩)))
    exact fun m hm hl => hn ⟨m, hm, hl⟩
  · by_contra hn
    subst hs
    obtain ⟨hd, hr⟩ := Option.isSome_iff_exists.mp
      (hh l (List.mem_append_right before List.mem_cons_self) hl)
    have he : EmptyBlock (before ++ l :: untilHeader after) (.parseStructure (before.length + 1)
        ("query '" ++ hd.name ++ "' has no SQL body")) :=
      ⟨before, l, untilHeader after, hd, rfl, hl, hr,
        fun m hm => ⟨not_headerLike_of_mem_untilHeader hm, fun hb => hn ⟨m, hm, hb⟩⟩, rfl⟩
    rw [List.append_cons] at he
    have hafter : ∀ m ∈ after, HeaderLike m → (Header.read? (trimEnd m)).isSome := fun m hm =>
      hh m (List.mem_append_right before (List.mem_cons_of_mem l hm))
    obtain ⟨i, hi⟩ := exists_faultAt_of_emptyBlock hafter he
    rw [← List.append_cons] at hi
    exact h i _ hi

/-- Lines are well-formed exactly if nothing is found to be wrong anywhere. -/
theorem wellFormed_iff (ls : List (List Char)) :
    WellFormed ls ↔ ∀ i e, ¬FaultAt ls i e :=
  ⟨WellFormed.not_faultAt, wellFormed_of_not_faultAt⟩

/-! ### One fault at a place -/

theorem emptyBlock_unique {ls : List (List Char)} {e f : Error} (he : EmptyBlock ls e)
    (hf : EmptyBlock ls f) : e = f := by
  obtain ⟨before, l, block, h, rfl, hl, hr, hb, rfl⟩ := he
  obtain ⟨before', l', block', h', hs, hl', hr', hb', rfl⟩ := hf
  obtain ⟨rfl, rfl, rfl⟩ :=
    last_header_unique hs hl hl' (fun m hm => (hb m hm).1) fun m hm => (hb' m hm).1
  rw [hr] at hr'
  cases hr'
  rfl

theorem faultAt_unique {ls : List (List Char)} {i : Nat} {e f : Error} (he : FaultAt ls i e)
    (hf : FaultAt ls i f) : e = f := by
  rcases Nat.eq_or_lt_of_le (le_length_of_faultAt he) with rfl | hi
  · exact emptyBlock_unique (faultAt_length_iff.mp he) (faultAt_length_iff.mp hf)
  · have hs : ls = ls.take i ++ ls[i] :: ls.drop (i + 1) := by
      rw [← List.drop_eq_getElem_cons hi, List.take_append_drop]
    have hl : (ls.take i).length = i := List.length_take_of_le (Nat.le_of_lt hi)
    generalize ls[i] = line at hs
    generalize ls.take i = before at hs hl
    generalize ls.drop (i + 1) = rest at hs
    subst hs hl
    rw [faultAt_middle_iff] at he hf
    rcases he with ⟨hh, hr, rfl⟩ | ⟨hb, hn, rfl⟩ | ⟨hh, hr, hb⟩
    · rcases hf with ⟨-, -, rfl⟩ | ⟨hb, -⟩ | ⟨-, hr', -⟩
      · rfl
      · exact absurd hh hb.2
      · rw [hr] at hr'
        cases hr'
    · rcases hf with ⟨hh, -⟩ | ⟨-, -, rfl⟩ | ⟨hh, -⟩
      · exact absurd hh hb.2
      · rfl
      · exact absurd hh hb.2
    · rcases hf with ⟨-, hr', -⟩ | ⟨hb', -⟩ | ⟨-, -, hb'⟩
      · rw [hr'] at hr
        cases hr
      · exact absurd hh hb'.2
      · exact emptyBlock_unique hb hb'

/-! ### One query for every header -/

/-- Whether there is a header at a place. Behind the last line there is none. -/
def isHeaderAt (ls : List (List Char)) (i : Nat) : Bool := ls[i]?.any fun l => HeaderLike l

theorem specAt_cases {ls : List (List Char)} (h : WellFormed ls) (i : Nat) :
    isHeaderAt ls i = false ∧ specAt ls i = none ∨
      isHeaderAt ls i = true ∧ ∃ spec, specAt ls i = some spec ∧ spec.line = i + 1 := by
  rw [isHeaderAt, specAt]
  cases hi : ls[i]? with
  | none => exact Or.inl ⟨rfl, rfl⟩
  | some l =>
    by_cases hl : HeaderLike l
    · obtain ⟨hd, hr⟩ :=
        Option.isSome_iff_exists.mp (h.headers l (List.mem_of_getElem? hi) hl)
      refine Or.inr ⟨by simpa using hl, ?_⟩
      dsimp only
      rw [if_pos hl, hr]
      exact ⟨_, rfl, rfl⟩
    · exact Or.inl ⟨by simpa using hl, if_neg hl⟩

theorem line_specsOf {ls : List (List Char)} (h : WellFormed ls) :
    (specsOf ls).map QuerySpec.line =
      ((List.range ls.length).filter (isHeaderAt ls)).map (· + 1) := by
  rw [specsOf]
  induction List.range ls.length with
  | nil => rfl
  | cons i is ih =>
    rw [List.filterMap_cons, List.filter_cons]
    rcases specAt_cases h i with ⟨hi, hs⟩ | ⟨hi, spec, hs, hl⟩
    · rw [hs, hi]
      exact ih
    · rw [hs, hi]
      dsimp only
      rw [if_pos rfl, List.map_cons, List.map_cons, hl, ih]

/-! ### Body lines are neither lost nor moved -/

theorem fromHeader_cons {l : List Char} (h : ¬HeaderLike l) (rest : List (List Char)) :
    fromHeader (l :: rest) = fromHeader rest := by
  rw [fromHeader, List.dropWhile_cons_of_pos (by simpa using h)]
  rfl

theorem fromHeader_cons_of_headerLike {l : List Char} (h : HeaderLike l)
    (rest : List (List Char)) : fromHeader (l :: rest) = l :: rest := by
  rw [fromHeader, List.dropWhile_cons_of_neg (by simpa using h)]

/-- The queries of the headers from a place on have the body lines from the next header on. -/
theorem bodyText_specsFrom (rest before : List (List Char))
    (h : ∀ l ∈ rest, HeaderLike l → (Header.read? (trimEnd l)).isSome) :
    ((List.range' before.length rest.length).filterMap (specAt (before ++ rest))).flatMap
      (fun spec => spec.sql.toList) = bodyText (fromHeader rest) := by
  induction rest generalizing before with
  | nil => rfl
  | cons line rest ih =>
    have hi := ih (before ++ [line]) fun l hl => h l (List.mem_cons_of_mem line hl)
    rw [List.length_append, List.length_singleton, ← List.append_cons] at hi
    rw [List.length_cons, List.range'_succ, List.filterMap_cons]
    by_cases hl : HeaderLike line
    · obtain ⟨hd, hr⟩ := Option.isSome_iff_exists.mp (h line List.mem_cons_self hl)
      have hb : ¬IsBody line := fun hb => hb.2 hl
      rw [specAt_of_header hl hr]
      dsimp only
      rw [List.flatMap_cons, hi, String.toList_ofList, ← bodyText_append,
        untilHeader_append_fromHeader, fromHeader_cons_of_headerLike hl,
        bodyText_cons_of_not_isBody hb]
    · rw [specAt_of_not_headerLike hl]
      dsimp only
      rw [hi, fromHeader_cons hl]

theorem bodyText_specsOf {ls : List (List Char)} (h : WellFormed ls) :
    (specsOf ls).flatMap (fun spec => spec.sql.toList) = bodyText ls := by
  have hs := bodyText_specsFrom ls [] h.headers
  have hn : bodyText (untilHeader ls) = [] := by
    rw [bodyText_eq_nil_iff]
    intro m hm hb
    obtain ⟨before, after, hu⟩ := List.append_of_mem hm
    have hl : ls = before ++ m :: (after ++ fromHeader ls) := by
      rw [← List.cons_append, ← List.append_assoc, ← hu, untilHeader_append_fromHeader]
    obtain ⟨l, hl, hh⟩ := h.opened _ _ _ hl hb
    have hm : l ∈ untilHeader ls := by
      rw [hu]
      exact List.mem_append_left _ hl
    exact not_headerLike_of_mem_untilHeader hm hh
  have ha := bodyText_append (untilHeader ls) (fromHeader ls)
  rw [untilHeader_append_fromHeader, hn, List.nil_append] at ha
  rw [ha, ← hs, specsOf, List.range_eq_range']
  rfl

/-! ### Lines -/

/-- A line without the carriage return at its end, which is a part of the line end. -/
def withoutReturn (line : List Char) : List Char :=
  if line.getLast? = some '\r' then line.dropLast else line

/-- The lines of the parts of a text between line feeds. What stands behind the last line feed is a
line only if it is not empty. -/
def linesOf : List (List Char) → List (List Char)
  | [] => []
  | [last] => if last = [] then [] else [last]
  | part :: parts => withoutReturn part :: linesOf parts

/-- The lines of a text, of which the last one need not be ended. -/
def linesOfText (text : String) : List (List Char) := linesOf (split '\n' text.toList)

theorem linesOf_cons {part : List Char} {parts : List (List Char)} (h : parts ≠ []) :
    linesOf (part :: parts) = withoutReturn part :: linesOf parts := by
  cases parts with
  | nil => exact absurd rfl h
  | cons p ps => rfl

theorem split_newline (r : List Char) : split '\n' ('\n' :: r) = [] :: split '\n' r := rfl

theorem exists_split_cons {c : Char} (hc : c ≠ '\n') (r : List Char) :
    ∃ part parts, split '\n' r = part :: parts ∧ split '\n' (c :: r) = (c :: part) :: parts := by
  obtain ⟨part, parts, hs⟩ := List.exists_cons_of_ne_nil (split_ne_nil '\n' r)
  refine ⟨part, parts, hs, ?_⟩
  rw [split, if_neg hc, hs]

/-- An empty part that is not the last one stands before a line feed. -/
theorem eq_newline_of_split {r part : List Char} {parts : List (List Char)}
    (h : split '\n' r = [] :: part :: parts) : ∃ t, r = '\n' :: t := by
  cases r with
  | nil => cases h
  | cons c t =>
    by_cases hc : c = '\n'
    · exact ⟨t, by rw [hc]⟩
    · obtain ⟨p, ps, -, hs⟩ := exists_split_cons hc t
      rw [hs] at h
      cases h

theorem withoutReturn_cons {c : Char} {line : List Char} (h : line = [] → c ≠ '\r') :
    withoutReturn (c :: line) = c :: withoutReturn line := by
  cases line with
  | nil =>
    have hc := h rfl
    rw [withoutReturn, if_neg (by simpa using hc)]
    rfl
  | cons d line =>
    rw [withoutReturn, withoutReturn, List.getLast?_cons_cons, List.dropLast_cons_cons]
    split
    · rfl
    · rfl

/-- The lines of a text are its parts between line feeds, each without one carriage return before
the line feed. -/
theorem lines_eq_linesOf (s : List Char) : lines s = linesOf (split '\n' s) := by
  fun_induction lines s with
  | case1 => rfl
  | case2 r ih =>
    obtain ⟨part, parts, hs, hc⟩ := exists_split_cons (c := '\r') (by decide) ('\n' :: r)
    rw [split_newline] at hs
    obtain ⟨rfl, rfl⟩ := List.cons.inj hs
    rw [hc, linesOf_cons (split_ne_nil _ _), ih]
    rfl
  | case3 r hn ih =>
    rw [split_newline, linesOf_cons (split_ne_nil _ _), ih]
    rfl
  | case4 c r hn hc hl ih =>
    obtain ⟨part, parts, hs, hsc⟩ := exists_split_cons hc r
    rw [hl, hs] at ih
    cases parts with
    | nil =>
      have hp : part = [] := by
        by_contra hp
        rw [linesOf, if_neg hp] at ih
        cases ih
      rw [hsc, hp]
      rfl
    | cons p ps =>
      rw [linesOf_cons (List.cons_ne_nil _ _)] at ih
      cases ih
  | case5 c r hn hc l ls hl ih =>
    obtain ⟨part, parts, hs, hsc⟩ := exists_split_cons hc r
    rw [hl, hs] at ih
    rw [hsc]
    cases parts with
    | nil =>
      by_cases hp : part = []
      · rw [linesOf, if_pos hp] at ih
        cases ih
      · rw [linesOf, if_neg hp] at ih
        cases ih
        rfl
    | cons p ps =>
      have hr : part = [] → c ≠ '\r' := by
        rintro rfl rfl
        obtain ⟨t, ht⟩ := eq_newline_of_split hs
        exact hn t rfl ht
      rw [linesOf_cons (List.cons_ne_nil _ _)] at ih
      cases ih
      rw [linesOf_cons (List.cons_ne_nil _ _), withoutReturn_cons hr]

/-! ### The specification of the reader -/

section

variable {ls : List (List Char)} {read : Except Error (List QuerySpec)}
  (h : Outcome ls 0 ls.length [] read)
include h

theorem Outcome.eq_ok_iff (specs : List QuerySpec) :
    read = .ok specs ↔ WellFormed ls ∧ specs = specsOf ls := by
  have hs : specsOf ls = [] ++ (List.range' 0 ls.length).filterMap (specAt ls) := by
    rw [specsOf, List.range_eq_range']
    rfl
  rw [wellFormed_iff, hs]
  cases read with
  | ok specs' =>
    obtain ⟨hn, rfl⟩ := h
    constructor
    · rintro ⟨⟩
      exact ⟨fun i e => hn i (Nat.zero_le i) e, rfl⟩
    · rintro ⟨-, rfl⟩
      rfl
  | error e =>
    obtain ⟨i, -, he, -⟩ := h
    exact ⟨fun h => (nomatch h), fun h => absurd he (h.1 i e)⟩

theorem Outcome.eq_error_iff (e : Error) :
    read = .error e ↔ ∃ i, FaultAt ls i e ∧ ∀ j < i, ∀ f, ¬FaultAt ls j f := by
  cases read with
  | ok specs =>
    refine ⟨fun h => (nomatch h), ?_⟩
    rintro ⟨i, he, -⟩
    exact absurd he (h.1 i (Nat.zero_le i) e)
  | error e' =>
    obtain ⟨i, -, he, hj⟩ := h
    constructor
    · rintro ⟨⟩
      exact ⟨i, he, fun j hji => hj j (Nat.zero_le j) hji⟩
    · rintro ⟨k, hk, hkj⟩
      -- Neither fault stands before the other, so they stand at one place.
      rcases Nat.lt_trichotomy i k with hik | rfl | hki
      · exact absurd he (hkj i hik e')
      · rw [faultAt_unique he hk]
      · exact absurd hk (hj k (Nat.zero_le k) hki e)

end

/-- Reading a text comes to the queries of its headers or to its first fault. -/
theorem outcome_readAll (text : String) :
    Outcome (linesOfText text) 0 (linesOfText text).length [] (QuerySpec.readAll text) := by
  rw [QuerySpec.readAll, lines_eq_linesOf]
  exact outcome_readLines (linesOfText text) [] (.lead fun m hm => nomatch hm)

/-- **A text has queries exactly if nothing is wrong with its lines, and then they are those of its
headers; otherwise the error is the first thing that is wrong.** There is one query for every
header, at the line of the header, and the bodies of the queries together have every body line
once. -/
theorem readAll_spec (text : String) :
    (∀ specs, QuerySpec.readAll text = .ok specs ↔
      WellFormed (linesOfText text) ∧ specs = specsOf (linesOfText text)) ∧
    (∀ e, QuerySpec.readAll text = .error e ↔
      ∃ i, FaultAt (linesOfText text) i e ∧ ∀ j < i, ∀ f, ¬FaultAt (linesOfText text) j f) ∧
    (WellFormed (linesOfText text) →
      (specsOf (linesOfText text)).map QuerySpec.line =
          ((List.range (linesOfText text).length).filter (isHeaderAt (linesOfText text))).map
            (· + 1) ∧
        (specsOf (linesOfText text)).flatMap (fun spec => spec.sql.toList) =
          bodyText (linesOfText text)) := by
  have h := outcome_readAll text
  exact ⟨h.eq_ok_iff, h.eq_error_iff, fun hw => ⟨line_specsOf hw, bodyText_specsOf hw⟩⟩

end NamedSql.Blocks
