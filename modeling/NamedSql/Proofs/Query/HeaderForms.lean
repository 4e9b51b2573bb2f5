import NamedSql.Proofs.Query.Rendering

/-!
# Forms of header lines

The grammar of headers as a description of lines, without a reader. What makes up a header line is
data (`Header.Parts`), and it is put together by writing its parts one behind the other. The reader
accepts exactly the lines that can be put together so, and it gives what they were put together
from.

## Scope

Reading is settled for every line, with or without blanks at its end
(`Header.read?_eq_some_iff_parts`). That a line has only one form needs that it does not end with a
blank: a blank at the end would belong to a bare argument as well as to what follows it. Lines come
to the reader without blanks at their ends.

## Main definitions

* `Header.Tail` — what stands behind the kind: nothing, a text between parentheses or a bare text
* `Header.Parts` — what makes up a header line, with its line and the header that it holds

## Main results

* `Header.read?_eq_some_iff_parts` — the lines that are read, and what is read from them
* `Header.Parts.line_injective` — a line without blanks at its end has one form
* `Line.of_eq_header_iff` — the lines of a text that are headers
* `Line.classified_by_form` — headers, malformed headers and other lines, told apart by their forms
-/

namespace NamedSql

open Text

namespace Header

/-! ### Parts -/

/-- Spaces and tabs that set two parts apart, at least one of them. -/
def IsGap (gap : List Char) : Prop := gap ≠ [] ∧ ∀ c ∈ gap, isGap c = true

-- By `List.all`: a quantifier over characters is also decided by a search through all of them.
instance : DecidablePred IsGap := fun gap =>
  decidable_of_iff (gap ≠ [] ∧ gap.all isGap = true) (and_congr_right' List.all_eq_true)

/-- What stands behind the kind: an argument in one of two forms, or none. -/
inductive Tail where
  | nothing
  /-- A text between parentheses, directly behind the kind and to the last of the parentheses. -/
  | enclosed (text : List Char)
  /-- A bare text behind a gap, which goes on to the end of the line. -/
  | bare (gap text : List Char)
deriving DecidableEq, Repr

namespace Tail

/-- The text that stands for the argument, without what sets it off. -/
def text : Tail → List Char
  | nothing => []
  | enclosed text => text
  | bare _ text => text

def written : Tail → List Char
  | nothing => []
  | enclosed text => '(' :: (text ++ [')'])
  | bare gap text => gap ++ text

/-- Neither text has a parenthesis. A bare one starts where the gap ends. -/
def IsRegular : Tail → Prop
  | nothing => True
  | enclosed text => ∀ c ∈ text, c ≠ '(' ∧ c ≠ ')'
  | bare gap text =>
    IsGap gap ∧ (∀ c ∈ text, c ≠ '(' ∧ c ≠ ')') ∧ ∃ c ∈ text.head?, isBlank c = false

end Tail

/-- What makes up a header line, from left to right. Every character of the line is in one of the
parts. -/
@[ext]
structure Parts where
  beforeMark : List Char
  beforeName : List Char
  name : List Char
  beforeKind : List Char
  kind : List Char
  tail : Tail
  ending : List Char
  isGap_beforeMark : IsGap beforeMark
  isGap_beforeName : IsGap beforeName
  isIdentifier_name : IsIdentifier name
  isGap_beforeKind : IsGap beforeKind
  isIdentifier_kind : IsIdentifier kind
  isRegular_tail : tail.IsRegular
  isGap_ending : ∀ c ∈ ending, isGap c = true

namespace Parts

/-- What stands behind the name, to the end of the line. -/
def behindName (parts : Parts) : List Char :=
  parts.beforeKind ++ ':' :: (parts.kind ++ (parts.tail.written ++ parts.ending))

/-- The line that is made up of the parts, with the marks that every header has. -/
def line (parts : Parts) : List Char :=
  '-' :: '-' :: (parts.beforeMark ++ ':' :: 'n' :: 'a' :: 'm' :: 'e' ::
    (parts.beforeName ++ (parts.name ++ parts.behindName)))

/-- The header that the parts stand for: its argument is what is left of the text without blanks at
its ends, if anything is. -/
def header (parts : Parts) : Header :=
  ⟨String.ofList parts.name, String.ofList parts.kind,
    if trim parts.tail.text = [] then none else some (String.ofList (trim parts.tail.text))⟩

end Parts

/-! ### Characters -/

variable {r s t line raw : List Char} {hd : Header}

theorem isGap_iff {c : Char} : isGap c = true ↔ c = ' ' ∨ c = '\t' := by
  rw [isGap, Bool.or_eq_true, beq_iff_eq, beq_iff_eq]

theorem isBlank_of_isGap {c : Char} (h : isGap c = true) : isBlank c = true := by
  rcases isGap_iff.mp h with rfl | rfl
  · decide
  · decide

theorem isIdentPart_of_isGap {c : Char} (h : isGap c = true) : isIdentPart c = false := by
  rcases isGap_iff.mp h with rfl | rfl
  · decide
  · decide

theorem isGap_of_isIdentPart {c : Char} (h : isIdentPart c = true) : isGap c = false := by
  by_contra hg
  rw [isIdentPart_of_isGap (by simpa using hg)] at h
  cases h

theorem isWord_of_isGap {c : Char} (h : isGap c = true) : isWord c = false := by
  rcases isGap_iff.mp h with rfl | rfl
  · decide +kernel
  · decide +kernel

theorem IsGap.head (h : IsGap r) (t : List Char) : ∀ c ∈ (r ++ t).head?, isGap c = true := by
  obtain ⟨c, r, rfl⟩ := List.exists_cons_of_ne_nil h.1
  rintro d ⟨⟩
  exact h.2 c List.mem_cons_self

theorem isIdentPart_head (h : IsIdentifier r) (t : List Char) :
    ∀ c ∈ (r ++ t).head?, isIdentPart c = true := by
  obtain ⟨c, r, rfl, hc, -⟩ := h
  rintro d ⟨⟩
  exact isIdentPart_of_isIdentStart hc

/-! ### Blanks around an argument -/

theorem argumentOf_eq (raw : List Char) :
    argumentOf raw = if trim raw = [] then none else some (String.ofList (trim raw)) := by
  rw [argumentOf]
  split
  · rename_i h
    rw [if_pos h]
  · rename_i c t h
    rw [h, if_neg (List.cons_ne_nil c t)]

/-- The gap behind a bare argument is trimmed away. -/
theorem trim_append_gap (h : ∀ c ∈ t, isGap c = true) (s : List Char) : trim (s ++ t) = trim s := by
  induction t generalizing s with
  | nil => rw [List.append_nil]
  | cons c t ih =>
    have hc : isBlank c = true := isBlank_of_isGap (h c List.mem_cons_self)
    have ht := ih (fun d hd => h d (List.mem_cons_of_mem c hd)) (s ++ [c])
    rw [List.append_assoc] at ht
    exact ht.trans (trim_append_blank hc s)

/-! ### Arguments -/

/-- What is read behind the kind is a tail and a gap at the end. -/
theorem exists_tail_of_argument? (h : argument? r = some raw) :
    ∃ tail : Tail, ∃ ending, tail.IsRegular ∧ (∀ c ∈ ending, isGap c = true) ∧
      r = tail.written ++ ending ∧ tail.text = raw := by
  unfold argument? at h
  split at h
  · cases h
    exact ⟨.nothing, [], trivial, List.forall_mem_nil _, rfl, rfl⟩
  · -- Between parentheses.
    rename_i r
    split at h
    · rename_i ending hd
      split at h
      · rename_i he
        cases h
        refine ⟨.enclosed (r.takeWhile fun c => !isParen c), ending, fun c hc => ?_,
          List.all_eq_true.mp he, ?_, rfl⟩
        · exact isParen_eq_false_iff.mp (by simpa using List.mem_takeWhile_imp hc)
        · have hr := List.takeWhile_append_dropWhile (p := fun c => !isParen c) (l := r)
          rw [hd] at hr
          rw [Tail.written, List.cons_append, List.append_assoc]
          exact congrArg _ hr.symm
      · cases h
    · cases h
  · -- Behind a gap.
    split at h
    · cases h
    · rename_i hg
      cases h
      obtain ⟨gap, rfl, -, hc⟩ := exists_gap_of_afterGap? hg
      exact ⟨.nothing, gap, trivial, hc, by simp [Tail.written], rfl⟩
    · rename_i d t hg
      split at h
      · cases h
      · rename_i hn
        cases h
        rw [Bool.or_eq_true, not_or, List.any_eq_true] at hn
        obtain ⟨gap, rfl, hne, hc⟩ := exists_gap_of_afterGap? hg
        refine ⟨.bare gap (d :: t), [], ⟨⟨hne, hc⟩, fun c hm => ?_, d, rfl, by simpa using hn.1⟩,
          List.forall_mem_nil _, by simp [Tail.written], rfl⟩
        refine isParen_eq_false_iff.mp ?_
        by_contra hp
        exact hn.2 ⟨c, hm, by simpa using hp⟩

/-- Nothing but a gap holds no argument. -/
theorem argument?_gap (h : ∀ c ∈ t, isGap c = true) : argument? t = some [] := by
  cases t with
  | nil => rfl
  | cons c t =>
    have hc : c ≠ '(' := by
      rintro rfl
      cases h '(' List.mem_cons_self
    have hg : afterGap? (c :: t) = some [] := by
      have hg := afterGap?_append (List.cons_ne_nil c t) h (t := []) nofun
      rwa [List.append_nil] at hg
    rw [argument?, hg]
    · rintro ⟨⟩
    · rintro r ⟨⟩
      exact hc rfl

/-- A bare argument is read to the end of the line, since nothing in it closes it. -/
theorem argument?_bare {c : Char} (hr : IsGap r) (hc : isBlank c = false)
    (hp : ∀ d ∈ c :: t, isParen d = false) : argument? (r ++ c :: t) = some (c :: t) := by
  have hg : afterGap? (r ++ c :: t) = some (c :: t) := by
    refine afterGap?_append hr.1 hr.2 ?_
    rintro d ⟨⟩
    by_contra hd
    rw [isBlank_of_isGap (by simpa using hd)] at hc
    cases hc
  have ha : (c :: t).any isParen = false := by simpa using hp
  obtain ⟨d, gap, rfl⟩ := List.exists_cons_of_ne_nil hr.1
  have hd : d ≠ '(' := by
    rintro rfl
    cases hr.2 '(' List.mem_cons_self
  rw [List.cons_append] at hg ⊢
  rw [argument?, hg]
  · simp only [hc, ha, Bool.or_false, Bool.false_eq_true, if_false]
  · rintro ⟨⟩
  · rintro r ⟨⟩
    exact hd rfl

/-- A tail and a gap at the end are read as the text of the tail, up to blanks at its ends. -/
theorem argument?_written {tail : Tail} (h : tail.IsRegular) (he : ∀ c ∈ t, isGap c = true) :
    ∃ raw, argument? (tail.written ++ t) = some raw ∧ trim raw = trim tail.text := by
  cases tail with
  | nothing => exact ⟨[], argument?_gap he, rfl⟩
  | enclosed text =>
    have hp : ∀ c ∈ text, (!isParen c) = true := by
      intro c hc
      rw [isParen_eq_false_iff.mpr (h c hc)]
      rfl
    have ht : ∀ c ∈ (')' :: t).head?, (!isParen c) = false := by
      rintro c ⟨⟩
      rfl
    refine ⟨text, ?_, rfl⟩
    rw [Tail.written, List.cons_append, List.append_assoc, List.singleton_append, argument?,
      dropWhile_append_of_head hp ht, takeWhile_append_of_head hp ht]
    exact if_pos (List.all_eq_true.mpr he)
  | bare gap text =>
    obtain ⟨hgap, hp, c, hc, hb⟩ := h
    obtain ⟨rest, rfl⟩ : ∃ rest, text = c :: rest := List.head?_eq_some_iff.mp hc
    have hn : ∀ d ∈ c :: (rest ++ t), isParen d = false := by
      intro d hd
      rw [isParen_eq_false_iff]
      rcases List.mem_append.mp (List.cons_append ▸ hd) with hd | hd
      · exact hp d hd
      · rcases isGap_iff.mp (he d hd) with rfl | rfl
        · decide
        · decide
    refine ⟨c :: (rest ++ t), ?_, trim_append_gap he (c :: rest)⟩
    rw [Tail.written, List.append_assoc, List.cons_append]
    exact argument?_bare hgap hb hn

/-- The kind ends where the tail starts, for no tail starts as an identifier goes on. -/
theorem Tail.isIdentPart_head {tail : Tail} (h : tail.IsRegular) (he : ∀ c ∈ t, isGap c = true) :
    ∀ c ∈ (tail.written ++ t).head?, isIdentPart c = false := by
  cases tail with
  | nothing => exact fun c hc => isIdentPart_of_isGap (he c (List.mem_of_mem_head? hc))
  | enclosed text =>
    rintro c ⟨⟩
    rfl
  | bare gap text =>
    rw [Tail.written, List.append_assoc]
    exact fun c hc => isIdentPart_of_isGap (h.1.head _ c hc)

/-! ### Headers -/

/-- **A line is read as a header if it is made up of parts, and what is read is the header that they
stand for.** -/
theorem read?_eq_some_iff_parts :
    read? line = some hd ↔ ∃ parts : Parts, parts.line = line ∧ parts.header = hd := by
  constructor
  · intro h
    obtain ⟨r₁, r₂, name, r₃, r₄, kind, r₅, raw, h₁, h₂, h₃, h₄, h₅, h₆, rfl⟩ :=
      read?_eq_some_iff.mp h
    obtain ⟨gap₁, rfl, hg₁⟩ := afterMark?_eq_some_iff.mp h₁
    obtain ⟨gap₂, rfl, hg₂⟩ := exists_gap_of_afterGap? h₂
    obtain ⟨rfl, hn, -⟩ := identifier?_eq_some_iff.mp h₃
    obtain ⟨gap₃, rfl, hg₃⟩ := exists_gap_of_afterGap? h₄
    obtain ⟨rfl, hk, -⟩ := identifier?_eq_some_iff.mp h₅
    obtain ⟨tail, ending, ht, he, rfl, rfl⟩ := exists_tail_of_argument? h₆
    refine ⟨⟨gap₁, gap₂, name, gap₃, kind, tail, ending, hg₁, hg₂, hn, hg₃, hk, ht, he⟩, rfl, ?_⟩
    rw [Parts.header, argumentOf_eq]
  · rintro ⟨parts, rfl, rfl⟩
    obtain ⟨raw, ha, ht⟩ := argument?_written parts.isRegular_tail parts.isGap_ending
    have hg : ∀ gap ∈ [parts.beforeMark, parts.beforeName, parts.beforeKind],
        gap ≠ [] ∧ ∀ c ∈ gap, isGap c = true := by
      intro gap hm
      simp only [List.mem_cons, List.not_mem_nil, or_false] at hm
      rcases hm with rfl | rfl | rfl
      · exact parts.isGap_beforeMark
      · exact parts.isGap_beforeName
      · exact parts.isGap_beforeKind
    have hr := read?_parts hg parts.isIdentifier_name parts.isIdentifier_kind
      (Tail.isIdentPart_head parts.isRegular_tail parts.isGap_ending) ha
    rw [argumentOf_eq, ht] at hr
    exact hr

namespace Parts

variable {parts p q : Parts}

/-! ### One form for each line -/

/-- Two texts that go on with a character of another kind are told apart at that character. -/
theorem append_inj_of_head {p : Char → Bool} {r' t' : List Char} (h : r ++ t = r' ++ t')
    (hr : ∀ c ∈ r, p c = true) (ht : ∀ c ∈ t.head?, p c = false) (hr' : ∀ c ∈ r', p c = true)
    (ht' : ∀ c ∈ t'.head?, p c = false) : r = r' ∧ t = t' := by
  have hw := congrArg (List.takeWhile p) h
  have hd := congrArg (List.dropWhile p) h
  rw [takeWhile_append_of_head hr ht, takeWhile_append_of_head hr' ht'] at hw
  rw [dropWhile_append_of_head hr ht, dropWhile_append_of_head hr' ht'] at hd
  exact ⟨hw, hd⟩

/-- A tail that a line ends with is told from the line. -/
theorem tail_inj {u v : Tail} (hu : u.IsRegular) (hv : v.IsRegular) (h : u.written = v.written) :
    u = v := by
  -- What a bare tail starts with is a gap, and an enclosed one starts with a parenthesis.
  have hgap : ∀ {gap text : List Char}, (Tail.bare gap text).IsRegular →
      ∃ c rest, isGap c = true ∧ (Tail.bare gap text).written = c :: rest := by
    intro gap text hb
    obtain ⟨c, rest, hgap⟩ := List.exists_cons_of_ne_nil hb.1.1
    refine ⟨c, rest ++ text, hb.1.2 c (hgap ▸ List.mem_cons_self), ?_⟩
    rw [Tail.written, hgap, List.cons_append]
  cases u with
  | nothing =>
    cases v with
    | nothing => rfl
    | enclosed text => cases h
    | bare gap text =>
      obtain ⟨c, rest, -, hw⟩ := hgap hv
      rw [hw] at h
      cases h
  | enclosed text =>
    cases v with
    | nothing => cases h
    | enclosed text' =>
      have ht : text = text' := by simpa [Tail.written] using h
      rw [ht]
    | bare gap text' =>
      obtain ⟨c, rest, hc, hw⟩ := hgap hv
      rw [hw] at h
      cases h
      cases hc
  | bare gap text =>
    cases v with
    | nothing =>
      obtain ⟨c, rest, -, hw⟩ := hgap hu
      rw [hw] at h
      cases h
    | enclosed text' =>
      obtain ⟨c, rest, hc, hw⟩ := hgap hu
      rw [hw] at h
      cases h
      cases hc
    | bare gap' text' =>
      have hstart : ∀ {gap text : List Char}, (Tail.bare gap text).IsRegular →
          ∀ c ∈ text.head?, isGap c = false := by
        rintro gap text ⟨-, -, d, hd, hb⟩ c hc
        obtain rfl : d = c := Option.mem_unique hd hc
        by_contra hg
        rw [isBlank_of_isGap (by simpa using hg)] at hb
        cases hb
      obtain ⟨rfl, rfl⟩ := append_inj_of_head h hu.1.2 (hstart hu) hv.1.2 (hstart hv)
      rfl

/-- The kind, the tail and the ending are the end of the line. -/
theorem exists_front (parts : Parts) :
    ∃ front, parts.line = front ++ (parts.kind ++ (parts.tail.written ++ parts.ending)) :=
  ⟨'-' :: '-' :: (parts.beforeMark ++ ':' :: 'n' :: 'a' :: 'm' :: 'e' ::
      (parts.beforeName ++ (parts.name ++ (parts.beforeKind ++ [':'])))),
    by simp [line, behindName]⟩

/-- A line without blanks at its end ends with its tail. -/
theorem ending_eq_nil (h : trimEnd parts.line = parts.line) : parts.ending = [] := by
  by_contra hn
  obtain ⟨front, hf⟩ := parts.exists_front
  have hl : parts.ending.getLast hn ∈ parts.line.getLast? := by
    rw [hf, ← List.append_assoc, ← List.append_assoc, List.getLast?_append,
      List.getLast?_eq_some_getLast hn]
    rfl
  have hb := trimEnd_eq_self_iff.mp h _ hl
  rw [isBlank_of_isGap (parts.isGap_ending _ (List.getLast_mem hn))] at hb
  cases hb

/-- **A line without blanks at its end has one form.** -/
theorem line_injective (ht : trimEnd p.line = p.line) (h : p.line = q.line) : p = q := by
  have hp := ending_eq_nil ht
  have hq := ending_eq_nil (h ▸ ht)
  have hcolon : ∀ r : List Char, ∀ c ∈ (':' :: r).head?, isGap c = false := by
    rintro r c ⟨⟩
    rfl
  have hname : ∀ parts : Parts, ∀ c ∈ (parts.name ++ parts.behindName).head?, isGap c = false :=
    fun parts c hc => isGap_of_isIdentPart (isIdentPart_head parts.isIdentifier_name _ c hc)
  have hbehind : ∀ parts : Parts, ∀ c ∈ parts.behindName.head?, isIdentPart c = false :=
    fun parts c hc => isIdentPart_of_isGap (parts.isGap_beforeKind.head _ c hc)
  have htail : ∀ parts : Parts, ∀ c ∈ (parts.tail.written ++ parts.ending).head?,
      isIdentPart c = false :=
    fun parts => Tail.isIdentPart_head parts.isRegular_tail parts.isGap_ending
  simp only [line, List.cons.injEq, true_and] at h
  obtain ⟨h₁, h⟩ := append_inj_of_head h p.isGap_beforeMark.2 (hcolon _) q.isGap_beforeMark.2
    (hcolon _)
  simp only [List.cons.injEq, true_and] at h
  obtain ⟨h₂, h⟩ := append_inj_of_head h p.isGap_beforeName.2 (hname p) q.isGap_beforeName.2
    (hname q)
  obtain ⟨h₃, h⟩ := append_inj_of_head h p.isIdentifier_name.isIdentPart (hbehind p)
    q.isIdentifier_name.isIdentPart (hbehind q)
  obtain ⟨h₄, h⟩ := append_inj_of_head h p.isGap_beforeKind.2 (hcolon _) q.isGap_beforeKind.2
    (hcolon _)
  simp only [List.cons.injEq, true_and] at h
  obtain ⟨h₅, h⟩ := append_inj_of_head h p.isIdentifier_kind.isIdentPart (htail p)
    q.isIdentifier_kind.isIdentPart (htail q)
  rw [hp, hq, List.append_nil, List.append_nil] at h
  exact Parts.ext h₁ h₂ h₃ h₄ h₅ (tail_inj p.isRegular_tail q.isRegular_tail h) (hp.trans hq.symm)

/-! ### Written headers -/

/-- What stands behind the kind when a header is written: the argument is put between parentheses.
-/
def writtenTail (hd : Header) : Tail :=
  match hd.arg with
  | none => .nothing
  | some arg => .enclosed arg.toList

theorem isRegular_writtenTail (parts : Parts) : (writtenTail parts.header).IsRegular := by
  have hp : ∀ c ∈ parts.tail.text, c ≠ '(' ∧ c ≠ ')' := by
    have ht := parts.isRegular_tail
    cases h : parts.tail with
    | nothing => exact List.forall_mem_nil _
    | enclosed text => rwa [h] at ht
    | bare gap text =>
      rw [h] at ht
      exact ht.2.1
  rw [writtenTail, header]
  split_ifs with h
  · exact trivial
  · intro c hc
    rw [String.toList_ofList] at hc
    exact hp c (mem_of_mem_trim hc)

/-- The parts of which a header is made up when it is written anew: one space between two of them,
and parentheses around an argument. -/
def rewritten (parts : Parts) : Parts where
  beforeMark := [' ']
  beforeName := [' ']
  name := parts.name
  beforeKind := [' ']
  kind := parts.kind
  tail := writtenTail parts.header
  ending := []
  isGap_beforeMark := by decide
  isGap_beforeName := by decide
  isIdentifier_name := parts.isIdentifier_name
  isGap_beforeKind := by decide
  isIdentifier_kind := parts.isIdentifier_kind
  isRegular_tail := isRegular_writtenTail parts
  isGap_ending := List.forall_mem_nil _

theorem header_rewritten (parts : Parts) : parts.rewritten.header = parts.header := by
  have ht : trim (writtenTail parts.header).text = trim parts.tail.text := by
    by_cases h : trim parts.tail.text = []
    · have ha : parts.header.arg = none := if_pos h
      rw [writtenTail, ha, h]
      rfl
    · have ha : parts.header.arg = some (String.ofList (trim parts.tail.text)) := if_neg h
      rw [writtenTail, ha]
      dsimp only [Tail.text]
      rw [String.toList_ofList, trim_trim]
  rw [header, header, ← ht]
  rfl

/-- The header of a query is the line of the parts that it is rewritten from. -/
theorem line_rewritten {spec : QuerySpec} (h : spec.toHeader = parts.header) :
    parts.rewritten.line = spec.header.toList := by
  have hn : spec.name.toList = parts.name := by
    rw [show spec.name = parts.header.name from congrArg Header.name h]
    exact String.toList_ofList
  have hk : spec.kind.toList = parts.kind := by
    rw [show spec.kind = parts.header.kind from congrArg Header.kind h]
    exact String.toList_ofList
  have ht : spec.writtenArg = (writtenTail parts.header).written := by
    rw [← h, QuerySpec.writtenArg, writtenTail]
    change _ = Tail.written (match spec.arg with | none => _ | some arg => _)
    cases spec.arg with
    | none => rfl
    | some arg => rfl
  rw [QuerySpec.toList_header, hn, hk, ht, line, behindName, rewritten]
  dsimp only
  rw [List.append_nil]

/-- A written header has no blanks at its end. -/
theorem trimEnd_line_rewritten (parts : Parts) :
    trimEnd parts.rewritten.line = parts.rewritten.line := by
  rw [trimEnd_eq_self_iff]
  obtain ⟨front, hf⟩ := parts.rewritten.exists_front
  have hw : parts.rewritten.line = front ++ (parts.kind ++ (writtenTail parts.header).written) := by
    rw [hf]
    exact congrArg (fun r => front ++ (parts.kind ++ r)) (List.append_nil _)
  rw [hw]
  intro c hc
  cases ha : parts.header.arg with
  | none =>
    have hk : parts.kind ≠ [] := by
      obtain ⟨c, r, hk, -⟩ := parts.isIdentifier_kind
      rw [hk]
      exact List.cons_ne_nil c r
    have hl : c ∈ parts.kind.getLast? := by
      rw [writtenTail, ha, Tail.written, List.append_nil, List.getLast?_append,
        List.getLast?_eq_some_getLast hk] at hc
      rw [List.getLast?_eq_some_getLast hk]
      exact hc
    exact isBlank_of_isIdentPart (parts.isIdentifier_kind.isIdentPart c (List.mem_of_getLast? hl))
  | some arg =>
    rw [writtenTail, ha] at hc
    dsimp only [Tail.written] at hc
    rw [← List.cons_append, ← List.append_assoc, ← List.append_assoc, List.getLast?_concat] at hc
    cases hc
    rfl

end Parts

end Header

/-! ### Lines of a text -/

namespace Line

variable {line : List Char}

/-- A line that is made up of parts is meant as a header. -/
theorem headerLike_of_parts {parts : Header.Parts} (h : parts.line = trimEnd line) :
    HeaderLike line := by
  refine ⟨parts.beforeMark, parts.beforeName ++ (parts.name ++ parts.behindName), h.symm,
    parts.isGap_beforeMark.1, fun c hc => Header.isGap_iff.mp (parts.isGap_beforeMark.2 c hc), ?_⟩
  exact fun c hc => Header.isWord_of_isGap (parts.isGap_beforeName.head _ c hc)

/-- The lines of a text that are headers are those made up of regular parts, up to blanks at the
end. -/
theorem of_eq_header_iff {hd : Header} :
    Line.of line = .header hd ↔
      ∃ parts : Header.Parts, parts.line = trimEnd line ∧ parts.header = hd := by
  constructor
  · intro h
    by_cases hl : HeaderLike line
    · cases hr : Header.read? (trimEnd line) with
      | none =>
        rw [of_malformed hl hr] at h
        cases h
      | some hd' =>
        rw [of_header hl hr] at h
        cases h
        exact Header.read?_eq_some_iff_parts.mp hr
    · by_cases ht : trim line = []
      · rw [of_blank ht] at h
        cases h
      · rw [of_isBody ⟨ht, hl⟩] at h
        cases h
  · rintro ⟨parts, hp, rfl⟩
    exact of_header (headerLike_of_parts hp) (Header.read?_eq_some_iff_parts.mpr ⟨parts, hp, rfl⟩)

/-- A line that is meant as a header and is not made up of parts is malformed. -/
theorem of_eq_malformed (hl : HeaderLike line)
    (h : ∀ parts : Header.Parts, parts.line ≠ trimEnd line) : Line.of line = .malformed := by
  refine of_malformed hl ?_
  rw [Option.eq_none_iff_forall_not_mem]
  intro hd hr
  obtain ⟨parts, hp, -⟩ := Header.read?_eq_some_iff_parts.mp hr
  exact h parts hp

/-- **Headers by their forms.** A line without blanks at its end is a header if it is made up of
parts; there is only one way to make it up, and the header is what the parts stand for. A line that
is meant as a header and is made up in no way stops the reader at its number. A line that is not
meant as a header is blank or part of a body. The header of a query that has been read from a line
is read again as the same header. -/
theorem classified_by_form (hr : trimEnd line = line) :
    (∀ hd, Line.of line = .header hd ↔
        ∃ parts : Header.Parts, parts.line = line ∧ parts.header = hd) ∧
      (∀ p q : Header.Parts, p.line = line → q.line = line → p = q) ∧
      (HeaderLike line → (∀ parts : Header.Parts, parts.line ≠ line) →
        ∀ (current : Option QuerySpec) (number : Nat) (rest : List (List Char)),
          QuerySpec.readLines current number (line :: rest) =
            .error (.parseStructure number
              ("malformed header '" ++ String.ofList line ++ "'"))) ∧
      (¬HeaderLike line → Line.of line = .blank ∨ Line.of line = .body (trim line)) ∧
      ∀ spec : QuerySpec, Line.of line = .header spec.toHeader →
        Line.of spec.header.toList = .header spec.toHeader := by
  refine ⟨fun hd => ?_, fun p q hp hq => ?_, fun hl hn current number rest => ?_, fun hn => ?_,
    fun spec hs => ?_⟩
  · rw [of_eq_header_iff, hr]
  · exact Header.Parts.line_injective (by rw [hp, hr]) (hp.trans hq.symm)
  · have hm : Line.of line = .malformed := of_eq_malformed hl (by rwa [hr])
    cases current with
    | none => rw [QuerySpec.readLines, hm, hr]
    | some spec => rw [QuerySpec.readLines, hm, hr]
  · by_cases ht : trim line = []
    · exact .inl (of_blank ht)
    · exact .inr (of_isBody ⟨ht, hn⟩)
  · obtain ⟨parts, -, hp⟩ := of_eq_header_iff.mp hs
    have hl := Header.Parts.line_rewritten hp.symm
    rw [of_eq_header_iff, ← hl, Header.Parts.trimEnd_line_rewritten]
    exact ⟨parts.rewritten, rfl, parts.header_rewritten.trans hp⟩

/-- A bare argument with tabs before it, and the header written anew. -/
theorem classified_by_form_bare :
    trimEnd "-- :name find :get\t\tclé, id".toList = "-- :name find :get\t\tclé, id".toList ∧
      Line.of "-- :name find :get\t\tclé, id".toList = .header ⟨"find", "get", some "clé, id"⟩ ∧
      Line.of "-- :name find :get(clé, id)".toList = .header ⟨"find", "get", some "clé, id"⟩ := by
  have ht : trimEnd "-- :name find :get\t\tclé, id".toList =
      "-- :name find :get\t\tclé, id".toList := by decide +kernel
  let parts : Header.Parts :=
    { beforeMark := [' ']
      beforeName := [' ']
      name := "find".toList
      beforeKind := [' ']
      kind := "get".toList
      tail := .bare ['\t', '\t'] "clé, id".toList
      ending := []
      isGap_beforeMark := by decide
      isGap_beforeName := by decide
      isIdentifier_name := by decide
      isGap_beforeKind := by decide
      isIdentifier_kind := by decide
      isRegular_tail := ⟨by decide, by simp, 'c', rfl, by decide⟩
      isGap_ending := List.forall_mem_nil _ }
  obtain ⟨hof, -, -, -, hwritten⟩ := classified_by_form ht
  have hl := (hof ⟨"find", "get", some "clé, id"⟩).mpr ⟨parts, by decide +kernel, by decide +kernel⟩
  exact ⟨ht, hl, hwritten ⟨"find", "get", some "clé, id", "", 1⟩ hl⟩

end Line

end NamedSql
