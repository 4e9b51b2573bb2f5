import NamedSql.Proofs.Query.LineKinds
import NamedSql.Proofs.Text.Trimming

/-!
# The grammar of headers

What a header line that is read consists of, and which header lines are read. A header that is read
has plain identifiers and, if it has an argument, one that could have been written between
parentheses.

## Scope

Of the two forms of an argument, only the one between parentheses is shown to be read. The bare form
is looked at in the other direction alone: what is read from it could have been written.

## Main definitions

* `IsIdentifier`, `IsArgument` — what may stand as a name or a kind, and as an argument
* `Header.Regular` — a header that can be written

## Main results

* `Header.identifier?_eq_some_iff` — what an identifier is read from
* `Header.regular_of_read?` — a header that is read can be written
* `Header.read?_parts` — a header whose parts are set apart by gaps is read
-/

namespace NamedSql

open Text

/-- A plain identifier. -/
def IsIdentifier (name : List Char) : Prop :=
  ∃ c r, name = c :: r ∧ isIdentStart c = true ∧ ∀ d ∈ r, isIdentPart d = true

theorem IsIdentifier.isIdentPart {name : List Char} (h : IsIdentifier name) :
    ∀ c ∈ name, isIdentPart c = true := by
  obtain ⟨c, r, rfl, hc, hr⟩ := h
  intro d hd
  rcases List.mem_cons.mp hd with rfl | hd
  · exact isIdentPart_of_isIdentStart hc
  · exact hr d hd

/-- Identifiers are made of ASCII characters that are not blank. -/
theorem isBlank_of_isIdentPart {c : Char} (h : isIdentPart c = true) : isBlank c = false := by
  have hb : 48 ≤ c.toNat ∧ c.toNat ≤ 122 := by
    simp only [isIdentPart, isIdentStart, Bool.or_eq_true, Bool.and_eq_true, decide_eq_true_eq,
      beq_iff_eq, Char.le_def, UInt32.le_iff_toNat_le] at h
    have hc : c.toNat = c.val.toNat := rfl
    rcases h with ((⟨h₁, h₂⟩ | ⟨h₁, h₂⟩) | rfl) | ⟨h₁, h₂⟩
    · change 97 ≤ c.val.toNat at h₁
      change c.val.toNat ≤ 122 at h₂
      omega
    · change 65 ≤ c.val.toNat at h₁
      change c.val.toNat ≤ 90 at h₂
      omega
    · decide
    · change 48 ≤ c.val.toNat at h₁
      change c.val.toNat ≤ 57 at h₂
      omega
  simp only [isBlank, Bool.or_eq_false_iff, Bool.and_eq_false_iff, decide_eq_false_iff_not,
    beq_eq_false_iff_ne, ne_eq]
  omega

/-- A text that may stand as an argument between parentheses. -/
structure IsArgument (a : List Char) : Prop where
  ne_nil : a ≠ []
  trimmed : trim a = a
  paren : ∀ c ∈ a, c ≠ '(' ∧ c ≠ ')'
  newline : '\n' ∉ a

instance : DecidablePred IsIdentifier
  | [] => isFalse fun ⟨_, _, h, _⟩ => nomatch h
  | c :: r =>
    decidable_of_iff (isIdentStart c = true ∧ r.all isIdentPart = true)
      ⟨fun ⟨hc, hr⟩ => ⟨c, r, rfl, hc, List.all_eq_true.mp hr⟩, by
        rintro ⟨_, _, ⟨⟩, hc, hr⟩
        exact ⟨hc, List.all_eq_true.mpr hr⟩⟩

instance : DecidablePred IsArgument := fun a =>
  decidable_of_iff (a ≠ [] ∧ trim a = a ∧ ('(' ∉ a ∧ ')' ∉ a) ∧ '\n' ∉ a)
    ⟨fun ⟨hn, ht, hp, hl⟩ =>
        ⟨hn, ht, fun _ hc => ⟨fun he => hp.1 (he ▸ hc), fun he => hp.2 (he ▸ hc)⟩, hl⟩,
      fun h => ⟨h.ne_nil, h.trimmed,
        ⟨fun hc => (h.paren _ hc).1 rfl, fun hc => (h.paren _ hc).2 rfl⟩, h.newline⟩⟩

namespace Header

variable {line r t name raw : List Char} {h hd : Header}

/-! ### Identifiers -/

theorem takeWhile_append_of_head {p : Char → Bool} (hr : ∀ c ∈ r, p c = true)
    (ht : ∀ c ∈ t.head?, p c = false) : (r ++ t).takeWhile p = r := by
  rw [List.takeWhile_append_of_pos hr]
  cases t with
  | nil => exact List.append_nil r
  | cons c t =>
    rw [List.takeWhile_cons_of_neg (by simpa using ht c rfl), List.append_nil]

theorem dropWhile_append_of_head {p : Char → Bool} (hr : ∀ c ∈ r, p c = true)
    (ht : ∀ c ∈ t.head?, p c = false) : (r ++ t).dropWhile p = t := by
  rw [List.dropWhile_append_of_pos hr]
  cases t with
  | nil => rfl
  | cons c t => rw [List.dropWhile_cons_of_neg (by simpa using ht c rfl)]

/-- An identifier is read as far as it goes. -/
theorem identifier?_eq_some_iff :
    identifier? line = some (name, t) ↔
      line = name ++ t ∧ IsIdentifier name ∧ ∀ c ∈ t.head?, isIdentPart c = false := by
  constructor
  · intro h
    cases line with
    | nil => cases h
    | cons c r =>
      rw [identifier?] at h
      split at h
      · rename_i hc
        cases h
        refine ⟨?_, ⟨c, _, rfl, hc, fun d hd => List.mem_takeWhile_imp hd⟩, fun d hd => ?_⟩
        · rw [List.cons_append, List.takeWhile_append_dropWhile]
        · have hn := List.head?_dropWhile_not isIdentPart r
          rw [Option.mem_def.mp hd] at hn
          simpa using hn
      · cases h
  · rintro ⟨rfl, ⟨c, r, rfl, hc, hr⟩, ht⟩
    rw [List.cons_append, identifier?, if_pos hc, takeWhile_append_of_head hr ht,
      dropWhile_append_of_head hr ht]

/-! ### Arguments -/

theorem isParen_iff {c : Char} : isParen c = true ↔ c = '(' ∨ c = ')' := by
  rw [isParen, Bool.or_eq_true, beq_iff_eq, beq_iff_eq]

theorem isParen_eq_false_iff {c : Char} : isParen c = false ↔ c ≠ '(' ∧ c ≠ ')' := by
  rw [← Bool.not_eq_true, isParen_iff, not_or]

/-- What is read as an argument is part of the line and has no parenthesis. -/
theorem mem_of_argument? (h : argument? r = some raw) :
    ∀ c ∈ raw, c ∈ r ∧ c ≠ '(' ∧ c ≠ ')' := by
  unfold argument? at h
  split at h
  · cases h
    exact fun c hc => nomatch hc
  · -- Between parentheses.
    rename_i r
    split at h
    · split at h
      · cases h
        intro c hc
        have hp : isParen c = false := by simpa using List.mem_takeWhile_imp hc
        refine ⟨List.mem_cons_of_mem _ ?_, isParen_eq_false_iff.mp hp⟩
        exact (List.takeWhile_prefix _).subset hc
      · cases h
    · cases h
  · -- Behind a gap.
    split at h
    · cases h
    · cases h
      exact fun c hc => nomatch hc
    · rename_i d t hg
      split at h
      · cases h
      · rename_i hn
        cases h
        obtain ⟨gap, rfl, -, -⟩ := exists_gap_of_afterGap? hg
        intro c hc
        refine ⟨List.mem_append_right gap hc, isParen_eq_false_iff.mp ?_⟩
        rw [Bool.or_eq_true, not_or, List.any_eq_true] at hn
        by_contra hp
        exact hn.2 ⟨c, hc, by simpa using hp⟩

/-- An argument between parentheses is read as it is written. -/
theorem argument?_parenthesised (ha : ∀ c ∈ raw, c ≠ '(' ∧ c ≠ ')') :
    argument? ('(' :: (raw ++ [')'])) = some raw := by
  have hp : ∀ c ∈ raw, (!isParen c) = true := by
    intro c hc
    rw [isParen_eq_false_iff.mpr (ha c hc)]
    rfl
  have ht : ∀ c ∈ [')'].head?, (!isParen c) = false := by
    rintro c ⟨⟩
    rfl
  rw [argument?, dropWhile_append_of_head hp ht, takeWhile_append_of_head hp ht]
  rfl

theorem argumentOf_eq_some {a : String} (h : argumentOf raw = some a) :
    a.toList = trim raw ∧ trim raw ≠ [] := by
  unfold argumentOf at h
  split at h
  · cases h
  · rename_i c t hr
    cases h
    rw [String.toList_ofList]
    exact ⟨hr.symm, by rw [hr]; exact List.cons_ne_nil c t⟩

theorem argumentOf_of_trimmed (hn : raw ≠ []) (ht : trim raw = raw) :
    argumentOf raw = some (String.ofList raw) := by
  obtain ⟨c, t, rfl⟩ := List.exists_cons_of_ne_nil hn
  rw [argumentOf, ht]

/-! ### Headers -/

theorem suffix_of_afterMark? (h : afterMark? line = some t) : t <:+ line := by
  obtain ⟨gap, rfl, -, -⟩ := afterMark?_eq_some_iff.mp h
  exact ⟨'-' :: '-' :: (gap ++ [':', 'n', 'a', 'm', 'e']), by simp⟩

theorem suffix_of_afterGap? (h : afterGap? r = some t) : t <:+ r := by
  obtain ⟨gap, rfl, -, -⟩ := exists_gap_of_afterGap? h
  exact List.suffix_append gap t

theorem suffix_of_identifier? (h : identifier? r = some (name, t)) : t <:+ r := by
  obtain ⟨rfl, -, -⟩ := identifier?_eq_some_iff.mp h
  exact List.suffix_append name t

/-- The parts of a header line that is read. -/
theorem read?_eq_some_iff :
    read? line = some h ↔
      ∃ r₁ r₂ name r₃ r₄ kind r₅ raw, afterMark? line = some r₁ ∧ afterGap? r₁ = some r₂ ∧
        identifier? r₂ = some (name, r₃) ∧ afterGap? r₃ = some (':' :: r₄) ∧
        identifier? r₄ = some (kind, r₅) ∧ argument? r₅ = some raw ∧
        h = ⟨String.ofList name, String.ofList kind, argumentOf raw⟩ := by
  constructor
  · intro hr
    simp only [read?, Option.bind_eq_bind, Option.bind_eq_some_iff, Prod.exists] at hr
    obtain ⟨r₁, h₁, r₂, h₂, name, r₃, h₃, r, h₄, hr⟩ := hr
    split at hr
    · rename_i r₄
      simp only [Option.bind_eq_some_iff, Prod.exists] at hr
      obtain ⟨kind, r₅, h₅, raw, h₆, hr⟩ := hr
      exact ⟨r₁, r₂, name, r₃, r₄, kind, r₅, raw, h₁, h₂, h₃, h₄, h₅, h₆,
        (Option.some.inj hr).symm⟩
    · cases hr
  · rintro ⟨r₁, r₂, name, r₃, r₄, kind, r₅, raw, h₁, h₂, h₃, h₄, h₅, h₆, rfl⟩
    simp only [read?, h₁, h₂, h₃, h₄, Option.bind_eq_bind, Option.bind_some, h₅, h₆]

/-- A header that can be written. -/
structure Regular (h : Header) : Prop where
  name : IsIdentifier h.name.toList
  kind : IsIdentifier h.kind.toList
  arg : ∀ a, h.arg = some a → IsArgument a.toList

/-- A header that is read can be written. -/
theorem regular_of_read? (hl : '\n' ∉ line) (h : read? line = some hd) : Regular hd := by
  obtain ⟨r₁, r₂, name, r₃, r₄, kind, r₅, raw, h₁, h₂, h₃, h₄, h₅, h₆, rfl⟩ :=
    read?_eq_some_iff.mp h
  obtain ⟨-, hn, -⟩ := identifier?_eq_some_iff.mp h₃
  obtain ⟨-, hk, -⟩ := identifier?_eq_some_iff.mp h₅
  have hs : r₅ <:+ line := by
    have h₄₅ : r₅ <:+ r₃ :=
      (suffix_of_identifier? h₅).trans ((List.suffix_cons ':' r₄).trans (suffix_of_afterGap? h₄))
    have h₂₃ : r₃ <:+ r₁ := (suffix_of_identifier? h₃).trans (suffix_of_afterGap? h₂)
    exact h₄₅.trans (h₂₃.trans (suffix_of_afterMark? h₁))
  refine ⟨by rwa [String.toList_ofList], by rwa [String.toList_ofList], fun a ha => ?_⟩
  obtain ⟨ht, hne⟩ := argumentOf_eq_some ha
  have hm : ∀ c ∈ trim raw, c ∈ r₅ ∧ c ≠ '(' ∧ c ≠ ')' :=
    fun c hc => mem_of_argument? h₆ c (mem_of_mem_trim hc)
  rw [ht]
  exact ⟨hne, trim_trim raw, fun c hc => (hm c hc).2, fun hc => hl (hs.subset (hm _ hc).1)⟩

/-- A header whose parts are set apart by gaps is read. -/
theorem read?_parts {gap₁ gap₂ gap₃ kind : List Char} (hg : ∀ gap ∈ [gap₁, gap₂, gap₃],
      gap ≠ [] ∧ ∀ c ∈ gap, isGap c = true)
    (hn : IsIdentifier name) (hk : IsIdentifier kind)
    (hr : ∀ c ∈ r.head?, isIdentPart c = false) (ha : argument? r = some raw) :
    read? ('-' :: '-' :: (gap₁ ++ ':' :: 'n' :: 'a' :: 'm' :: 'e' ::
        (gap₂ ++ (name ++ (gap₃ ++ ':' :: (kind ++ r)))))) =
      some ⟨String.ofList name, String.ofList kind, argumentOf raw⟩ := by
  have hp : ∀ c, isIdentPart c = true → isGap c = false := by
    intro c hc
    by_contra hg
    rw [Bool.not_eq_false, isGap, Bool.or_eq_true, beq_iff_eq, beq_iff_eq] at hg
    rcases hg with rfl | rfl
    · cases hc
    · cases hc
  have hb : ∀ c, isGap c = true → isIdentPart c = false := by
    intro c hc
    by_contra hi
    rw [hp c (by simpa using hi)] at hc
    cases hc
  obtain ⟨hg₁, hc₁⟩ := hg gap₁ (by simp)
  obtain ⟨hg₂, hc₂⟩ := hg gap₂ (by simp)
  obtain ⟨hg₃, hc₃⟩ := hg gap₃ (by simp)
  rw [read?_eq_some_iff]
  refine ⟨_, _, name, _, _, kind, r, raw, afterMark?_eq_some_iff.mpr ⟨gap₁, rfl, hg₁, hc₁⟩,
    afterGap?_append hg₂ hc₂ ?_, identifier?_eq_some_iff.mpr ⟨rfl, hn, ?_⟩,
    afterGap?_append hg₃ hc₃ ?_, identifier?_eq_some_iff.mpr ⟨rfl, hk, hr⟩, ha, rfl⟩
  · obtain ⟨c, t, rfl, hc, -⟩ := hn
    rintro d ⟨⟩
    exact hp c (isIdentPart_of_isIdentStart hc)
  · obtain ⟨c, t, rfl⟩ := List.exists_cons_of_ne_nil hg₃
    rintro d ⟨⟩
    exact hb c (hc₃ c List.mem_cons_self)
  · rintro d ⟨⟩
    rfl

end Header

end NamedSql
