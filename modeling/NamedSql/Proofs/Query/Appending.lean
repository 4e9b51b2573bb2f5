import NamedSql.Proofs.Query.Rereading

/-!
# Texts one below the other

A text is read line by line, so what is read of two texts of which one stands below the other is
what is read of each of them, with the queries of the lower one as many lines further down as there
are lines above it. How a line ends does not matter: a carriage return is a blank, and what stands
behind the last line feed is a line unless it is blank.

## Scope

A body goes on until the next header, so the lower text must not go on with the body that is open at
the end of the upper one. Nothing is said of the errors of a text that cannot be read: they name
lines, and an upper text whose last query has no body is only found out where the lower one starts.

## Main definitions

* `Blocks.StandsAlone` — lines that do not go on with a body
* `QuerySpec.moved` — a query further down

## Main results

* `QuerySpec.readLines_append` — lines below other lines
* `QuerySpec.readAll_append` — a text below another one
-/

namespace NamedSql

open Text Blocks

namespace Text

/-! ### Parts of joined texts -/

theorem split_append_separator (separator : Char) (s t : List Char) :
    split separator (s ++ separator :: t) = split separator s ++ split separator t := by
  induction s with
  | nil =>
    rw [List.nil_append, split.eq_2, if_pos rfl]
    rfl
  | cons c s ih =>
    obtain ⟨part, parts, hs⟩ := List.exists_cons_of_ne_nil (split_ne_nil separator s)
    rw [hs] at ih
    rw [List.cons_append, split.eq_2, split.eq_2, ih, hs]
    split
    · rfl
    · rfl

theorem length_split (separator : Char) (s : List Char) :
    (split separator s).length = s.count separator + 1 := by
  induction s with
  | nil => rfl
  | cons c s ih =>
    obtain ⟨part, parts, hs⟩ := List.exists_cons_of_ne_nil (split_ne_nil separator s)
    rw [hs, List.length_cons] at ih
    rw [split, hs, List.count_cons]
    by_cases hc : c = separator
    · rw [if_pos hc, if_pos (beq_iff_eq.mpr hc), List.length_cons, List.length_cons, ih]
    · rw [if_neg hc, if_neg (mt beq_iff_eq.mp hc), List.length_cons, ih]

end Text

namespace Blocks

variable {l : List Char} {ls : List (List Char)}

/-- Lines that do not go on with a body: the first one that is not blank, if there is one, is no
body line. -/
def StandsAlone (ls : List (List Char)) : Prop :=
  ∀ l, ls.find? (fun l => trim l ≠ []) = some l → ¬IsBody l

instance : DecidablePred StandsAlone := fun ls =>
  match h : ls.find? (fun l => trim l ≠ []) with
  | none => isTrue fun _ hl => nomatch h.symm.trans hl
  | some l => decidable_of_iff (¬IsBody l)
      ⟨fun hb _ hm => Option.some.inj (h.symm.trans hm) ▸ hb, fun hs => hs l h⟩

theorem standsAlone_nil : StandsAlone [] := fun _ hl => nomatch hl

theorem standsAlone_cons_iff :
    StandsAlone (l :: ls) ↔ ¬IsBody l ∧ (trim l = [] → StandsAlone ls) := by
  by_cases ht : trim l = []
  · have hf := List.find?_cons_of_neg (p := fun l => decide (trim l ≠ [])) (l := ls)
      (a := l) (by simpa using ht)
    rw [StandsAlone, hf]
    exact ⟨fun h => ⟨fun hb => hb.1 ht, fun _ => h⟩, fun h => h.2 ht⟩
  · have hf := List.find?_cons_of_pos (p := fun l => decide (trim l ≠ [])) (l := ls)
      (a := l) (by simpa using ht)
    rw [StandsAlone, hf]
    refine ⟨fun h => ⟨h l rfl, fun hn => absurd hn ht⟩, fun h m hm => ?_⟩
    rw [← Option.some.inj hm]
    exact h.1

/-! ### The ends of lines -/

theorem trimEnd_withoutReturn (l : List Char) : trimEnd (withoutReturn l) = trimEnd l := by
  rw [withoutReturn]
  split
  · rename_i hl
    obtain ⟨s, rfl⟩ := List.getLast?_eq_some_iff.mp hl
    rw [List.dropLast_concat, trimEnd_append_blank rfl]
  · rfl

theorem trim_withoutReturn (l : List Char) : trim (withoutReturn l) = trim l := by
  rw [withoutReturn]
  split
  · rename_i hl
    obtain ⟨s, rfl⟩ := List.getLast?_eq_some_iff.mp hl
    rw [List.dropLast_concat, trim_append_blank rfl]
  · rfl

theorem of_withoutReturn (l : List Char) : Line.of (withoutReturn l) = Line.of l := by
  rw [Line.of, Line.of, trim_withoutReturn, trimEnd_withoutReturn]

theorem isBody_withoutReturn (l : List Char) : IsBody (withoutReturn l) ↔ IsBody l := by
  rw [IsBody, IsBody, headerLike_iff, headerLike_iff, trim_withoutReturn, trimEnd_withoutReturn]

/-- Lines that stand alone still do if what stands behind the last line feed counts as a line. -/
theorem StandsAlone.map_withoutReturn {parts : List (List Char)} (h : StandsAlone (linesOf parts)) :
    StandsAlone (parts.map withoutReturn) := by
  fun_induction linesOf parts with
  | case1 => exact standsAlone_nil
  | case2 => exact standsAlone_cons_iff.mpr ⟨fun hb => hb.1 rfl, fun _ => standsAlone_nil⟩
  | case3 last hn =>
    obtain ⟨hb, -⟩ := standsAlone_cons_iff.mp h
    exact standsAlone_cons_iff.mpr ⟨mt (isBody_withoutReturn last).mp hb, fun _ => standsAlone_nil⟩
  | case4 part parts hn ih =>
    obtain ⟨hb, ht⟩ := standsAlone_cons_iff.mp h
    exact standsAlone_cons_iff.mpr ⟨hb, fun hp => ih (ht hp)⟩

end Blocks

namespace QuerySpec

variable {ls ms : List (List Char)} {current : Option QuerySpec} {specs : List QuerySpec}

/-- Reading looks at a line without the blanks at its end. -/
theorem readLines_cons_congr {l l' : List Char} {rest rest' : List (List Char)}
    (hl : Line.of l = Line.of l') (ht : trimEnd l = trimEnd l')
    (hr : ∀ current number, readLines current number rest = readLines current number rest')
    (current : Option QuerySpec) (number : Nat) :
    readLines current number (l :: rest) = readLines current number (l' :: rest') := by
  rw [readLines, readLines, hl, ht]
  simp only [hr]

theorem readLines_nil (current : Option QuerySpec) (number number' : Nat) :
    readLines current number [] = readLines current number' [] := by
  cases current with
  | none => rfl
  | some spec => rfl

/-- Lines are read as what stands between the line feeds, without carriage returns. -/
theorem readLines_linesOf (parts : List (List Char)) (current : Option QuerySpec) (number : Nat) :
    readLines current number (linesOf parts) =
      readLines current number (parts.map withoutReturn) := by
  fun_induction linesOf parts generalizing current number with
  | case1 => rfl
  | case2 =>
    have hl : Line.of (withoutReturn []) = .blank := rfl
    rw [List.map_singleton, readLines_blank hl]
    exact readLines_nil current number (number + 1)
  | case3 last hn =>
    exact readLines_cons_congr (of_withoutReturn last).symm (trimEnd_withoutReturn last).symm
      (fun _ _ => rfl) current number
  | case4 part parts hn ih => exact readLines_cons_congr rfl rfl ih current number

/-! ### Lines below other lines -/

/-- The query as many lines further down. -/
def moved (spec : QuerySpec) (count : Nat) : QuerySpec := { spec with line := spec.line + count }

/-- At a header the query that is open is finished, and that of the header is opened. -/
theorem readLines_header_eq_ok_iff {l : List Char} {header : Header}
    (hl : Line.of l = .header header) (current : Option QuerySpec) (number : Nat) :
    readLines current number (l :: ls) = .ok specs ↔ ∃ xs ys,
      readLines current number [] = .ok xs ∧
        readLines (some (opened header number)) (number + 1) ls = .ok ys ∧ specs = xs ++ ys := by
  rw [readLines, hl]
  cases current with
  | none =>
    refine ⟨fun hr => ⟨[], specs, rfl, hr, rfl⟩, ?_⟩
    rintro ⟨xs, ys, ⟨⟩, hy, rfl⟩
    exact hy
  | some spec =>
    rw [readLines]
    dsimp only
    cases spec.finish with
    | error e =>
      constructor
      · rintro ⟨⟩
      · rintro ⟨_, _, ⟨⟩, _⟩
    | ok spec =>
      cases readLines (some (opened header number)) (number + 1) ls with
      | error e =>
        constructor
        · rintro ⟨⟩
        · rintro ⟨_, _, _, ⟨⟩, _⟩
      | ok ys =>
        constructor
        · rintro ⟨⟩
          exact ⟨[spec], ys, rfl, rfl, rfl⟩
        · rintro ⟨_, _, ⟨⟩, ⟨⟩, rfl⟩
          rfl

/-- Lines that stand alone finish the query that is open before them. -/
theorem readLines_of_standsAlone (h : StandsAlone ms) (current : Option QuerySpec) (number : Nat) :
    readLines current number ms = .ok specs ↔ ∃ xs ys, readLines current number [] = .ok xs ∧
      readLines none number ms = .ok ys ∧ specs = xs ++ ys := by
  induction ms generalizing number with
  | nil =>
    refine ⟨fun hr => ⟨specs, [], hr, rfl, (List.append_nil specs).symm⟩, ?_⟩
    rintro ⟨xs, ys, hx, ⟨⟩, rfl⟩
    rwa [List.append_nil]
  | cons l ms ih =>
    obtain ⟨hb, hs⟩ := standsAlone_cons_iff.mp h
    by_cases ht : trim l = []
    · rw [readLines_blank (Line.of_blank ht), readLines_blank (Line.of_blank ht),
        readLines_nil _ number (number + 1)]
      exact ih (hs ht) (number + 1)
    have hh : HeaderLike l := by
      by_contra hh
      exact hb ⟨ht, hh⟩
    cases hr : Header.read? (trimEnd l) with
    | none =>
      rw [readLines, readLines, Line.of_malformed hh hr]
      constructor
      · rintro ⟨⟩
      · rintro ⟨_, _, _, ⟨⟩, _⟩
    | some header =>
      have hl : Line.of l = .header header := Line.of_header hh hr
      have hn : readLines none number (l :: ms) =
          readLines (some (opened header number)) (number + 1) ms := by
        rw [readLines, hl]
      rw [hn]
      exact readLines_header_eq_ok_iff hl current number

/-- **Lines that stand alone are read below others as on their own.** -/
theorem readLines_append (h : StandsAlone ms) (current : Option QuerySpec) (number : Nat) :
    readLines current number (ls ++ ms) = .ok specs ↔ ∃ xs ys,
      readLines current number ls = .ok xs ∧ readLines none (number + ls.length) ms = .ok ys ∧
        specs = xs ++ ys := by
  induction ls generalizing current number specs with
  | nil => exact readLines_of_standsAlone h current number
  | cons l ls ih =>
    have hn : number + (l :: ls).length = number + 1 + ls.length := by
      rw [List.length_cons, Nat.add_right_comm, Nat.add_assoc]
    rw [List.cons_append, hn]
    cases hl : Line.of l with
    | blank =>
      rw [readLines_blank hl, readLines_blank hl]
      exact ih current (number + 1)
    | malformed =>
      rw [readLines, readLines, hl]
      constructor
      · rintro ⟨⟩
      · rintro ⟨_, _, ⟨⟩, _⟩
    | body text =>
      rw [readLines, readLines, hl]
      cases current with
      | none =>
        constructor
        · rintro ⟨⟩
        · rintro ⟨_, _, ⟨⟩, _⟩
      | some spec => exact ih (some (spec.addLine text)) (number + 1)
    | header header =>
      simp only [readLines_header_eq_ok_iff hl, ih]
      constructor
      · rintro ⟨xs, _, hx, ⟨ys, zs, hy, hz, rfl⟩, rfl⟩
        exact ⟨xs ++ ys, zs, ⟨xs, ys, hx, hy, rfl⟩, hz, (List.append_assoc xs ys zs).symm⟩
      · rintro ⟨_, zs, ⟨xs, ys, hx, hy, rfl⟩, hz, rfl⟩
        exact ⟨xs, ys ++ zs, hx, ⟨ys, zs, hy, hz, rfl⟩, List.append_assoc xs ys zs⟩

theorem readLines_nil_moved (count : Nat) (current : Option QuerySpec) (number : Nat) :
    readLines (current.map (·.moved count)) (number + count) [] = .ok specs ↔
      ∃ xs, readLines current number [] = .ok xs ∧ specs = xs.map (·.moved count) := by
  cases current with
  | none =>
    constructor
    · rintro ⟨⟩
      exact ⟨[], rfl, rfl⟩
    · rintro ⟨_, ⟨⟩, rfl⟩
      rfl
  | some spec =>
    rw [Option.map_some, readLines, readLines, finish, finish, moved]
    dsimp only
    split
    · constructor
      · rintro ⟨⟩
      · rintro ⟨_, ⟨⟩, _⟩
    · constructor
      · rintro ⟨⟩
        exact ⟨[spec], rfl, rfl⟩
      · rintro ⟨_, ⟨⟩, rfl⟩
        rfl

/-- **Further down the same is read further down.** -/
theorem readLines_moved (ls : List (List Char)) (count : Nat) (current : Option QuerySpec)
    (number : Nat) :
    readLines (current.map (·.moved count)) (number + count) ls = .ok specs ↔
      ∃ xs, readLines current number ls = .ok xs ∧ specs = xs.map (·.moved count) := by
  induction ls generalizing current number specs with
  | nil => exact readLines_nil_moved count current number
  | cons l ls ih =>
    have hn : number + count + 1 = number + 1 + count := Nat.add_right_comm number count 1
    cases hl : Line.of l with
    | blank =>
      rw [readLines_blank hl, readLines_blank hl, hn]
      exact ih current (number + 1)
    | malformed =>
      rw [readLines, readLines, hl]
      constructor
      · rintro ⟨⟩
      · rintro ⟨_, ⟨⟩, _⟩
    | body text =>
      rw [readLines, readLines, hl]
      cases current with
      | none =>
        constructor
        · rintro ⟨⟩
        · rintro ⟨_, ⟨⟩, _⟩
      | some spec =>
        rw [Option.map_some, hn]
        exact ih (some (spec.addLine text)) (number + 1)
    | header header =>
      simp only [readLines_header_eq_ok_iff hl, readLines_nil_moved, hn]
      have ho : ∀ ys,
          readLines (some (opened header (number + count))) (number + 1 + count) ls = .ok ys ↔
            ∃ xs, readLines (some (opened header number)) (number + 1) ls = .ok xs ∧
              ys = xs.map (·.moved count) :=
        fun ys => ih (some (opened header number)) (number + 1)
      simp only [ho]
      constructor
      · rintro ⟨_, _, ⟨xs, hx, rfl⟩, ⟨ys, hy, rfl⟩, rfl⟩
        exact ⟨xs ++ ys, ⟨xs, ys, hx, hy, rfl⟩, List.map_append.symm⟩
      · rintro ⟨_, ⟨xs, ys, hx, hy, rfl⟩, rfl⟩
        exact ⟨_, _, ⟨xs, hx, rfl⟩, ⟨ys, hy, rfl⟩, List.map_append⟩

/-- **What is read of a text below another one is what is read of each of them**, with the queries
of the lower one further down by the lines above it. -/
theorem readAll_append {a b : String} (h : StandsAlone (linesOfText b)) :
    readAll (a ++ "\n" ++ b) = .ok specs ↔ ∃ xs ys, readAll a = .ok xs ∧ readAll b = .ok ys ∧
      specs = xs ++ ys.map (·.moved (a.toList.count '\n' + 1)) := by
  have hr : ∀ s : String,
      readAll s = readLines none 1 ((split '\n' s.toList).map withoutReturn) := by
    intro s
    rw [readAll, lines_eq_linesOf, readLines_linesOf]
  have ht : (a ++ "\n" ++ b).toList = a.toList ++ '\n' :: b.toList := by simp
  have hm := fun ys => @readLines_moved ys ((split '\n' b.toList).map withoutReturn)
    (a.toList.count '\n' + 1) none 1
  rw [hr, hr, hr, ht, split_append_separator, List.map_append,
    readLines_append (StandsAlone.map_withoutReturn h), List.length_map, length_split]
  constructor
  · rintro ⟨xs, ys, hx, hy, rfl⟩
    obtain ⟨zs, hz, rfl⟩ := (hm ys).mp hy
    exact ⟨xs, zs, hx, hz, rfl⟩
  · rintro ⟨xs, ys, hx, hy, rfl⟩
    exact ⟨xs, _, hx, (hm _).mpr ⟨ys, hy, rfl⟩, rfl⟩

end QuerySpec

end NamedSql
