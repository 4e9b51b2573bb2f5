/-!
# Blank characters and lines

Which characters count as white space, how text is trimmed by them, and how a text falls into lines
and other parts.

## Main definitions

* `isBlank` — the white space characters, those of the Unicode property White_Space
* `trimStart`, `trimEnd`, `trim` — a text without the blanks at one end or at both
* `lines` — the lines of a text, without their line ends
* `split` — the parts of a text between separators
* `byteLength`, `nulPosition?` — the size of a text in bytes, and where a NUL character stands in it

## Main results

* `trim_eq_nil_iff` — a text trims to nothing exactly when it is blank throughout
* `split_ne_nil`, `split_of_not_mem` — there is always a part, and only one without a separator
* `nulPosition?_eq_none_iff` — a text without a NUL character has no place for one
-/

namespace NamedSql.Text

/-- White space: the tabs and line ends of ASCII, the space, and twelve blanks beyond ASCII. -/
def isBlank (c : Char) : Bool :=
  let n := c.toNat
  (9 ≤ n && n ≤ 13) || n == 0x20 || n == 0x85 || n == 0xA0 || n == 0x1680 ||
    (0x2000 ≤ n && n ≤ 0x200A) || n == 0x2028 || n == 0x2029 || n == 0x202F || n == 0x205F ||
    n == 0x3000

/-! ### Trimming -/

/-- The text from its first character that is not blank on; what is blank goes by the table of all
of Unicode. -/
def trimStart (s : List Char) : List Char := s.dropWhile isBlank

/-- The text up to its last character that is not blank, computed from its start, so that proofs may
follow the text. -/
def trimEnd : List Char → List Char
  | [] => []
  | c :: r =>
    match trimEnd r with
    | [] => if isBlank c then [] else [c]
    | d :: t => c :: d :: t

/-- The text without blanks at either end. Blanks between other characters stay. -/
def trim (s : List Char) : List Char := trimEnd (trimStart s)

/-- The text of a string without blanks at either end. -/
def trimmed (s : String) : String := String.ofList (trim s.toList)

@[simp] theorem trimEnd_nil : trimEnd [] = [] := rfl

theorem trimEnd_eq_nil_iff {s : List Char} : trimEnd s = [] ↔ ∀ c ∈ s, isBlank c = true := by
  induction s with
  | nil => simp
  | cons c r ih =>
    cases h : trimEnd r with
    | nil =>
      have hr := ih.1 h
      by_cases hc : isBlank c = true <;> simp [trimEnd, h, hc]
      exact hr
    | cons d t =>
      have hr : ¬ ∀ x ∈ r, isBlank x = true := fun hb => by simp [ih.2 hb] at h
      simp only [trimEnd, h, List.mem_cons, forall_eq_or_imp, reduceCtorEq, false_iff, not_and]
      exact fun _ => hr

theorem trim_eq_nil_iff {s : List Char} : trim s = [] ↔ ∀ c ∈ s, isBlank c = true := by
  rw [trim, trimEnd_eq_nil_iff, trimStart]
  induction s with
  | nil => simp
  | cons c r ih =>
    by_cases hc : isBlank c = true
    · simp [List.dropWhile_cons_of_pos hc, ih, hc]
    · simp [List.dropWhile_cons_of_neg hc]

/-! ### Lines -/

/-- The lines of a text. A line ends with a line feed, or with a carriage return and a line feed;
what follows the last line end is a line only if it is not empty. -/
def lines : List Char → List (List Char)
  | [] => []
  | '\r' :: '\n' :: r => [] :: lines r
  | c :: r =>
    if c = '\n' then [] :: lines r
    else
      match lines r with
      | [] => [[c]]
      | l :: ls => (c :: l) :: ls

@[simp] theorem lines_nil : lines [] = [] := rfl

@[simp] theorem lines_newline (r : List Char) : lines ('\n' :: r) = [] :: lines r := by
  simp [lines]

/-! ### Parts -/

/-- The parts of a text between separators, of which there is one more than there are separators. -/
def split (separator : Char) : List Char → List (List Char)
  | [] => [[]]
  | c :: r =>
    if c = separator then [] :: split separator r
    else
      match split separator r with
      | part :: more => (c :: part) :: more
      | [] => [[c]]

theorem split_ne_nil (separator : Char) (s : List Char) : split separator s ≠ [] := by
  cases s with
  | nil => simp [split]
  | cons c r =>
    unfold split
    split
    · simp
    · split <;> simp

theorem split_of_not_mem {separator : Char} {s : List Char} (h : separator ∉ s) :
    split separator s = [s] := by
  induction s with
  | nil => rfl
  | cons c r ih =>
    have hc : c ≠ separator := fun e => h (e ▸ List.mem_cons_self)
    have hr := ih fun m => h (List.mem_cons_of_mem _ m)
    simp [split, hc, hr]

/-! ### Sizes -/

/-- The number of bytes that a text takes in UTF-8. -/
def byteLength (s : List Char) : Nat := s.foldr (fun c n => c.utf8Size + n) 0

@[simp] theorem byteLength_nil : byteLength [] = 0 := rfl

@[simp] theorem byteLength_cons (c : Char) (s : List Char) :
    byteLength (c :: s) = c.utf8Size + byteLength s := rfl

/-- The number of bytes before the first NUL character, if there is one. What is written in another
language ends there. -/
def nulPosition? (s : List Char) : Option Nat :=
  if s.contains '\x00' then some (byteLength (s.takeWhile (· != '\x00'))) else none

theorem nulPosition?_eq_none_iff {s : List Char} : nulPosition? s = none ↔ '\x00' ∉ s := by
  simp [nulPosition?]

end NamedSql.Text
