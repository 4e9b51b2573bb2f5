import NamedSql.Sql.Token

/-!
# A line feed behind a text

No token goes on over a line feed and no comment on one line does. What waits for its end, a comment
over several lines or something between quotes, makes no sense without it. So a text with a line
feed behind it has the tokens that it has without, up to a token with which no statement goes on.

## Scope

The tokens behind such a token may be others. A text that ends with a slash and a star has two
symbols at its end, which a line feed behind them turns into a comment.

## Main definitions

* `Token.IsDead` — tokens that no statement goes on with and none ends with
* `Token.Lexed`, `Token.Steady` — how what a text starts with may change

## Main results

* `Token.lexeme_newline` — what a text starts with, with a line feed behind it and without
* `Token.scan_newline` — the tokens of a text with a line feed behind it
-/

namespace NamedSql.Sql

namespace Token

variable {r s : List Char} {c : Char}

/-! ### Texts with a line feed behind them -/

theorem takeWhile_newline {p : Char → Bool} (h : p '\n' = false) (s : List Char) :
    (s ++ ['\n']).takeWhile p = s.takeWhile p := by
  rw [List.takeWhile_append]
  split
  · rename_i hs
    rw [List.takeWhile_cons_of_neg (by simp [h]), List.append_nil]
    exact (List.IsPrefix.eq_of_length (List.takeWhile_prefix p) hs).symm
  · rfl

theorem length_takeWhile_le (p : Char → Bool) (s : List Char) :
    (s.takeWhile p).length ≤ s.length :=
  (List.takeWhile_prefix p).length_le

/-- A text goes on in some way with a line feed behind it only if it does so without. -/
theorem newline_ne_cons {c : Char} (hc : c ≠ '\n') (h : ∀ t, r ≠ c :: t) (t : List Char) :
    r ++ ['\n'] ≠ c :: t := by
  cases r with
  | nil => exact fun he => hc (List.cons.inj he).1.symm
  | cons d r => exact fun he => h r (congrArg (· :: r) (List.cons.inj he).1)

/-! ### Comments -/

theorem lineCommentLength_newline (r : List Char) :
    lineCommentLength (r ++ ['\n']) = lineCommentLength r :=
  congrArg List.length (takeWhile_newline rfl r)

theorem lineCommentLength_le (r : List Char) : lineCommentLength r ≤ r.length :=
  length_takeWhile_le _ r

/-- A comment over several lines ends where it ended, or goes on to the end of the text. -/
theorem blockCommentLength_newline (r : List Char) :
    blockCommentLength (r ++ ['\n']) = blockCommentLength r ∧ blockCommentLength r ≤ r.length ∨
      blockCommentLength r = r.length ∧ blockCommentLength (r ++ ['\n']) = r.length + 1 := by
  induction r using blockCommentLength.induct with
  | case1 => exact Or.inr ⟨rfl, rfl⟩
  | case2 r => exact Or.inl ⟨by simp [blockCommentLength], by simp [blockCommentLength]⟩
  | case3 r hn => exact Or.inl ⟨rfl, Nat.zero_le _⟩
  | case4 c r hn hc ih =>
    have hn' : ∀ t, c = '*' → r ++ ['\n'] = '/' :: t → False := fun t he =>
      newline_ne_cons (by decide) (fun t => hn t he) t
    rw [List.cons_append, blockCommentLength.eq_3 c r hn, if_neg hc,
      blockCommentLength.eq_3 c (r ++ ['\n']) hn', if_neg hc, List.length_cons]
    omega

/-! ### Quoted texts -/

theorem quotedLength?_newline {quote : Char} (hn : quote ≠ '\n') (h₀ : quote ≠ '\x00')
    (r : List Char) : quotedLength? quote (r ++ ['\n']) = quotedLength? quote r := by
  induction r using quotedLength?.induct quote with
  | case1 => exact if_neg hn.symm
  | case2 =>
    rw [List.singleton_append, quotedLength?.eq_3, if_neg h₀, if_pos rfl, if_neg hn.symm,
      quotedLength?, if_pos rfl]
  | case3 c hc =>
    have hl : quotedLength? quote ['\n'] = none := if_neg hn.symm
    rw [List.singleton_append, quotedLength?.eq_3, if_neg hc, hl, quotedLength?, if_neg hc,
      Option.map_none, ite_self]
  | case4 d r =>
    rw [List.cons_append, List.cons_append, quotedLength?, quotedLength?, if_pos rfl, if_pos rfl]
  | case5 r hd ih =>
    rw [List.cons_append, List.cons_append, quotedLength?, quotedLength?, if_neg h₀, if_neg h₀,
      if_pos rfl, if_pos rfl, if_pos rfl, if_pos rfl, ih]
  | case6 d r hc hd =>
    rw [List.cons_append, List.cons_append, quotedLength?, quotedLength?, if_neg h₀, if_neg h₀,
      if_pos rfl, if_pos rfl, if_neg hc, if_neg hc]
  | case7 c d r hc hq ih =>
    rw [List.cons_append, List.cons_append, quotedLength?, quotedLength?, if_neg hq, if_neg hq,
      ← List.cons_append, ih]

theorem le_of_quotedLength? {quote : Char} {n : Nat} (h : quotedLength? quote r = some n) :
    n ≤ r.length := by
  fun_induction quotedLength? quote r generalizing n with
  | case1 => cases h
  | case2 => cases h; exact Nat.le_refl 1
  | case3 => cases h
  | case4 => cases h
  | case5 r hd ih =>
    obtain ⟨m, hm, rfl⟩ := Option.map_eq_some_iff.mp h
    exact Nat.add_le_add_right (ih hm) 2
  | case6 => cases h; exact Nat.succ_le_succ (Nat.zero_le _)
  | case7 c d r hc hq ih =>
    obtain ⟨m, hm, rfl⟩ := Option.map_eq_some_iff.mp h
    exact Nat.succ_le_succ (ih hm)

/-! ### Numbers -/

theorem exponentLength_newline (r : List Char) :
    exponentLength (r ++ ['\n']) = exponentLength r := by
  have hw := takeWhile_newline (p := isDigit) rfl
  rcases r with _ | ⟨e, _ | ⟨d, _ | ⟨c, t⟩⟩⟩
  · rfl
  · simp [exponentLength, isDigit]
  · have hd : isDigit '\n' = false := rfl
    by_cases h : isDigit d = true
    · simp [exponentLength, hd, h]
    · simp [exponentLength, hd, h]
  · simp only [List.cons_append, exponentLength, List.takeWhile_cons, hw]

theorem exponentLength_le (r : List Char) : exponentLength r ≤ r.length := by
  have hw := length_takeWhile_le isDigit
  fun_cases exponentLength r with
  | case1 e he s d t =>
    have hl := hw (s :: d :: t)
    simp only [List.length_cons] at hl ⊢
    omega
  | case2 e he s d t =>
    have hl := hw (d :: t)
    simp only [List.length_cons] at hl ⊢
    omega
  | case4 => exact Nat.le_refl 2
  | _ => exact Nat.zero_le _

/-- The length of a hexadecimal number, if one stands here. -/
def hexLength? : List Char → Option Nat
  | '0' :: x :: h :: r =>
    if (x == 'x' || x == 'X') && isHexDigit h then
      some (2 + ((h :: r).takeWhile isHexDigit).length)
    else none
  | _ => none

/-- The length of the digits that a text starts with, which may be none. -/
def wholeLength (s : List Char) : Nat := (s.takeWhile isDigit).length

/-- The length of a fraction, if one stands here. -/
def fractionLength : List Char → Nat
  | '.' :: r => 1 + (r.takeWhile isDigit).length
  | _ => 0

/-- The length of a number without its exponent: its digits and its fraction. -/
def plainLength (s : List Char) : Nat := wholeLength s + fractionLength (s.drop (wholeLength s))

/-- The length of a number, with its exponent if it has one. -/
def decimalLength (s : List Char) : Nat := plainLength s + exponentLength (s.drop (plainLength s))

theorem number_eq (s : List Char) :
    number s =
      match hexLength? s with
      | some n => (.integer, n)
      | none =>
        let junk := ((s.drop (decimalLength s)).takeWhile isNameChar).length
        if junk ≠ 0 then (.illegal, decimalLength s + junk)
        else if fractionLength (s.drop (wholeLength s)) = 0 ∧
            exponentLength (s.drop (plainLength s)) = 0 then (.integer, decimalLength s)
        else (.real, decimalLength s) := rfl

theorem hexLength?_newline (s : List Char) : hexLength? (s ++ ['\n']) = hexLength? s := by
  have hw := takeWhile_newline (p := isHexDigit) rfl
  have hh : isHexDigit '\n' = false := rfl
  rcases s with _ | ⟨a, _ | ⟨b, _ | ⟨c, t⟩⟩⟩
  · rfl
  · simp [hexLength?]
  · by_cases ha : a = '0'
    · simp [hexLength?, ha, hh]
    · simp [hexLength?, ha]
  · by_cases ha : a = '0'
    · subst ha
      rw [List.cons_append, List.cons_append, List.cons_append, hexLength?, hexLength?,
        ← List.cons_append, hw]
    · simp [hexLength?, ha]

theorem le_of_hexLength? {n : Nat} (h : hexLength? s = some n) : 0 < n ∧ n ≤ s.length := by
  fun_cases hexLength? s with
  | case1 x d r hx =>
    rw [hexLength?, if_pos hx] at h
    cases h
    have hl := length_takeWhile_le isHexDigit (d :: r)
    simp only [List.length_cons] at hl ⊢
    omega
  | case2 x d r hx =>
    rw [hexLength?, if_neg hx] at h
    cases h
  | case3 s hn =>
    rw [hexLength?.eq_2 s hn] at h
    cases h

theorem wholeLength_le (s : List Char) : wholeLength s ≤ s.length := length_takeWhile_le isDigit s

theorem wholeLength_newline (s : List Char) : wholeLength (s ++ ['\n']) = wholeLength s :=
  congrArg List.length (takeWhile_newline rfl s)

theorem fractionLength_newline (s : List Char) :
    fractionLength (s ++ ['\n']) = fractionLength s := by
  have hw := takeWhile_newline (p := isDigit) rfl
  fun_cases fractionLength s with
  | case1 r => rw [List.cons_append, fractionLength, hw]
  | case2 s hn =>
    rw [fractionLength]
    exact newline_ne_cons (by decide) hn

theorem fractionLength_le (s : List Char) : fractionLength s ≤ s.length := by
  fun_cases fractionLength s with
  | case1 r =>
    have hl := length_takeWhile_le isDigit r
    rw [List.length_cons]
    omega
  | case2 => exact Nat.zero_le _

theorem plainLength_le (s : List Char) : plainLength s ≤ s.length := by
  have hw := wholeLength_le s
  have hf := fractionLength_le (s.drop (wholeLength s))
  rw [List.length_drop] at hf
  rw [plainLength]
  omega

theorem plainLength_newline (s : List Char) : plainLength (s ++ ['\n']) = plainLength s := by
  rw [plainLength, plainLength, wholeLength_newline,
    List.drop_append_of_le_length (wholeLength_le s), fractionLength_newline]

theorem decimalLength_le (s : List Char) : decimalLength s ≤ s.length := by
  have hp := plainLength_le s
  have he := exponentLength_le (s.drop (plainLength s))
  rw [List.length_drop] at he
  rw [decimalLength]
  omega

theorem decimalLength_newline (s : List Char) :
    decimalLength (s ++ ['\n']) = decimalLength s := by
  rw [decimalLength, decimalLength, plainLength_newline,
    List.drop_append_of_le_length (plainLength_le s), exponentLength_newline]

theorem number_newline (s : List Char) : number (s ++ ['\n']) = number s := by
  rw [number_eq, number_eq, hexLength?_newline, decimalLength_newline, wholeLength_newline,
    plainLength_newline, List.drop_append_of_le_length (decimalLength_le s),
    List.drop_append_of_le_length (plainLength_le s),
    List.drop_append_of_le_length (wholeLength_le s), exponentLength_newline,
    fractionLength_newline, takeWhile_newline rfl]

theorem number_le (s : List Char) : (number s).2 ≤ s.length := by
  have hd := decimalLength_le s
  have hj := length_takeWhile_le isNameChar (s.drop (decimalLength s))
  rw [List.length_drop] at hj
  rw [number_eq]
  cases hh : hexLength? s with
  | some n => exact (le_of_hexLength? hh).2
  | none =>
    dsimp only
    split
    · dsimp only
      omega
    · split
      · exact hd
      · exact hd

theorem number_pos (h : 0 < plainLength s) : 0 < (number s).2 := by
  have hd : 0 < decimalLength s := Nat.lt_of_lt_of_le h (Nat.le_add_right _ _)
  rw [number_eq]
  cases hh : hexLength? s with
  | some n => exact (le_of_hexLength? hh).1
  | none =>
    dsimp only
    split
    · exact Nat.lt_of_lt_of_le hd (Nat.le_add_right _ _)
    · split
      · exact hd
      · exact hd

/-! ### Parameters -/

theorem parameterLength_newline (named : Bool) (r : List Char) :
    parameterLength named (r ++ ['\n']) = parameterLength named r := by
  have hcolon : ∀ {c : Char} {r : List Char}, (∀ t, c = ':' → r = ':' :: t → False) →
      ∀ t, c = ':' → r ++ ['\n'] = ':' :: t → False := fun hn t hc =>
    newline_ne_cons (by decide) (fun t => hn t hc) t
  induction named, r using parameterLength.induct with
  | case1 named => cases named <;> rfl
  | case2 named r kind n hr ih =>
    rw [List.cons_append, List.cons_append, parameterLength, parameterLength, ih]
  | case3 named c r hn hc kind n hr ih =>
    rw [List.cons_append, parameterLength.eq_3 named c r hn,
      parameterLength.eq_3 named c _ (hcolon hn), if_pos hc, if_pos hc, ih]
  | case4 named c r hn hc hp inner t ht =>
    have hi := takeWhile_newline (p := fun c => !isSpace c && c != ')' && c != '\x00') rfl r
    rw [List.cons_append, parameterLength.eq_3 named c r hn,
      parameterLength.eq_3 named c _ (hcolon hn), if_neg hc, if_neg hc, if_pos hp, if_pos hp, hi]
    dsimp only
    rw [List.drop_append_of_le_length (length_takeWhile_le _ r), ht]
    rfl
  | case5 named c r hn hc hp inner ht =>
    have hi := takeWhile_newline (p := fun c => !isSpace c && c != ')' && c != '\x00') rfl r
    rw [List.cons_append, parameterLength.eq_3 named c r hn,
      parameterLength.eq_3 named c _ (hcolon hn), if_neg hc, if_neg hc, if_pos hp, if_pos hp, hi]
    dsimp only
    rw [List.drop_append_of_le_length (length_takeWhile_le _ r)]
    split
    · rename_i t he
      exact absurd he (newline_ne_cons (by decide) ht t)
    · rfl
  | case6 named c r hn hc hp =>
    rw [List.cons_append, parameterLength.eq_3 named c r hn,
      parameterLength.eq_3 named c _ (hcolon hn), if_neg hc, if_neg hc, if_neg hp, if_neg hp]

theorem parameterLength_le (named : Bool) (r : List Char) :
    (parameterLength named r).2 ≤ r.length := by
  fun_induction parameterLength named r with
  | case1 => exact Nat.zero_le _
  | case2 named r kind n hr ih =>
    rw [hr] at ih
    exact Nat.add_le_add_right ih 2
  | case3 named c r hn hc kind n hr ih =>
    rw [hr] at ih
    exact Nat.add_le_add_right ih 1
  | case4 named c r hn hc hp inner t ht =>
    have hl := congrArg List.length ht
    rw [List.length_drop, List.length_cons] at hl
    dsimp only [List.length_cons]
    omega
  | case5 named c r hn hc hp inner ht => exact Nat.add_le_add_right (length_takeWhile_le _ r) 1
  | case6 => exact Nat.zero_le _

/-! ### Symbols -/

theorem symbolLength?_newline (hs : s ≠ []) : symbolLength? (s ++ ['\n']) = symbolLength? s := by
  have hq : ∀ {c d x : Char} {r : List Char}, x ≠ '\n' → (∀ t, c = d → r = x :: t → False) →
      ∀ t, c = d → r ++ ['\n'] = x :: t → False := fun hx h t hc =>
    newline_ne_cons hx (fun t => h t hc) t
  -- Where no symbol of several characters stands, none stands before the line feed.
  have hn : ∀ (c : Char) (r : List Char),
      (∀ t, c = '-' → r = '>' :: '>' :: t → False) → (∀ t, c = '-' → r = '>' :: t → False) →
      (∀ t, c = '=' → r = '=' :: t → False) → (∀ t, c = '<' → r = '=' :: t → False) →
      (∀ t, c = '<' → r = '>' :: t → False) → (∀ t, c = '<' → r = '<' :: t → False) →
      (∀ t, c = '>' → r = '=' :: t → False) → (∀ t, c = '>' → r = '>' :: t → False) →
      (∀ t, c = '!' → r = '=' :: t → False) → (∀ t, c = '|' → r = '|' :: t → False) →
      symbolLength? (c :: r ++ ['\n']) = symbolLength? (c :: r) := by
    intro c r h₁ h₂ h₃ h₄ h₅ h₆ h₇ h₈ h₉ h₁₀
    rw [List.cons_append, symbolLength?.eq_11 c r h₁ h₂ h₃ h₄ h₅ h₆ h₇ h₈ h₉ h₁₀,
      symbolLength?.eq_11 c _ (fun t hc he => hq (by decide) h₂ ('>' :: t) hc he)
        (hq (by decide) h₂) (hq (by decide) h₃) (hq (by decide) h₄) (hq (by decide) h₅)
        (hq (by decide) h₆) (hq (by decide) h₇) (hq (by decide) h₈) (hq (by decide) h₉)
        (hq (by decide) h₁₀)]
  induction s using symbolLength?.fun_cases with
  | case2 t h =>
    rw [List.cons_append, List.cons_append, symbolLength?.eq_2 t h,
      symbolLength?.eq_2 _ (newline_ne_cons (by decide) h)]
  | case11 c r h₁ h₂ h₃ h₄ h₅ h₆ h₇ h₈ h₉ h₁₀ hc => exact hn c r h₁ h₂ h₃ h₄ h₅ h₆ h₇ h₈ h₉ h₁₀
  | case12 c r h₁ h₂ h₃ h₄ h₅ h₆ h₇ h₈ h₉ h₁₀ hc => exact hn c r h₁ h₂ h₃ h₄ h₅ h₆ h₇ h₈ h₉ h₁₀
  | case13 => exact absurd rfl hs
  | _ => rfl

theorem symbolLength?_le {n : Nat} (h : symbolLength? s = some n) : 0 < n ∧ n ≤ s.length := by
  fun_cases symbolLength? s with
  | case2 t hn =>
    rw [symbolLength?.eq_2 t hn] at h
    cases h
    simp
  | case11 c r h₁ h₂ h₃ h₄ h₅ h₆ h₇ h₈ h₉ h₁₀ hc =>
    rw [symbolLength?.eq_11 c r h₁ h₂ h₃ h₄ h₅ h₆ h₇ h₈ h₉ h₁₀, if_pos hc] at h
    cases h
    simp
  | case12 c r h₁ h₂ h₃ h₄ h₅ h₆ h₇ h₈ h₉ h₁₀ hc =>
    rw [symbolLength?.eq_11 c r h₁ h₂ h₃ h₄ h₅ h₆ h₇ h₈ h₉ h₁₀, if_neg hc] at h
    cases h
  | case13 => cases h
  | _ =>
    cases h
    simp

/-! ### What a text starts with -/

/-- Tokens that no statement goes on with and none ends with. -/
def IsDead (t : Token) : Prop := t.kind = .illegal ∨ t.isSymbol "/" = true

/-- How what a text starts with may change when a line feed is put behind the text. -/
inductive Lexed (s : List Char) : Prop
  /-- It stays, and at least one character is passed. -/
  | kept (h : lexeme (s ++ ['\n']) = lexeme s) (pos : 0 < (lexeme s).2)
      (le : (lexeme s).2 ≤ s.length)
  /-- It is a comment without an end, or the blanks that the text ends with. -/
  | comment (h : (lexeme s).1 = none) (le : s.length ≤ (lexeme s).2)
      (h' : (lexeme (s ++ ['\n'])).1 = none) (le' : s.length < (lexeme (s ++ ['\n'])).2)
  /-- It makes no sense, whether or not the text goes on. -/
  | dead (kind : TokenKind) (n : Nat) (h : lexeme s = (some kind, n))
      (hd : ∀ offset, IsDead ⟨kind, s.take n, offset⟩)

theorem Lexed.of_eq {kind : Option TokenKind} {n : Nat} (h : lexeme s = (kind, n))
    (h' : lexeme (s ++ ['\n']) = (kind, n)) (pos : 0 < n) (le : n ≤ s.length) : Lexed s :=
  .kept (h'.trans h.symm) (by rwa [h]) (by rwa [h])

/-- What a text starts with stays as it is, or makes no sense. -/
def Steady (s : List Char) (x x' : Option TokenKind × Nat) : Prop :=
  (∃ n, x = (some .illegal, n)) ∨ x' = x ∧ 0 < x.2 ∧ x.2 ≤ s.length

theorem Steady.lexed {x x' : Option TokenKind × Nat} (hs : Steady s x x') (h : lexeme s = x)
    (h' : lexeme (s ++ ['\n']) = x') : Lexed s := by
  rcases hs with ⟨n, hn⟩ | ⟨hx, hpos, hle⟩
  · exact .dead .illegal n (h.trans hn) fun _ => Or.inl rfl
  · exact .of_eq h (h'.trans hx) hpos hle

theorem lexed_lineComment (r : List Char) : Lexed ('-' :: '-' :: r) := by
  have hl := lineCommentLength_le r
  have h' : lexeme ('-' :: '-' :: r ++ ['\n']) = (none, 2 + lineCommentLength r) := by
    rw [List.cons_append, List.cons_append, lexeme, lineCommentLength_newline]
  exact .of_eq (lexeme.eq_2 r) h' (by omega) (by simp only [List.length_cons]; omega)

theorem lexed_blockComment (r : List Char) : Lexed ('/' :: '*' :: r) := by
  cases r with
  | nil => exact .dead .symbol 1 rfl fun _ => Or.inr rfl
  | cons c r =>
    by_cases hc : c = '\x00'
    · exact .dead .symbol 1 ((lexeme.eq_3 c r).trans (if_pos hc)) fun _ => Or.inr rfl
    have hl := (lexeme.eq_3 c r).trans (if_neg hc)
    have hl' : lexeme ('/' :: '*' :: c :: r ++ ['\n']) =
        (none, 2 + blockCommentLength (c :: r ++ ['\n'])) :=
      (lexeme.eq_3 c (r ++ ['\n'])).trans (if_neg hc)
    rcases blockCommentLength_newline (c :: r) with ⟨h, hle⟩ | ⟨h, h'⟩
    · rw [h] at hl'
      exact .of_eq hl hl' (by omega) (by simp only [List.length_cons] at hle ⊢; omega)
    · refine .comment (by rw [hl]) ?_ (by rw [hl']) ?_
      · rw [hl, h]
        simp only [List.length_cons]
        omega
      · rw [hl', h']
        simp only [List.length_cons]
        omega

/-- Blanks end where they ended, or go on to the end of the text. -/
theorem lexed_blanks
    (h : ∀ t, lexeme (c :: t) = (none, 1 + (t.takeWhile isSpace).length)) (r : List Char) :
    Lexed (c :: r) := by
  have hle := length_takeWhile_le isSpace r
  have h' : lexeme (c :: r ++ ['\n']) = (none, 1 + ((r ++ ['\n']).takeWhile isSpace).length) :=
    h (r ++ ['\n'])
  rw [List.takeWhile_append] at h'
  split at h'
  · rename_i hr
    refine .comment (by rw [h]) ?_ (by rw [h']) ?_
    · rw [h, List.length_cons]
      omega
    · rw [h', List.length_append, List.length_cons]
      simp only [show isSpace '\n' = true from rfl, List.takeWhile_cons_of_pos, List.takeWhile_nil,
        List.length_singleton]
      omega
  · exact .of_eq (h r) h' (by omega) (by rw [List.length_cons]; omega)

/-- A bracket that is closed is closed at the same place. -/
theorem takeWhile_newline_of_getElem? {n : Nat} {d : Char} {p : Char → Bool}
    (hn : (r.takeWhile p).length = n) (h : r[n]? = some d) :
    ((r ++ ['\n']).takeWhile p).length = n ∧ (r ++ ['\n'])[n]? = some d := by
  have hlt := (List.getElem?_eq_some_iff.mp h).1
  refine ⟨?_, ?_⟩
  · rw [List.takeWhile_append, if_neg (by omega), hn]
  · rw [List.getElem?_append_left hlt, h]

theorem head?_newline {p : Char → Bool} (hp : p '\n' = false) (r : List Char) :
    ((r ++ ['\n']).head?.map p).getD false = (r.head?.map p).getD false := by
  cases r with
  | nil => exact hp
  | cons c r => rfl

/-- What a text starts with that has a quote before it: all of a quoted text, or characters that
make no token. -/
def quotedLexeme (c : Char) (r : List Char) : Option TokenKind × Nat :=
  match quotedLength? c r with
  | some n => (some (if c == '\x27' then .string else .quotedName), n + 1)
  | none => (some .illegal, ((c :: r).takeWhile (· != '\x00')).length)

theorem steady_quoted (hn : c ≠ '\n') (h₀ : c ≠ '\x00') (r : List Char) :
    Steady (c :: r) (quotedLexeme c r) (quotedLexeme c (r ++ ['\n'])) := by
  rw [quotedLexeme, quotedLexeme, quotedLength?_newline hn h₀]
  cases hl : quotedLength? c r with
  | none => exact Or.inl ⟨_, rfl⟩
  | some n =>
    exact Or.inr ⟨rfl, Nat.succ_pos n, Nat.succ_le_succ (le_of_quotedLength? hl)⟩

/-- What a text starts with that has an opening bracket before it. -/
def bracketLexeme (r : List Char) : Option TokenKind × Nat :=
  let n := (r.takeWhile fun c => c != ']' && c != '\x00').length
  if r[n]? == some ']' then (some .quotedName, n + 2) else (some .illegal, n + 1)

theorem steady_bracket (c : Char) (r : List Char) :
    Steady (c :: r) (bracketLexeme r) (bracketLexeme (r ++ ['\n'])) := by
  rw [bracketLexeme, bracketLexeme]
  generalize hn : (r.takeWhile fun c => c != ']' && c != '\x00').length = n
  by_cases hc : r[n]? = some ']'
  · obtain ⟨hn', hc'⟩ := takeWhile_newline_of_getElem? hn hc
    have hlt := (List.getElem?_eq_some_iff.mp hc).1
    rw [hn']
    rw [if_pos (beq_iff_eq.mpr hc), if_pos (beq_iff_eq.mpr hc')]
    exact Or.inr ⟨rfl, Nat.succ_pos _, Nat.succ_le_succ hlt⟩
  · rw [if_neg (mt beq_iff_eq.mp hc)]
    exact Or.inl ⟨_, rfl⟩

/-- What a text starts with that has a letter for a blob and a quote before it. -/
def blobLexeme (t : List Char) : Option TokenKind × Nat :=
  let digits := (t.takeWhile isHexDigit).length
  match t.drop digits with
  | '\x27' :: _ => (some (if digits % 2 = 0 then .blob else .illegal), digits + 3)
  | rest =>
    let junk := (rest.takeWhile fun c => c != '\x27' && c != '\x00').length
    (some .illegal, digits + junk + if rest[junk]? == some '\x27' then 3 else 2)

theorem steady_blob (c : Char) (t : List Char) :
    Steady (c :: '\x27' :: t) (blobLexeme t) (blobLexeme (t ++ ['\n'])) := by
  have hle := length_takeWhile_le isHexDigit t
  rw [blobLexeme, blobLexeme, takeWhile_newline rfl]
  dsimp only
  rw [List.drop_append_of_le_length hle]
  generalize (t.takeWhile isHexDigit).length = n at hle ⊢
  by_cases hq : ∃ u, t.drop n = '\x27' :: u
  · obtain ⟨u, hu⟩ := hq
    have hl := congrArg List.length hu
    rw [List.length_drop, List.length_cons] at hl
    rw [hu]
    exact Or.inr ⟨rfl, Nat.succ_pos _, by change n + 3 ≤ t.length + 2; omega⟩
  · left
    split
    · rename_i u hu
      exact absurd ⟨u, hu⟩ hq
    · exact ⟨_, rfl⟩

/-- What a text starts with if nothing else stands there: a symbol, or one character that makes no
token. -/
def symbolLexeme (s : List Char) : Option TokenKind × Nat :=
  match symbolLength? s with
  | some n => (some .symbol, n)
  | none => (some .illegal, 1)

theorem steady_symbol (hs : s ≠ []) :
    Steady s (symbolLexeme s) (symbolLexeme (s ++ ['\n'])) := by
  rw [symbolLexeme, symbolLexeme, symbolLength?_newline hs]
  cases hn : symbolLength? s with
  | none => exact Or.inl ⟨1, rfl⟩
  | some n => exact Or.inr ⟨rfl, symbolLength?_le hn⟩

theorem plainLength_pos (h : (isDigit c || c == '.' && (r.head?.map isDigit).getD false) = true) :
    0 < plainLength (c :: r) := by
  rw [plainLength, wholeLength]
  by_cases hd : isDigit c = true
  · rw [List.takeWhile_cons_of_pos hd]
    exact Nat.lt_of_lt_of_le (Nat.succ_pos _) (Nat.le_add_right _ _)
  · rw [Bool.eq_false_iff.mpr hd, Bool.false_or, Bool.and_eq_true, beq_iff_eq] at h
    rw [List.takeWhile_cons_of_neg hd, h.1]
    exact Nat.lt_of_lt_of_le (Nat.lt_add_right _ Nat.one_pos) (Nat.le_add_left _ _)

theorem lexeme_newline (c : Char) (r : List Char) : Lexed (c :: r) := by
  by_cases hl : ∃ t, c = '-' ∧ r = '-' :: t
  · obtain ⟨t, rfl, rfl⟩ := hl
    exact lexed_lineComment t
  by_cases hb : ∃ t, c = '/' ∧ r = '*' :: t
  · obtain ⟨t, rfl, rfl⟩ := hb
    exact lexed_blockComment t
  have h := lexeme.eq_4 c r (fun t hc hr => hl ⟨t, hc, hr⟩) (fun d t hc hr => hb ⟨d :: t, hc, hr⟩)
  have h' := lexeme.eq_4 c (r ++ ['\n'])
    (fun t hc => newline_ne_cons (by decide) (fun t hr => hl ⟨t, hc, hr⟩) t)
    (fun d t hc => newline_ne_cons (by decide) (fun t hr => hb ⟨t, hc, hr⟩) (d :: t))
  rw [← List.cons_append] at h'
  by_cases hsp : (isSpace c && c != '\x0b') = true
  · refine lexed_blanks (fun t => ?_) r
    have hn : ∀ {d : Char}, (isSpace d && d != '\x0b') = false → c ≠ d := by
      rintro d hd rfl
      rw [hsp] at hd
      cases hd
    rw [lexeme.eq_4 c t (fun u hc _ => hn (by decide) hc) (fun d u hc _ => hn (by decide) hc),
      if_pos hsp]
  rw [if_neg hsp] at h h'
  by_cases hbom : (c == '\uFEFF') = true
  · rw [if_pos hbom] at h h'
    exact .of_eq h h' Nat.one_pos (Nat.succ_le_succ (Nat.zero_le _))
  rw [if_neg hbom] at h h'
  by_cases hq : (c == '\x27' || c == '"' || c == '\x60') = true
  · have hcn : c ≠ '\n' := by rintro rfl; cases hq
    have hc₀ : c ≠ '\x00' := by rintro rfl; cases hq
    rw [if_pos hq] at h h'
    exact (steady_quoted hcn hc₀ r).lexed h h'
  rw [if_neg hq] at h h'
  by_cases hbr : (c == '[') = true
  · rw [if_pos hbr] at h h'
    exact (steady_bracket c r).lexed h h'
  rw [if_neg hbr] at h h'
  rw [head?_newline rfl] at h'
  by_cases hd : (isDigit c || c == '.' && (Option.map isDigit r.head?).getD false) = true
  · rw [if_pos hd] at h h'
    rw [number_newline] at h'
    exact .of_eq h h' (number_pos (plainLength_pos hd)) (number_le (c :: r))
  rw [if_neg hd] at h h'
  by_cases hp : (c == '?') = true
  · rw [if_pos hp] at h h'
    rw [takeWhile_newline rfl] at h'
    have hle := length_takeWhile_le isDigit r
    exact .of_eq h h' (by omega) (by rw [List.length_cons]; omega)
  rw [if_neg hp] at h h'
  by_cases hv : (c == '$' || c == '@' || c == ':' || c == '#') = true
  · rw [if_pos hv] at h h'
    rw [parameterLength_newline] at h'
    exact .of_eq h h' (Nat.succ_pos _) (Nat.succ_le_succ (parameterLength_le false r))
  rw [if_neg hv] at h h'
  have hx : ((c == 'x' || c == 'X') && (r ++ ['\n']).head? == some '\x27') =
      ((c == 'x' || c == 'X') && r.head? == some '\x27') := by
    cases r with
    | nil => rfl
    | cons d r => rfl
  rw [hx] at h'
  by_cases hx : ((c == 'x' || c == 'X') && r.head? == some '\x27') = true
  · rw [if_pos hx] at h h'
    obtain ⟨t, rfl⟩ : ∃ t, r = '\x27' :: t := by
      rw [Bool.and_eq_true, beq_iff_eq, List.head?_eq_some_iff] at hx
      exact hx.2
    simp only [List.cons_append, List.drop_succ_cons, List.drop_zero, Nat.add_comm 1] at h h'
    exact (steady_blob c t).lexed h h'
  rw [if_neg hx] at h h'
  by_cases hw : isNameStart c = true
  · rw [if_pos hw] at h h'
    rw [takeWhile_newline rfl] at h'
    have hle := length_takeWhile_le isNameChar r
    exact .of_eq h h' (by omega) (by rw [List.length_cons]; omega)
  rw [if_neg hw] at h h'
  exact (steady_symbol (List.cons_ne_nil c r)).lexed h h'

/-! ### Tokens -/

theorem scanFrom_nil (fuel offset : Nat) : scanFrom fuel offset [] = [] := by
  cases fuel with
  | zero => rfl
  | succ fuel => rfl

theorem scanFrom_cons {c : Char} (hc : c ≠ '\x00') (fuel offset : Nat) (r : List Char) :
    scanFrom (fuel + 1) offset (c :: r) =
      ((lexeme (c :: r)).1.map fun kind =>
        (⟨kind, (c :: r).take (lexeme (c :: r)).2, offset⟩ : Token)).toList ++
        scanFrom fuel (offset + Text.byteLength ((c :: r).take (lexeme (c :: r)).2))
          ((c :: r).drop (lexeme (c :: r)).2) := by
  have hn : ¬ (c :: r).head? = some '\x00' := fun h => hc (Option.some.inj h)
  rw [scanFrom.eq_3 _ _ _ (List.cons_ne_nil c r), if_neg hn]
  dsimp only
  cases (lexeme (c :: r)).1 with
  | none => rfl
  | some kind => rfl

theorem scanFrom_newline {fuel : Nat} (fuel' offset : Nat) {s : List Char} (h : s.length < fuel)
    (h' : s.length + 1 < fuel') : ∃ ps tail tail',
      scanFrom fuel offset s = ps ++ tail ∧ scanFrom fuel' offset (s ++ ['\n']) = ps ++ tail' ∧
        (tail = [] ∧ tail' = [] ∨ ∃ d rest, tail = d :: rest ∧ d.IsDead) := by
  induction fuel generalizing fuel' offset s with
  | zero => exact absurd h (Nat.not_lt_zero _)
  | succ fuel ih =>
    obtain ⟨fuel', rfl⟩ := Nat.exists_eq_succ_of_ne_zero (Nat.ne_zero_of_lt h')
    cases s with
    | nil => exact ⟨[], [], [], rfl, scanFrom_nil _ _, Or.inl ⟨rfl, rfl⟩⟩
    | cons c r =>
      by_cases hc : c = '\x00'
      · rw [hc]
        exact ⟨[], [], [], rfl, rfl, Or.inl ⟨rfl, rfl⟩⟩
      rw [scanFrom_cons hc, List.cons_append, scanFrom_cons hc, ← List.cons_append]
      cases lexeme_newline c r with
      | kept hl hpos hle =>
        rw [hl, List.take_append_of_le_length hle, List.drop_append_of_le_length hle]
        have hd : ((c :: r).drop (lexeme (c :: r)).2).length < (c :: r).length := by
          rw [List.length_drop]
          exact Nat.sub_lt (Nat.succ_pos _) hpos
        obtain ⟨ps, tail, tail', ht, ht', hr⟩ := ih fuel'
          (offset + Text.byteLength ((c :: r).take (lexeme (c :: r)).2))
          (Nat.lt_of_lt_of_le hd (Nat.le_of_lt_succ h)) (by omega)
        rw [ht, ht', ← List.append_assoc, ← List.append_assoc]
        exact ⟨_, tail, tail', rfl, rfl, hr⟩
      | comment hn hle hn' hle' =>
        have hd : (c :: r ++ ['\n']).length ≤ (lexeme (c :: r ++ ['\n'])).2 := by
          rw [List.length_append]
          exact hle'
        rw [hn, hn', List.drop_eq_nil_of_le hle, List.drop_eq_nil_of_le hd, scanFrom_nil,
          scanFrom_nil]
        exact ⟨[], [], [], rfl, rfl, Or.inl ⟨rfl, rfl⟩⟩
      | dead kind n hl hd =>
        rw [hl]
        exact ⟨[], _, _, rfl, rfl, Or.inr ⟨_, _, rfl, hd offset⟩⟩

/-- **A text with a line feed behind it has the tokens that it has without**, or has them up to a
token that makes no sense in a statement. -/
theorem scan_newline (s : List Char) : ∃ ps tail tail',
    scan s = ps ++ tail ∧ scan (s ++ ['\n']) = ps ++ tail' ∧
      (tail = [] ∧ tail' = [] ∨ ∃ d rest, tail = d :: rest ∧ d.IsDead) :=
  scanFrom_newline _ 0 (Nat.lt_succ_self _) (by rw [List.length_append]; exact Nat.lt_succ_self _)

end Token

end NamedSql.Sql
