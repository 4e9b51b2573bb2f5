import NamedSql.Proofs.Sql.Trailing

/-!
# The statements of a text

A text is divided into statements by its semicolons: a statement is what stands between two of them,
as far as any token does. Blanks, comments and stray semicolons are no statements. The first
statement of a text is read up to the first semicolon behind it and no further, so reading on behind
it, again and again, goes through all statements of the text.

What is behind a statement is read as a text of its own, from the byte on at which the statement has
ended. It has the tokens that it has as a part of the whole text, since a text is scanned from left
to right and nothing that has been passed is remembered.

## Scope

Only what stands before a NUL character is meant, because nothing is read behind it.

## Main definitions

* `divided`, `statements` — the statements among tokens, and those of a text
* `Statement.Reading.remaining` — what is left of a text behind what has been read of it

## Main results

* `Token.exists_of_scanFrom` — what stands behind a token has the tokens that follow it
* `Statement.exists_divided_of_read` — a statement is read up to the first semicolon behind it
* `Statement.length_statements_of_read` — what is left has one statement less
-/

namespace NamedSql

namespace Text

theorem byteLength_append (s t : List Char) :
    byteLength (s ++ t) = byteLength s + byteLength t := by
  induction s with
  | nil => exact (Nat.zero_add _).symm
  | cons c s ih => rw [List.cons_append, byteLength_cons, byteLength_cons, ih, Nat.add_assoc]

end Text

namespace Sql

/-! ### Bytes -/

namespace Grammar

theorem dropBytes_of_le {s : List Char} {n : Nat} (h : Text.byteLength s ≤ n) :
    dropBytes n s = [] := by
  induction s generalizing n with
  | nil => rfl
  | cons c s ih =>
    rw [Text.byteLength_cons] at h
    have hc := c.utf8Size_pos
    rw [dropBytes, if_neg (by omega), ih (by omega)]

theorem dropBytes_byteLength (s t : List Char) : dropBytes (Text.byteLength s) (s ++ t) = t := by
  rw [dropBytes_append, dropBytes_of_le (Nat.le_refl _), Nat.sub_self, List.nil_append]
  cases t with
  | nil => rfl
  | cons c t => rfl

theorem length_dropBytes_le (n : Nat) (s : List Char) : (dropBytes n s).length ≤ s.length := by
  induction s generalizing n with
  | nil => exact Nat.le_refl _
  | cons c s ih =>
    rw [dropBytes]
    split
    · exact Nat.le_refl _
    · exact Nat.le_succ_of_le (ih _)

end Grammar

/-! ### Scanning on -/

namespace Token

variable {s : List Char} {fuel offset : Nat} {t : Token} {xs ys : List Token}

/-- Every text that goes on starts with something. -/
theorem lexeme_pos (hs : s ≠ []) (h₀ : s.head? ≠ some '\x00') : 0 < (lexeme s).2 := by
  fun_cases lexeme s with
  | case1 => exact absurd rfl hs
  | case8 c r =>
    -- A quoted text without an end goes on to the end, or up to a NUL character.
    have hc : c ≠ '\x00' := fun hc => h₀ (congrArg some hc)
    have ht : (c :: r).takeWhile (· != '\x00') = c :: r.takeWhile (· != '\x00') :=
      List.takeWhile_cons_of_pos (bne_iff_ne.mpr hc)
    rw [ht]
    exact Nat.succ_pos _
  | case11 c r _ _ _ _ _ _ hd => exact number_pos (plainLength_pos hd)
  | case15 => exact Nat.lt_of_lt_of_le (by split <;> decide) (Nat.le_add_left _ _)
  | case17 _ _ _ _ _ _ _ _ _ _ _ _ _ n hn =>
    rw [hn]
    exact (symbolLength?_le hn).1
  | case18 _ _ _ _ _ _ _ _ _ _ _ _ _ hn =>
    rw [hn]
    exact Nat.one_pos
  | _ => simp [Nat.pos_iff_ne_zero]

theorem length_drop_lexeme_lt (hs : s ≠ []) (h₀ : s.head? ≠ some '\x00') :
    (s.drop (lexeme s).2).length < s.length := by
  rw [List.length_drop]
  exact Nat.sub_lt (List.length_pos_iff.mpr hs) (lexeme_pos hs h₀)

/-- The token as many bytes further on. -/
def moved (t : Token) (count : Nat) : Token := { t with offset := t.offset + count }

/-- The tokens of a text that starts further on. -/
theorem scanFrom_moved (fuel offset count : Nat) (s : List Char) :
    scanFrom fuel (offset + count) s = (scanFrom fuel offset s).map (·.moved count) := by
  induction fuel generalizing offset s with
  | zero => rfl
  | succ fuel ih =>
    cases s with
    | nil => rfl
    | cons c r =>
      by_cases hc : c = '\x00'
      · rw [hc]
        rfl
      · rw [scanFrom_cons hc, scanFrom_cons hc, Nat.add_right_comm, ih, List.map_append]
        cases (lexeme (c :: r)).1 with
        | none => rfl
        | some kind => rfl

/-- Any bound on the number of tokens will do that is large enough for the text. -/
theorem scanFrom_of_lt {fuel' : Nat} (h : s.length < fuel) (h' : s.length < fuel')
    (offset : Nat) : scanFrom fuel offset s = scanFrom fuel' offset s := by
  induction fuel generalizing fuel' offset s with
  | zero => exact absurd h (Nat.not_lt_zero _)
  | succ fuel ih =>
    obtain ⟨fuel', rfl⟩ := Nat.exists_eq_succ_of_ne_zero (Nat.ne_zero_of_lt h')
    cases s with
    | nil => rfl
    | cons c r =>
      by_cases hc : c = '\x00'
      · rw [hc]
        rfl
      · have hl := length_drop_lexeme_lt (List.cons_ne_nil c r) fun h => hc (Option.some.inj h)
        have hn : ∀ offset, scanFrom fuel offset ((c :: r).drop (lexeme (c :: r)).2) =
            scanFrom fuel' offset ((c :: r).drop (lexeme (c :: r)).2) :=
          ih (by omega) (by omega)
        rw [scanFrom_cons hc, scanFrom_cons hc, hn]

/-- **What stands behind a token of a text has the tokens that follow it.** The induction is on the
bound, along what the text starts with: the token is the first one, or it is found further on. -/
theorem exists_of_scanFrom (hl : s.length < fuel) (h : scanFrom fuel offset s = xs ++ t :: ys) :
    ∃ before rest, s = before ++ rest ∧ t.stop = offset + Text.byteLength before ∧
      scanFrom fuel t.stop rest = ys := by
  induction fuel generalizing offset s xs with
  | zero => exact absurd hl (Nat.not_lt_zero _)
  | succ fuel ih =>
    cases s with
    | nil => exact absurd h (by simp [scanFrom_nil])
    | cons c r =>
      by_cases hc : c = '\x00'
      · rw [hc] at h
        exact absurd h (by simp [scanFrom])
      have hd := length_drop_lexeme_lt (List.cons_ne_nil c r) fun h => hc (Option.some.inj h)
      rw [scanFrom_cons hc] at h
      have hs := List.take_append_drop (lexeme (c :: r)).2 (c :: r)
      generalize (c :: r).take (lexeme (c :: r)).2 = first at h hs
      generalize (c :: r).drop (lexeme (c :: r)).2 = next at h hs hd
      have hnext : ∀ xs, scanFrom fuel (offset + Text.byteLength first) next = xs ++ t :: ys →
          ∃ before rest, c :: r = before ++ rest ∧ t.stop = offset + Text.byteLength before ∧
            scanFrom (fuel + 1) t.stop rest = ys := by
        intro xs h
        obtain ⟨before, rest, rfl, hp, ht⟩ := ih (by omega) h
        refine ⟨first ++ before, rest, by rw [← hs, List.append_assoc], ?_, ?_⟩
        · rw [hp, Text.byteLength_append, Nat.add_assoc]
        · rw [List.length_append] at hd
          rw [← ht]
          exact scanFrom_of_lt (by omega) (by omega) _
      cases hk : (lexeme (c :: r)).1 with
      | none =>
        rw [hk] at h
        exact hnext xs h
      | some kind =>
        rw [hk] at h
        cases xs with
        | nil =>
          obtain ⟨rfl, rfl⟩ := List.cons.inj h
          exact ⟨first, next, hs.symm, rfl, scanFrom_of_lt (by omega) (by omega) _⟩
        | cons u xs => exact hnext xs (List.cons.inj h).2

/-- Nothing is scanned behind a NUL character. -/
theorem scan_dropWhile_ne (s : List Char) : scan (s.dropWhile (· != '\x00')) = [] := by
  have hd := List.head?_dropWhile_not (· != '\x00') s
  cases h : s.dropWhile (· != '\x00') with
  | nil => rfl
  | cons c r =>
    rw [h] at hd
    have hc : c = '\x00' := by simpa using hd
    rw [hc]
    rfl

theorem stop_ne_zero (h : t.isSymbol ";" = true) : t.stop ≠ 0 := by
  rw [isSymbol, Bool.and_eq_true, beq_iff_eq, beq_iff_eq] at h
  have ht : t.text = [';'] := by
    rw [← String.toList_ofList (l := t.text), h.2]
    rfl
  rw [stop, ht]
  exact Nat.succ_ne_zero _

end Token

/-! ### Dividing -/

section

variable {text : List Char} {tokens : List Token} {t : Token}

/-- The statements among tokens: what stands between semicolons, as far as any token does. -/
def divided (tokens : List Token) : List (List Token) :=
  (tokens.splitOnP (·.isSymbol ";")).filter (!·.isEmpty)

/-- The statements of a text, up to a NUL character, each by its tokens. -/
def statements (text : List Char) : List (List Token) := divided (Token.scan text)

/-- **Statements are divided at every semicolon.** -/
theorem divided_append_cons (ht : t.isSymbol ";" = true) (xs ys : List Token) :
    divided (xs ++ t :: ys) = divided xs ++ divided ys := by
  unfold divided
  rw [List.splitOnP_append_cons xs ys ht, List.filter_append]

theorem divided_of_forall (hn : tokens ≠ []) (h : ∀ t ∈ tokens, t.isSymbol ";" = false) :
    divided tokens = [tokens] := by
  rw [divided, List.splitOnP_eq_singleton h]
  exact List.filter_cons_of_pos (by simpa using hn)

/-- Semicolons before the first statement divide nothing. -/
theorem divided_dropWhile (tokens : List Token) :
    divided (tokens.dropWhile (·.isSymbol ";")) = divided tokens := by
  induction tokens with
  | nil => rfl
  | cons t tokens ih =>
    rw [List.dropWhile_cons]
    split
    · rename_i ht
      exact ih.trans (divided_append_cons ht [] tokens).symm
    · rfl

theorem splitOnP_moved (tokens : List Token) (count : Nat) :
    (tokens.map (·.moved count)).splitOnP (·.isSymbol ";") =
      (tokens.splitOnP (·.isSymbol ";")).map (·.map (·.moved count)) := by
  induction tokens with
  | nil => rfl
  | cons t tokens ih =>
    have ht : (t.moved count).isSymbol ";" = t.isSymbol ";" := rfl
    rw [List.map_cons, List.splitOnP_cons_eq_if_modifyHead, List.splitOnP_cons_eq_if_modifyHead,
      ht, ih]
    split
    · rfl
    · cases tokens.splitOnP (·.isSymbol ";") with
      | nil => rfl
      | cons first rest => rfl

theorem length_divided_moved (tokens : List Token) (count : Nat) :
    (divided (tokens.map (·.moved count))).length = (divided tokens).length := by
  rw [divided, splitOnP_moved, List.filter_map, List.length_map, divided]
  refine congrArg List.length (List.filter_congr fun ts _ => ?_)
  cases ts with
  | nil => rfl
  | cons t ts => rfl

/-- A text has as many statements wherever it starts. -/
theorem length_divided_scanFrom {fuel : Nat} (offset : Nat) (h : text.length < fuel) :
    (divided (Token.scanFrom fuel offset text)).length = (statements text).length := by
  have hm := Token.scanFrom_moved fuel 0 offset text
  rw [Nat.zero_add] at hm
  rw [hm, length_divided_moved, statements, Token.scan,
    Token.scanFrom_of_lt h (Nat.lt_succ_self _)]

end

/-! ### Reading on -/

namespace Statement

variable {text : List Char} {reading : Reading}

/-- What a text goes on with behind what has been read of it. -/
def Reading.remaining (reading : Reading) (text : List Char) : List Char :=
  if reading.rest = 0 then [] else Grammar.dropBytes reading.rest text

theorem length_remaining_lt (reading : Reading) (hn : text ≠ []) :
    (reading.remaining text).length < text.length := by
  obtain ⟨c, r, rfl⟩ := List.exists_cons_of_ne_nil hn
  rw [Reading.remaining]
  split
  · exact Nat.succ_pos _
  · rename_i h₀
    rw [Grammar.dropBytes, if_neg h₀]
    exact Nat.lt_succ_of_le (Grammar.length_dropBytes_le _ _)

/-- Where a text goes on behind a statement, if some tokens are left. -/
def placeBehind (text : List Char) : List Token → Nat
  | t :: _ => t.stop
  | [] => Sides.placeOf text []

theorem statements_remaining_of_placeOf (h : reading.rest = Sides.placeOf text []) :
    statements (reading.remaining text) = [] := by
  have ht := List.takeWhile_append_dropWhile (p := (· != '\x00')) (l := text)
  rw [Reading.remaining, h]
  split
  · rfl
  · have hd : Grammar.dropBytes (Sides.placeOf text []) text = text.dropWhile (· != '\x00') := by
      have hb := Grammar.dropBytes_byteLength (text.takeWhile (· != '\x00'))
        (text.dropWhile (· != '\x00'))
      rwa [ht] at hb
    rw [hd, statements, Token.scan_dropWhile_ne]
    rfl

theorem statements_eq_divided (text : List Char) : statements text = divided (tokensOf text) :=
  (divided_dropWhile _).symm

/-- The tokens of a text from its first statement on are those of this statement, and what is
behind it. -/
theorem exists_split (hn : tokensOf text ≠ []) :
    ∃ p ahead, tokensOf text = p ++ ahead ∧ p ≠ [] ∧ (∀ t ∈ p, t.isSymbol ";" = false) ∧
      Ends ahead := by
  have hs := List.takeWhile_append_dropWhile (p := fun t : Token => !t.isSymbol ";")
    (l := tokensOf text)
  have hb : ∀ t ∈ (tokensOf text).takeWhile (!·.isSymbol ";"), t.isSymbol ";" = false :=
    fun t ht => by simpa using List.mem_takeWhile_imp ht
  have ha : Ends ((tokensOf text).dropWhile (!·.isSymbol ";")) := by
    intro t ht
    have hd := List.head?_dropWhile_not (!·.isSymbol ";") (tokensOf text)
    rw [Option.mem_def.mp ht] at hd
    simpa using hd
  generalize (tokensOf text).takeWhile (!·.isSymbol ";") = p at hs hb
  generalize (tokensOf text).dropWhile (!·.isSymbol ";") = ahead at hs ha
  refine ⟨p, ahead, hs.symm, ?_, hb, ha⟩
  rintro rfl
  have hd := List.head?_dropWhile_not (·.isSymbol ";") (Token.scan text)
  rw [← tokensOf, ← hs, List.nil_append] at hd
  cases ahead with
  | nil => exact hn hs.symm
  | cons t rest =>
    dsimp only [List.head?_cons] at hd
    rw [ha t rfl] at hd
    cases hd

theorem statements_eq_nil_iff : statements text = [] ↔ tokensOf text = [] := by
  rw [statements_eq_divided]
  constructor
  · intro h
    by_contra hn
    obtain ⟨p, ahead, ht, hp, hb, ha⟩ := exists_split hn
    rw [ht] at h
    cases ahead with
    | nil =>
      rw [List.append_nil, divided_of_forall hp hb] at h
      cases h
    | cons t rest =>
      rw [divided_append_cons (ha t rfl), divided_of_forall hp hb] at h
      cases h
  · intro h
    rw [h]
    rfl

/-- **The first statement of a text is read up to the first semicolon behind it**, or to the end.
No semicolon is part of a statement, so a reader that is stopped by the first one reads as much as
one that goes on until it cannot. -/
theorem exists_divided_of_read (hn : tokensOf text ≠ []) (h : read text = .ok reading) :
    ∃ p ahead, tokensOf text = p ++ ahead ∧ p ≠ [] ∧ (∀ t ∈ p, t.isSymbol ";" = false) ∧
      Ends ahead ∧ reading.parsed.isSome = true ∧ reading.rest = placeBehind text ahead := by
  obtain ⟨p, ahead, hs, hne, hb, ha⟩ := exists_split hn
  obtain ⟨s, r, hp, he, hr⟩ := exists_of_read hn h
  have hstops : ahead = [] ∧ ahead = [] ∨
      ∃ d rest rest', ahead = d :: rest ∧ ahead = d :: rest' ∧ d.IsStop := by
    cases ahead with
    | nil => exact Or.inl ⟨rfl, rfl⟩
    | cons d rest => exact Or.inr ⟨d, rest, rest, rfl, rfl, Or.inr (ha d rfl)⟩
  let S : Sides := ⟨text, [], ahead, ahead, List.forall_mem_nil _, hstops⟩
  have hl : 4 * p.length + 2 ≤ 4 * (tokensOf text).length + 8 := by
    rw [hs, List.length_append]
    omega
  obtain ⟨p₁, r', -, h₁, hx, -⟩ := Sides.follows_statement (S := S) hl hl (waitingIn text) p
    ⟨text, tokensOf text, []⟩ ⟨text ++ [], tokensOf text, []⟩ (Nat.le_refl _)
    ⟨rfl, rfl, hs, hs, rfl⟩ s r hp
  have hp₁ : p₁ = [] := by
    cases p₁ with
    | nil => rfl
    | cons t p₁ =>
      have ht := hb t (hx.subset List.mem_cons_self)
      rw [he t (by rw [h₁.rest]; rfl)] at ht
      cases ht
  have hrest : r.rest = ahead := by
    rw [h₁.rest, hp₁]
    rfl
  have hsource : r.source = text := h₁.source
  refine ⟨p, ahead, hs, hne, hb, ha, by rw [hr]; rfl, ?_⟩
  rw [read_of_tokensOf_ne_nil hn, hp] at h
  change endedAt s r = .ok reading at h
  rw [endedAt, hrest] at h
  cases ahead with
  | nil =>
    dsimp only at h
    rw [Sides.here_eq, hsource, hrest] at h
    cases h
    rfl
  | cons d rest =>
    dsimp only at h
    rw [if_pos (ha d rfl)] at h
    cases h
    rfl

/-- **What is left of a text behind a statement has one statement less**, and what is left of a
text without any has none. -/
theorem length_statements_of_read (h : read text = .ok reading) :
    (statements text).length =
      reading.parsed.toList.length + (statements (reading.remaining text)).length := by
  by_cases hn : tokensOf text = []
  · cases (read_of_tokensOf_eq_nil hn).symm.trans h
    rw [statements_remaining_of_placeOf rfl, statements_eq_nil_iff.mpr hn]
    rfl
  · obtain ⟨p, ahead, ht, hp, hb, ha, hm, hr⟩ := exists_divided_of_read hn h
    obtain ⟨m, hm⟩ := Option.isSome_iff_exists.mp hm
    rw [hm, Option.toList_some, List.length_singleton, statements_eq_divided, ht]
    cases ahead with
    | nil =>
      rw [statements_remaining_of_placeOf hr, List.append_nil, divided_of_forall hp hb]
      rfl
    | cons t q =>
      have hsemi := ha t rfl
      rw [divided_append_cons hsemi, divided_of_forall hp hb, List.length_append]
      refine congrArg (1 + ·) ?_
      obtain ⟨semicolons, hs⟩ := List.dropWhile_suffix (·.isSymbol ";") (l := Token.scan text)
      rw [← tokensOf, ht, ← List.append_assoc] at hs
      obtain ⟨before, rest, rfl, hstop, hq⟩ :=
        Token.exists_of_scanFrom (Nat.lt_succ_self _) hs.symm
      rw [Nat.zero_add] at hstop
      have hrem : reading.remaining (before ++ rest) = rest := by
        rw [Reading.remaining, hr, placeBehind, if_neg (Token.stop_ne_zero hsemi), hstop,
          Grammar.dropBytes_byteLength]
      rw [hrem, ← hq, length_divided_scanFrom]
      rw [List.length_append]
      omega

theorem statements_of_parsed_eq_none (h : read text = .ok reading) (hn : reading.parsed = none) :
    statements text = [] := by
  refine statements_eq_nil_iff.mpr (by_contra fun ht => ?_)
  obtain ⟨p, ahead, -, -, -, -, hm, -⟩ := exists_divided_of_read ht h
  rw [hn] at hm
  cases hm

end Statement

end Sql

end NamedSql
