import Mathlib.Data.List.TakeWhile
import NamedSql.Proofs.Sql.Scanning
import NamedSql.Sql.Grammar

/-!
# Texts read side by side

Two texts are read side by side, of which the second one has some blanks more at its end. They have
the same tokens up to one with which no statement goes on, so a reader of the first text that gets
somewhere is nowhere ahead of a reader of the second one, and both have read the same.

## Scope

What is read of the first text is read of the second one, not the other way round. The functions of
the grammar are bounded by a number. It is another one for the second text, where there may be fewer
tokens behind the one at which both readers stop. Any bound will do that is large enough for the
tokens before it.

## Main definitions

* `Token.IsStop` — tokens with which no statement goes on
* `Sides` — two texts with the same tokens up to such a token
* `Sides.Alongside` — readers that stand at the same token
* `Sides.Follows` — what is read by one of them is read by the other

## Main results

* `Sides.follows_take?` — tokens are taken from both texts
* `Sides.Follows.bind`, `Sides.Follows.branch` — what is read one after the other
* `Sides.Follows.here_bind`, `Sides.follows_between` — the text between two places is the same
-/

namespace NamedSql.Sql

/-! ### Tokens with which no statement goes on -/

namespace Token

/-- Tokens with which no statement goes on: those that make no sense, and the semicolon. -/
def IsStop (t : Token) : Prop := t.IsDead ∨ t.isSymbol ";" = true

variable {t : Token}

theorem kind_of_isSymbol {s : String} (h : t.isSymbol s = true) : t.kind = .symbol := by
  rw [isSymbol, Bool.and_eq_true, beq_iff_eq] at h
  exact h.1

theorem isSymbol_of_ne {s u : String} (hu : s ≠ u) (h : t.isSymbol u = true) :
    t.isSymbol s = false := by
  rw [isSymbol, Bool.and_eq_true, beq_iff_eq, beq_iff_eq] at h
  rw [isSymbol, h.2, beq_eq_false_iff_ne.mpr hu.symm, Bool.and_false]

theorem IsDead.isSymbol (h : t.IsDead) {s : String} (hd : s ≠ "/") : t.isSymbol s = false := by
  rcases h with h | h
  · rw [Token.isSymbol, h]
    rfl
  · exact isSymbol_of_ne hd h

theorem IsStop.kind (h : t.IsStop) : t.kind = .illegal ∨ t.kind = .symbol := by
  rcases h with (h | h) | h
  · exact Or.inl h
  · exact Or.inr (kind_of_isSymbol h)
  · exact Or.inr (kind_of_isSymbol h)

theorem IsStop.isSymbol (h : t.IsStop) {s : String} (hs : s ≠ ";") (hd : s ≠ "/") :
    t.isSymbol s = false := by
  rcases h with h | h
  · exact h.isSymbol hd
  · exact isSymbol_of_ne hs h

theorem IsStop.word? (h : t.IsStop) : t.word? = none := by
  rw [Token.word?]
  rcases h.kind with h | h <;> rw [h] <;> rfl

theorem IsStop.isKeyword (h : t.IsStop) (s : String) : t.isKeyword s = false := by
  rw [Token.isKeyword, h.word?]
  rfl

theorem IsStop.isName (h : t.IsStop) : t.isName = false := by
  rw [Token.isName]
  rcases h.kind with h | h <;> rw [h]

theorem IsStop.isIdentifier (h : t.IsStop) : t.isIdentifier = false := by
  rw [Token.isIdentifier, h.isName, Bool.false_and]

theorem IsStop.literal? (h : t.IsStop) : Grammar.literal? t = none := by
  rw [Grammar.literal?]
  rcases h.kind with h | h <;> rw [h]

theorem IsStop.operator? (h : t.IsStop) (rest : List Token) :
    Grammar.operator? (t :: rest) = none := by
  simp [Grammar.operator?, h.isKeyword, h.isSymbol]

end Token

/-! ### Two texts -/

/-- Two texts, of which the second one has some blanks behind it, and the tokens that are ahead of
their readers in any case: both texts are at their ends there, or have a token with which no
statement goes on. -/
structure Sides where
  text : List Char
  blanks : List Char
  ahead : List Token
  ahead' : List Token
  isSpace : ∀ c ∈ blanks, Token.isSpace c = true
  stops : ahead = [] ∧ ahead' = [] ∨
    ∃ d rest rest', ahead = d :: rest ∧ ahead' = d :: rest' ∧ d.IsStop

namespace Sides

variable {S : Sides} {α β : Type}

theorem head?_ahead (S : Sides) (p : List Token) :
    (p ++ S.ahead').head? = (p ++ S.ahead).head? := by
  cases p with
  | cons t p => rfl
  | nil =>
    rcases S.stops with ⟨h, h'⟩ | ⟨d, rest, rest', h, h', -⟩
    · rw [h, h']
    · rw [h, h']
      rfl

theorem isStop_of_mem_head?_ahead (S : Sides) {t : Token} (h : t ∈ S.ahead.head?) : t.IsStop := by
  rcases S.stops with ⟨ha, -⟩ | ⟨d, rest, rest', ha, -, hd⟩
  · rw [ha] at h
    cases h
  · rw [ha] at h
    cases h
    exact hd

theorem isStop_of_mem_head?_ahead' (S : Sides) {t : Token} (h : t ∈ S.ahead'.head?) :
    t.IsStop := S.isStop_of_mem_head?_ahead (S.head?_ahead [] ▸ h)

/-- Readers of both texts that have the same tokens and the tokens ahead left. -/
structure Alongside (S : Sides) (p : List Token) (r r' : Reader) : Prop where
  source : r.source = S.text
  source' : r'.source = S.text ++ S.blanks
  rest : r.rest = p ++ S.ahead
  rest' : r'.rest = p ++ S.ahead'
  parameters : r'.parameters = r.parameters

/-- If something is read of the first text it is read of the second one, with at least so many
tokens as are told for what has been read. -/
def Tracks (S : Sides) (p : List Token) (r r' : Reader) (taken : α → Nat) (f f' : Read α) : Prop :=
  ∀ a s, f r = .ok (a, s) →
    ∃ p₁ s', f' r' = .ok (a, s') ∧ S.Alongside p₁ s s' ∧ p₁ <:+ p ∧
      p₁.length + taken a ≤ p.length

/-- Wherever both readers stand with no more than `k` tokens before the tokens ahead, what is read
of the first text is read of the second one. -/
def FollowsTaking (S : Sides) (k : Nat) (taken : α → Nat) (f f' : Read α) : Prop :=
  ∀ p r r', p.length ≤ k → S.Alongside p r r' → S.Tracks p r r' taken f f'

/-- What is read of the first text is read of the second one, whatever tokens it takes. -/
abbrev Follows (S : Sides) (k : Nat) (f f' : Read α) : Prop := S.FollowsTaking k (fun _ => 0) f f'

variable {k : Nat} {i j : α → Nat} {f f' : Read α} {g g' : α → Read β}

/-! ### Rules -/

theorem followsTaking_pure {a : α} (h : i a = 0) : S.FollowsTaking k i (pure a) (pure a) := by
  rintro p r r' - ha b s ⟨⟩
  exact ⟨p, r', rfl, ha, List.suffix_rfl, Nat.le_of_eq (by rw [h, Nat.add_zero])⟩

theorem follows_pure (a : α) : S.Follows k (pure a) (pure a) := followsTaking_pure rfl

theorem follows_throw (e : Fault) (f' : Read α) : S.FollowsTaking k i (throw e) f' := nofun

theorem follows_fail (f' : Read α) : S.FollowsTaking k i Grammar.fail f' := nofun

theorem Tracks.of_eq_fail {p : List Token} {r r' : Reader} (h : f = Grammar.fail) :
    S.Tracks p r r' i f f' := by
  rw [h]
  exact nofun

theorem FollowsTaking.follows (h : S.FollowsTaking k i f f') : S.Follows k f f' := by
  intro p r r' hp ha a s hf
  obtain ⟨p₁, s', hs, h₁, hx, hl⟩ := h p r r' hp ha a s hf
  exact ⟨p₁, s', hs, h₁, hx, Nat.le_trans (Nat.le_add_right _ _) hl⟩

theorem exists_of_bind_apply {r t : Reader} {b : β} (h : (f >>= g) r = .ok (b, t)) :
    ∃ a s, f r = .ok (a, s) ∧ g a s = .ok (b, t) := by
  change (f r >>= fun q => g q.1 q.2) = .ok (b, t) at h
  cases hr : f r with
  | error e =>
    rw [hr] at h
    cases h
  | ok q =>
    rw [hr] at h
    exact ⟨q.1, q.2, rfl, h⟩

theorem bind_apply {r s : Reader} {a : α} (h : f r = .ok (a, s)) : (f >>= g) r = g a s := by
  change (f r >>= fun q => g q.1 q.2) = _
  rw [h]
  rfl

theorem FollowsTaking.bind {j : β → Nat} (hf : S.FollowsTaking k i f f')
    (hg : ∀ a, i a ≤ k → S.FollowsTaking (k - i a) j (g a) (g' a)) :
    S.FollowsTaking k j (f >>= g) (f' >>= g') := by
  intro p r r' hp h b t hb
  obtain ⟨a, s, ha, hga⟩ := exists_of_bind_apply hb
  obtain ⟨p₁, s', hs', h₁, hx, hl⟩ := hf p r r' hp h a s ha
  obtain ⟨p₂, t', ht', h₂, hx', hl'⟩ := hg a (by omega) p₁ s s' (by omega) h₁ b t hga
  exact ⟨p₂, t', (bind_apply hs').trans ht', h₂, hx'.trans hx, by omega⟩

theorem Follows.bind {j : β → Nat} (hf : S.Follows k f f')
    (hg : ∀ a, S.FollowsTaking k j (g a) (g' a)) : S.FollowsTaking k j (f >>= g) (f' >>= g') :=
  FollowsTaking.bind hf fun a _ => hg a

theorem FollowsTaking.map (hf : S.FollowsTaking k i f f') (h : α → β) :
    S.Follows k (h <$> f) (h <$> f') := by
  have hm : ∀ x : Read α, h <$> x = x >>= fun a => pure (h a) := fun x => map_eq_pure_bind h x
  rw [hm, hm]
  exact hf.follows.bind fun a => follows_pure (h a)

theorem Tracks.ite {c : Prop} [Decidable c] {p : List Token} {r r' : Reader} {e e' : Read α}
    (hf : c → S.Tracks p r r' i f f') (he : ¬c → S.Tracks p r r' i e e') :
    S.Tracks p r r' i (if c then f else e) (if c then f' else e') := by
  by_cases hc : c
  · rw [if_pos hc, if_pos hc]
    exact hf hc
  · rw [if_neg hc, if_neg hc]
    exact he hc

theorem FollowsTaking.ite {c : Prop} [Decidable c] {e e' : Read α}
    (hf : c → S.FollowsTaking k i f f') (he : ¬c → S.FollowsTaking k i e e') :
    S.FollowsTaking k i (if c then f else e) (if c then f' else e') := fun p r r' hp ha =>
  .ite (fun hc => hf hc p r r' hp ha) fun hc => he hc p r r' hp ha

/-- Reading goes on in one of two ways; in the first of them a token has been taken. -/
theorem FollowsTaking.branch {b b' : Read Bool} {e e' : Read α}
    (hb : S.FollowsTaking k Bool.toNat b b') (hf : 1 ≤ k → S.FollowsTaking (k - 1) i f f')
    (he : S.FollowsTaking k i e e') :
    S.FollowsTaking k i (b >>= fun x => if x = true then f else e)
      (b' >>= fun x => if x = true then f' else e') :=
  hb.bind fun x hx => by
    cases x with
    | true => exact hf hx
    | false => exact he

/-- The same, where it is told whether a token has been taken. -/
theorem FollowsTaking.branch_taking {b b' : Read Bool} {e e' : Read α} (hi : ∀ a, i a ≤ 1)
    (hb : S.FollowsTaking k Bool.toNat b b') (hf : 1 ≤ k → S.Follows (k - 1) f f')
    (he : S.FollowsTaking k i e e') :
    S.FollowsTaking k i (b >>= fun x => if x = true then f else e)
      (b' >>= fun x => if x = true then f' else e') := by
  intro p r r' hp h a s ha
  obtain ⟨x, t, hx, hg⟩ := exists_of_bind_apply ha
  obtain ⟨p₁, t', ht', h₁, hp₁, hl⟩ := hb p r r' hp h x t hx
  rw [bind_apply ht']
  cases x with
  | true =>
    change p₁.length + 1 ≤ p.length at hl
    have ha := hi a
    obtain ⟨p₂, s', hs', h₂, hp₂, hl'⟩ := hf (by omega) p₁ t t' (by omega) h₁ a s hg
    exact ⟨p₂, s', hs', h₂, hp₂.trans hp₁, by omega⟩
  | false =>
    obtain ⟨p₂, s', hs', h₂, hp₂, hl'⟩ := he p₁ t t' (by omega) h₁ a s hg
    exact ⟨p₂, s', hs', h₂, hp₂.trans hp₁, by omega⟩

/-- Something may be there, and reading goes on behind it. -/
theorem FollowsTaking.optional {j : β → Nat} {b b' : Read Bool} {h h' : Option α → Read β}
    (hb : S.FollowsTaking k Bool.toNat b b') (hf : 1 ≤ k → S.Follows (k - 1) f f')
    (hh : ∀ l ≤ k, ∀ x, S.FollowsTaking l j (h x) (h' x)) :
    S.FollowsTaking k j (b >>= fun x => if x = true then some <$> f >>= h else pure none >>= h)
      (b' >>= fun x => if x = true then some <$> f' >>= h' else pure none >>= h') :=
  hb.branch (fun hk => ((hf hk).map some).bind fun x => hh (k - 1) (Nat.sub_le k 1) x)
    (hh k (Nat.le_refl k) none)

/-- Both readers look at what they have left. -/
theorem FollowsTaking.get_bind {j : β → Nat} {g g' : Reader → Read β}
    (h : ∀ p r r', p.length ≤ k → S.Alongside p r r' → S.Tracks p r r' j (g r) (g' r')) :
    S.FollowsTaking k j (get >>= g) (get >>= g') := fun p r r' hp ha => h p r r' hp ha

/-! ### Tokens -/

theorem Alongside.skip {p₀ p : List Token} {r r' : Reader} (h : S.Alongside (p₀ ++ p) r r') :
    S.Alongside p { r with rest := r.rest.drop p₀.length }
      { r' with rest := r'.rest.drop p₀.length } :=
  { source := h.source
    source' := h.source'
    rest := by rw [h.rest, List.append_assoc, List.drop_left]
    rest' := by rw [h.rest', List.append_assoc, List.drop_left]
    parameters := h.parameters }

/-- Tokens that both readers have before them are skipped. -/
theorem Tracks.skip (p₀ : List Token) {p : List Token} {r r' : Reader}
    (hf : S.FollowsTaking (k - p₀.length) i f f') (h : S.Alongside (p₀ ++ p) r r')
    (hp : (p₀ ++ p).length ≤ k) :
    S.Tracks (p₀ ++ p) r r' i (Grammar.skip p₀.length >>= fun _ => f)
      (Grammar.skip p₀.length >>= fun _ => f') := by
  intro a s hs
  rw [List.length_append] at hp
  obtain ⟨p₁, s', hs', h₁, hx, hl⟩ := hf p _ _ (by omega) h.skip a s hs
  exact ⟨p₁, s', hs', h₁, hx.trans (List.suffix_append p₀ p), by rw [List.length_append]; omega⟩

theorem tracks_skip (p₀ : List Token) {p : List Token} {r r' : Reader}
    (h : S.Alongside (p₀ ++ p) r r') : S.Tracks (p₀ ++ p) r r' (fun _ => 0)
      (Grammar.skip p₀.length) (Grammar.skip p₀.length) := by
  rintro a s ⟨⟩
  refine ⟨p, _, rfl, h.skip, List.suffix_append p₀ p, ?_⟩
  rw [List.length_append]
  exact Nat.le_add_left _ _

theorem follows_peek : S.Follows k Grammar.peek Grammar.peek := by
  rintro p r r' - h a s ⟨⟩
  refine ⟨p, r', ?_, h, List.suffix_rfl, Nat.le_refl _⟩
  change Except.ok (r'.rest.head?, r') = .ok (r.rest.head?, r')
  rw [h.rest, h.rest', S.head?_ahead]

/-- Both readers look at the token before them. -/
theorem Tracks.peek_bind {j : β → Nat} {g g' : Option Token → Read β} {p : List Token}
    {r r' : Reader} (ha : S.Alongside p r r')
    (h : S.Tracks p r r' j (g (p ++ S.ahead).head?) (g' (p ++ S.ahead).head?)) :
    S.Tracks p r r' j (Grammar.peek >>= g) (Grammar.peek >>= g') := by
  have hp : ∀ r : Reader, Grammar.peek r = .ok (r.rest.head?, r) := fun _ => rfl
  intro b s hs
  rw [bind_apply (hp r), ha.rest] at hs
  rw [bind_apply (hp r'), ha.rest', S.head?_ahead]
  exact h b s hs

theorem take?_of_cons {r : Reader} {t : Token} {rest : List Token} (h : r.rest = t :: rest)
    (c : Token → Bool) :
    Grammar.take? c r = if c t then .ok (some t, { r with rest }) else .ok (none, r) := by
  obtain ⟨source, _, parameters⟩ := r
  cases h
  change (if c t then (Grammar.skip 1 >>= fun _ => pure (some t)) else pure none : Read _) _ = _
  split
  · rfl
  · rfl

theorem take?_of_forall {r : Reader} {c : Token → Bool} (h : ∀ t ∈ r.rest.head?, c t = false) :
    Grammar.take? c r = .ok (none, r) := by
  obtain ⟨source, _ | ⟨t, rest⟩, parameters⟩ := r
  · rfl
  · rw [take?_of_cons rfl, h t rfl]
    rfl

/-- A token is taken from both texts, if it is none with which no statement goes on. -/
theorem follows_take? {c : Token → Bool} (hc : ∀ t : Token, t.IsStop → c t = false) :
    S.FollowsTaking k (fun t => t.isSome.toNat) (Grammar.take? c) (Grammar.take? c) := by
  rintro (_ | ⟨t, p⟩) r r' - h a s hs
  · have hn : ∀ t ∈ S.ahead.head?, c t = false := fun t ht => hc t (S.isStop_of_mem_head?_ahead ht)
    have hr : ∀ t ∈ r.rest.head?, c t = false := by
      rw [h.rest]
      exact hn
    have hr' : ∀ t ∈ r'.rest.head?, c t = false := by
      rw [h.rest', S.head?_ahead]
      exact hn
    rw [take?_of_forall hr] at hs
    cases hs
    exact ⟨[], r', take?_of_forall hr', h, List.suffix_rfl, Nat.le_refl _⟩
  · rw [take?_of_cons h.rest] at hs
    rw [take?_of_cons h.rest']
    cases hct : c t with
    | true =>
      rw [hct] at hs
      cases hs
      exact ⟨p, _, rfl, { h with rest := rfl, rest' := rfl }, List.suffix_cons t p, Nat.le_refl _⟩
    | false =>
      rw [hct] at hs
      cases hs
      exact ⟨t :: p, r', rfl, h, List.suffix_rfl, Nat.le_refl _⟩

theorem take_eq_ok_iff {c : Token → Bool} {r s : Reader} {t : Token} :
    Grammar.take c r = .ok (t, s) ↔ Grammar.take? c r = .ok (some t, s) := by
  rw [Grammar.take]
  change (Grammar.take? c r >>= _) = _ ↔ _
  rcases Grammar.take? c r with e | ⟨_ | u, u'⟩
  · constructor
    · rintro ⟨⟩
    · rintro ⟨⟩
  · constructor
    · rintro ⟨⟩
    · rintro ⟨⟩
  · constructor
    · rintro ⟨⟩
      rfl
    · rintro ⟨⟩
      rfl

theorem follows_take {c : Token → Bool} (hc : ∀ t : Token, t.IsStop → c t = false) :
    S.FollowsTaking k (fun _ => 1) (Grammar.take c) (Grammar.take c) := by
  intro p r r' hp h t s hs
  obtain ⟨p₁, s', hs', h₁, hl⟩ := follows_take? hc p r r' hp h (some t) s (take_eq_ok_iff.mp hs)
  exact ⟨p₁, s', take_eq_ok_iff.mpr hs', h₁, hl⟩

theorem FollowsTaking.bind_pure {j : β → Nat} (hf : S.FollowsTaking k i f f') (h : α → β)
    (hj : ∀ a, j (h a) ≤ i a) :
    S.FollowsTaking k j (f >>= fun a => pure (h a)) (f' >>= fun a => pure (h a)) := by
  intro p r r' hp ha b s hs
  obtain ⟨a, t, hr, ht⟩ := exists_of_bind_apply hs
  obtain ⟨p₁, s', hs', h₁, hx, hl⟩ := hf p r r' hp ha a t hr
  cases ht
  exact ⟨p₁, s', bind_apply hs', h₁, hx, Nat.le_trans (Nat.add_le_add_left (hj a) _) hl⟩

theorem follows_name : S.FollowsTaking k (fun _ => 1) Grammar.name Grammar.name :=
  (follows_take fun _ h => h.isName).bind_pure Token.name fun _ => Nat.le_refl 1

theorem follows_word? (w : String) :
    S.FollowsTaking k Bool.toNat (Grammar.word? w) (Grammar.word? w) :=
  (follows_take? fun _ h => h.isKeyword w).bind_pure Option.isSome fun _ => Nat.le_refl _

theorem follows_word (w : String) :
    S.FollowsTaking k (fun _ => 1) (Grammar.word w) (Grammar.word w) :=
  (follows_take fun _ h => h.isKeyword w).bind_pure _ fun _ => Nat.le_refl 1

theorem follows_symbol? {s : String} (hs : s ≠ ";") (hd : s ≠ "/") :
    S.FollowsTaking k Bool.toNat (Grammar.symbol? s) (Grammar.symbol? s) :=
  (follows_take? fun _ h => h.isSymbol hs hd).bind_pure Option.isSome fun _ => Nat.le_refl _

theorem follows_symbol {s : String} (hs : s ≠ ";") (hd : s ≠ "/") :
    S.FollowsTaking k (fun _ => 1) (Grammar.symbol s) (Grammar.symbol s) :=
  (follows_take fun _ h => h.isSymbol hs hd).bind_pure _ fun _ => Nat.le_refl 1

/-! ### Limits -/

theorem follows_wait (place : Nat) : S.Follows k (Grammar.wait place) (Grammar.wait place) :=
  .ite (fun _ => follows_throw _ _) fun _ => follows_pure ()

theorem follows_levelled (e : Expr) :
    S.Follows k (Grammar.levelled e) (Grammar.levelled e) :=
  .ite (fun _ => Follows.bind (follows_throw _ _) fun _ => follows_pure e) fun _ => follows_pure e

/-! ### Lists -/

theorem follows_separated {f f' : Read α} (hf : ∀ l ≤ k, S.Follows l f f') {n n' : Nat}
    (hn : k < n' ∨ n ≤ n') : S.Follows k (Grammar.separated f n) (Grammar.separated f' n') := by
  induction n generalizing k n' with
  | zero => exact follows_fail _
  | succ n ih =>
    obtain ⟨m, rfl⟩ := Nat.exists_eq_succ_of_ne_zero (show n' ≠ 0 by omega)
    refine (hf k (Nat.le_refl k)).bind fun a => ?_
    refine .branch (follows_symbol? (by decide) (by decide)) (fun hk => ?_) (follows_pure [a])
    exact (ih (fun l hl => hf l (by omega)) (by omega)).bind fun as => follows_pure (a :: as)

theorem follows_separatedAt {f f' : Nat → Read α}
    (hf : ∀ l ≤ k, ∀ place, S.Follows l (f place) (f' place)) {first later n n' : Nat}
    (hn : k < n') : S.Follows k (Grammar.separatedAt f first later n)
      (Grammar.separatedAt f' first later n') := by
  induction n generalizing k n' first with
  | zero => exact follows_fail _
  | succ n ih =>
    obtain ⟨m, rfl⟩ := Nat.exists_eq_succ_of_ne_zero (Nat.ne_zero_of_lt hn)
    refine (hf k (Nat.le_refl k) first).bind fun a => ?_
    refine .branch (follows_symbol? (by decide) (by decide)) (fun hk => ?_) (follows_pure [a])
    refine (follows_wait later).bind fun _ => ?_
    exact (ih (fun l hl => hf l (by omega)) (by omega)).bind fun as => follows_pure (a :: as)

/-! ### Places -/

/-- Where a text goes on that has some tokens left: at the first of them, or where the text ends. -/
def placeOf (text : List Char) : List Token → Nat
  | t :: _ => t.offset
  | [] => Text.byteLength (text.takeWhile (· != '\x00'))

theorem here_eq (r : Reader) : Grammar.here r = .ok (placeOf r.source r.rest, r) := by
  obtain ⟨source, _ | ⟨t, rest⟩, parameters⟩ := r
  · rfl
  · rfl

/-- Where the first reader stands. -/
def place (S : Sides) (p : List Token) : Nat := placeOf S.text (p ++ S.ahead)

/-- Where the second reader stands. -/
def place' (S : Sides) (p : List Token) : Nat := placeOf (S.text ++ S.blanks) (p ++ S.ahead')

theorem FollowsTaking.here_bind {g g' : Nat → Read α}
    (h : ∀ p, p.length ≤ k → S.FollowsTaking p.length i (g (S.place p)) (g' (S.place' p))) :
    S.FollowsTaking k i (Grammar.here >>= g) (Grammar.here >>= g') := by
  intro p r r' hp ha
  have hr : Grammar.here r = .ok (S.place p, r) := by
    rw [here_eq, ha.source, ha.rest]
    rfl
  have hr' : Grammar.here r' = .ok (S.place' p, r') := by
    rw [here_eq, ha.source', ha.rest']
    rfl
  intro a s hs
  rw [bind_apply hr] at hs
  rw [bind_apply hr']
  exact h p hp p r r' (Nat.le_refl _) ha a s hs

/-- The places of both readers are the same, or both texts end there. -/
theorem place_cases (S : Sides) (p : List Token) : S.place' p = S.place p ∨
    p = [] ∧ S.place p = Text.byteLength S.text ∧
      S.place' p = Text.byteLength (S.text ++ S.blanks) := by
  cases p with
  | cons t p => exact Or.inl rfl
  | nil =>
    rw [place, place', List.nil_append, List.nil_append]
    rcases S.stops with ⟨h, h'⟩ | ⟨d, rest, rest', h, h', -⟩
    · rw [h, h', placeOf, placeOf, List.takeWhile_append]
      split
      · rename_i hl
        have ht := List.IsPrefix.eq_of_length (List.takeWhile_prefix _) hl
        have hb : S.blanks.takeWhile (· != '\x00') = S.blanks := by
          refine List.takeWhile_eq_self_iff.mpr fun c hc => bne_iff_ne.mpr ?_
          rintro rfl
          cases S.isSpace _ hc
        exact Or.inr ⟨rfl, by rw [ht], by rw [hb]⟩
      · exact Or.inl rfl
    · rw [h, h']
      exact Or.inl rfl

end Sides

namespace Grammar

variable {s t : List Char} {n : Nat}

/-- The text without the blanks around it, as it is told of what was written. -/
def stripped (s : List Char) : List Char :=
  ((s.dropWhile Token.isSpace).reverse.dropWhile Token.isSpace).reverse

theorem between_eq (start stop : Nat) (r : Reader) :
    between start stop r =
      .ok (String.ofList (stripped (takeBytes (stop - start) (dropBytes start r.source))), r) := rfl

theorem stripped_append (ht : ∀ c ∈ t, Token.isSpace c = true) (s : List Char) :
    stripped (s ++ t) = stripped s := by
  have hr : t.reverse.dropWhile Token.isSpace = [] :=
    List.dropWhile_eq_nil_iff.mpr fun c hc => ht c (List.mem_reverse.mp hc)
  rw [stripped, stripped, List.dropWhile_append]
  split
  · rename_i hs
    rw [List.isEmpty_iff.mp hs, List.dropWhile_eq_nil_iff.mpr ht]
  · rw [List.reverse_append, List.dropWhile_append, hr]
    rfl

theorem takeBytes_zero (s : List Char) : takeBytes 0 s = [] := by
  cases s with
  | nil => rfl
  | cons c s => rfl

theorem takeBytes_append (n : Nat) (s t : List Char) :
    takeBytes n (s ++ t) = takeBytes n s ++ takeBytes (n - Text.byteLength s) t := by
  induction s generalizing n with
  | nil => rfl
  | cons c s ih =>
    rw [List.cons_append, takeBytes, takeBytes]
    split
    · rename_i hn
      rw [hn, Nat.zero_sub, takeBytes_zero]
      rfl
    · rw [ih, List.cons_append, Text.byteLength_cons, Nat.sub_sub]

theorem dropBytes_append (n : Nat) (s t : List Char) :
    dropBytes n (s ++ t) = dropBytes n s ++ dropBytes (n - Text.byteLength s) t := by
  induction s generalizing n with
  | nil => rfl
  | cons c s ih =>
    rw [List.cons_append, dropBytes, dropBytes]
    split
    · rename_i hn
      rw [hn, Nat.zero_sub]
      cases t with
      | nil => rfl
      | cons d t => rfl
    · rw [ih, Text.byteLength_cons, Nat.sub_sub]

theorem takeBytes_of_le (h : Text.byteLength s ≤ n) : takeBytes n s = s := by
  induction s generalizing n with
  | nil => rfl
  | cons c s ih =>
    rw [Text.byteLength_cons] at h
    have hc := c.utf8Size_pos
    rw [takeBytes, if_neg (by omega), ih (by omega)]

theorem byteLength_le_append (s t : List Char) :
    Text.byteLength s ≤ Text.byteLength (s ++ t) := by
  induction s with
  | nil => exact Nat.zero_le _
  | cons c s ih => exact Nat.add_le_add_left ih _

theorem byteLength_dropBytes_le (n : Nat) (s : List Char) :
    Text.byteLength (dropBytes n s) ≤ Text.byteLength s - n := by
  induction s generalizing n with
  | nil => exact Nat.zero_le _
  | cons c s ih =>
    have hi := ih (n - c.utf8Size)
    rw [dropBytes]
    split
    · rename_i hn
      rw [hn]
      exact Nat.le_refl _
    · rw [Text.byteLength_cons]
      omega

theorem mem_of_mem_takeBytes {c : Char} (h : c ∈ takeBytes n s) : c ∈ s := by
  induction s generalizing n with
  | nil => exact h
  | cons d s ih =>
    rw [takeBytes] at h
    split at h
    · cases h
    · rcases List.mem_cons.mp h with rfl | h
      · exact List.mem_cons_self
      · exact List.mem_cons_of_mem d (ih h)

theorem mem_of_mem_dropBytes {c : Char} (h : c ∈ dropBytes n s) : c ∈ s := by
  induction s generalizing n with
  | nil => exact h
  | cons d s ih =>
    rw [dropBytes] at h
    split at h
    · exact h
    · exact List.mem_cons_of_mem d (ih h)

/-- Blanks behind a text are not part of what stands between two places. -/
theorem stripped_append_bytes (ht : ∀ c ∈ t, Token.isSpace c = true) (start length : Nat) :
    stripped (takeBytes length (dropBytes start (s ++ t))) =
      stripped (takeBytes length (dropBytes start s)) := by
  rw [dropBytes_append, takeBytes_append]
  exact stripped_append (fun c hc => ht c (mem_of_mem_dropBytes (mem_of_mem_takeBytes hc))) _

end Grammar

namespace Sides

variable {S : Sides}

open Grammar in
theorem follows_between {k : Nat} {p p₁ : List Token} (hp : p₁.length ≤ p.length) :
    S.Follows k (between (S.place p) (S.place p₁)) (between (S.place' p) (S.place' p₁)) := by
  rintro p₂ r r' - h a s ⟨⟩
  refine ⟨p₂, r', ?_, h, List.suffix_rfl, Nat.le_refl _⟩
  rw [between_eq, h.source', h.source]
  suffices hw : stripped (takeBytes (S.place' p₁ - S.place' p)
      (dropBytes (S.place' p) (S.text ++ S.blanks))) =
      stripped (takeBytes (S.place p₁ - S.place p) (dropBytes (S.place p) S.text)) by
    rw [hw]
    rfl
  rcases S.place_cases p with hs | ⟨rfl, hs, hs'⟩
  · rcases S.place_cases p₁ with he | ⟨-, he, he'⟩
    · rw [hs, he, stripped_append_bytes S.isSpace]
    · -- The text between the places goes on to the end, so it is the same with blanks behind it.
      have hl := byteLength_dropBytes_le (S.place p) S.text
      have hl' : Text.byteLength (dropBytes (S.place p) S.text) ≤
          Text.byteLength (S.text ++ S.blanks) - S.place p :=
        Nat.le_trans hl (Nat.sub_le_sub_right (byteLength_le_append _ _) _)
      rw [hs, he, he', stripped_append_bytes S.isSpace, takeBytes_of_le hl, takeBytes_of_le hl']
  · have hn : p₁ = [] := List.eq_nil_of_length_eq_zero (Nat.eq_zero_of_le_zero hp)
    subst hn
    rw [Nat.sub_self, Nat.sub_self, takeBytes_zero, takeBytes_zero]

end Sides

end NamedSql.Sql
