import NamedSql.Proofs.Sql.Alongside

/-!
# Statements with a line feed behind them

The text of a statement may be kept with a line feed at its end or without. It is the same
statement: whatever is read of the shorter text is read of the longer one. The functions of the
grammar are gone through one by one, in the order in which they call each other, and each of them
reads the same of two texts that stand side by side. What is nested in an expression is shown for
all of its functions at once, by induction on the bound of their nesting.

## Scope

Only the first statement of a text is meant. What stands behind it may well change: a comment or a
string that is not closed goes on over the line feed. There is no converse: where a text ends as a
comment opens there is no comment yet, but an operator.

## Main definitions

* `Sides.Nested` — what is nested in an expression is read of both texts
* `Statement.tokensOf`, `Statement.parseOf` — a text from its first statement on, and how it is read

## Main results

* `Sides.nested` — expressions and queries are read of both texts
* `Sides.follows_statement` — statements are read of both texts
* `Statement.read_newline` — a line feed behind a text leaves its first statement as it is
-/

namespace NamedSql.Sql

namespace Sides

open Grammar

variable {S : Sides} {k : Nat}

/-! ### Parameters -/

section

variable {p : List Token} {r r' : Reader}

/-- Both readers number a parameter in the same way. -/
theorem tracks_set (ha : S.Alongside p r r') (names : List (Option String)) (number : Nat) :
    S.Tracks p r r' (fun _ => 0) (set { r with parameters := names } >>= fun _ => pure number)
      (set { r' with parameters := names } >>= fun _ => pure number) := by
  rintro a s ⟨⟩
  exact ⟨p, _, rfl, { ha with parameters := rfl }, List.suffix_rfl, Nat.le_refl _⟩

theorem tracks_next (t : Token) (ha : S.Alongside p r r') (name : Option String) :
    S.Tracks p r r' (fun _ => 0) (parameter.next t r name) (parameter.next t r' name) := by
  rw [parameter.next, parameter.next, ha.parameters]
  exact .ite (fun _ => nofun) fun _ => tracks_set ha _ _

theorem tracks_named (t : Token) (ha : S.Alongside p r r') (text : String) :
    S.Tracks p r r' (fun _ => 0) (parameter.named t r text) (parameter.named t r' text) := by
  rw [parameter.named, parameter.named, ha.parameters]
  cases r.parameters.findIdx? (· == some text) with
  | none => exact tracks_next t ha (some text)
  | some i => exact follows_pure (k := p.length) (i + 1) p r r' (Nat.le_refl _) ha

theorem follows_parameter (t : Token) : S.Follows k (parameter t) (parameter t) := by
  rw [parameter]
  refine .get_bind fun p r r' _ ha => ?_
  dsimp only
  split
  · exact tracks_next t ha none
  · rw [ha.parameters]
    exact .ite (fun _ => nofun) fun _ => tracks_set ha _ _
  · exact .ite (fun _ => nofun) fun _ => tracks_named t ha _
  · exact tracks_named t ha _

end

/-! ### Expressions -/

theorem follows_label? : S.Follows k label? label? := by
  refine .branch (follows_word? "as") (fun _ => ?_) ?_
  · exact follows_name.follows.bind fun name => follows_pure (some name)
  · refine FollowsTaking.bind (follows_take? fun t ht => ?_) fun t _ => follows_pure _
    rw [ht.isName]
    rfl

theorem follows_source : S.Follows k source source :=
  follows_name.follows.bind fun _ => follows_label?.bind fun _ => follows_pure _

/-- Expressions and what is nested in them are read of the second text as of the first one, if the
bounds on their nesting are large enough for the tokens that are left. -/
structure Nested (S : Sides) (n n' : Nat) : Prop where
  expr : ∀ {k : Nat}, 4 * k + 2 ≤ n → 4 * k + 2 ≤ n' → ∀ place least,
    S.Follows k (expr place n least) (expr place n' least)
  extend : ∀ {k : Nat}, 4 * k + 1 ≤ n → 4 * k + 1 ≤ n' → ∀ place least left,
    S.Follows k (extend place n least left) (extend place n' least left)
  operand : ∀ {k : Nat}, 4 * k + 1 ≤ n → 4 * k + 1 ≤ n' → ∀ place,
    S.Follows k (operand place n) (operand place n')
  call : ∀ {k : Nat}, 4 * k + 3 ≤ n → 4 * k + 3 ≤ n' → ∀ place t,
    S.Follows k (call place n t) (call place n' t)
  resultColumn : ∀ {k : Nat}, 4 * k + 3 ≤ n → 4 * k + 3 ≤ n' → ∀ place,
    S.Follows k (resultColumn place n) (resultColumn place n')
  orderTerm : ∀ {k : Nat}, 4 * k + 3 ≤ n → 4 * k + 3 ≤ n' → ∀ place,
    S.Follows k (orderTerm place n) (orderTerm place n')
  select : ∀ {k : Nat}, 4 * k + 1 ≤ n → 4 * k + 1 ≤ n' → ∀ place,
    S.Follows k (select place n) (select place n')

namespace Nested

variable {n n' : Nat}

theorem follows_expr (h : S.Nested n n') (hn : 4 * k + 2 ≤ n + 1) (hn' : 4 * k + 2 ≤ n' + 1)
    (place least : Nat) :
    S.Follows k (Grammar.expr place (n + 1) least) (Grammar.expr place (n' + 1) least) := by
  rw [Grammar.expr, Grammar.expr]
  exact (h.operand (by omega) (by omega) place).bind fun left =>
    h.extend (by omega) (by omega) place least left

theorem follows_orderTerm (h : S.Nested n n') (hn : 4 * k + 3 ≤ n + 1) (hn' : 4 * k + 3 ≤ n' + 1)
    (place : Nat) :
    S.Follows k (Grammar.orderTerm place (n + 1)) (Grammar.orderTerm place (n' + 1)) := by
  rw [Grammar.orderTerm, Grammar.orderTerm]
  refine (h.expr (by omega) (by omega) place 0).bind fun e => (follows_wait _).bind fun _ => ?_
  refine .branch (follows_word? "asc") (fun _ => follows_pure _) ?_
  exact (follows_word? "desc").bind fun _ _ => follows_pure _

theorem follows_select (h : S.Nested n n') (hn : 4 * k + 1 ≤ n + 1) (hn' : 4 * k + 1 ≤ n' + 1)
    (place : Nat) :
    S.Follows k (Grammar.select place (n + 1)) (Grammar.select place (n' + 1)) := by
  rw [Grammar.select, Grammar.select]
  refine (follows_word "select").bind fun _ hk => ?_
  refine Follows.bind (follows_separatedAt ?_ (by omega)) fun columns => ?_
  · exact fun l hl place => h.resultColumn (by omega) (by omega) place
  refine .optional (follows_word? "from") (fun _ => follows_source) fun l hl source => ?_
  refine .optional (follows_word? "where") (fun hk => ?_) fun l hl condition => ?_
  · exact h.expr (by omega) (by omega) (place + 4) 0
  refine .branch (follows_word? "order") (fun hk => ?_) ?_
  · refine (follows_wait _).bind fun _ => (follows_word "by").bind fun _ hk => ?_
    refine Follows.bind (follows_separatedAt ?_ (by omega)) fun order => ?_
    · exact fun l hl place => h.orderTerm (by omega) (by omega) place
    exact (follows_wait _).bind fun _ => follows_pure _
  · exact (follows_wait _).bind fun _ => follows_pure _

theorem follows_call (h : S.Nested n n') (hn : 4 * k + 3 ≤ n + 1) (hn' : 4 * k + 3 ≤ n' + 1)
    (place : Nat) (t : Token) :
    S.Follows k (Grammar.call place (n + 1) t) (Grammar.call place (n' + 1) t) := by
  rw [Grammar.call, Grammar.call]
  refine (follows_wait _).bind fun _ => ?_
  refine .branch (follows_symbol? (by decide) (by decide)) (fun hk => ?_) ?_
  · exact (follows_wait _).bind fun _ => follows_pure _
  refine .branch (follows_symbol? (by decide) (by decide)) (fun hk => ?_) ?_
  · exact (follows_symbol (by decide) (by decide)).bind fun _ _ =>
      (follows_wait _).bind fun _ => follows_pure _
  refine (follows_wait _).bind fun _ => ?_
  refine Follows.bind (follows_separatedAt ?_ (by omega)) fun arguments => ?_
  · exact fun l hl place => h.expr (by omega) (by omega) place 0
  refine (follows_symbol (by decide) (by decide)).bind fun _ _ => (follows_wait _).bind fun _ => ?_
  refine .ite (fun _ => ?_) fun _ => follows_levelled _
  refine follows_peek.bind fun next => .ite (fun _ => ?_) fun _ => ?_
  · exact Follows.bind (follows_fail _) fun _ =>
      Follows.bind (follows_throw _ _) fun _ => follows_levelled _
  · exact Follows.bind (follows_throw _ _) fun _ => follows_levelled _

/-- A table all of whose columns are meant, if tokens start with one. -/
def starred? : List Token → Option Token
  | t :: dot :: star :: _ =>
    if t.isName && dot.isSymbol "." && star.isSymbol "*" then some t else none
  | _ => none

/-- An expression among the things that a query returns, with the text in which it is written. -/
def valueColumn (place n : Nat) : Read ResultColumn := do
  let start ← here
  let e ← Grammar.expr place n 0
  let written ← between start (← here)
  return .value e (← label?) written

theorem resultColumn_eq (place n : Nat) :
    Grammar.resultColumn place (n + 1) =
      (symbol? "*" >>= fun everything => if everything = true then pure .everything else
        get >>= fun r => (starred? r.rest).elim (valueColumn place n) fun t =>
          skip 3 >>= fun _ => pure (.allOf t.name)) := by
  rw [Grammar.resultColumn]
  refine congrArg (symbol? "*" >>= ·) (funext fun everything => ?_)
  refine if_congr Iff.rfl rfl (congrArg (get >>= ·) (funext fun r => ?_))
  obtain ⟨source, rest, parameters⟩ := r
  rcases rest with _ | ⟨t, _ | ⟨dot, _ | ⟨star, rest⟩⟩⟩
  · rfl
  · rfl
  · rfl
  · dsimp only [starred?]
    split
    · rfl
    · rfl

/-- Tokens that start with such a table have it before a token with which no statement goes on. -/
theorem starred?_append {p q : List Token} (hq : ∀ d ∈ q.head?, d.IsStop) :
    starred? (p ++ q) = starred? p := by
  rcases p with _ | ⟨a, _ | ⟨b, _ | ⟨c, p⟩⟩⟩
  · rcases q with _ | ⟨d, _ | ⟨e, _ | ⟨f, q⟩⟩⟩
    · rfl
    · rfl
    · rfl
    · rw [List.nil_append, starred?, (hq d rfl).isName]
      rfl
  · rcases q with _ | ⟨d, _ | ⟨e, q⟩⟩
    · rfl
    · rfl
    · rw [List.cons_append, List.nil_append, starred?,
        (hq d rfl).isSymbol (by decide) (by decide), Bool.and_false]
      rfl
  · rcases q with _ | ⟨d, q⟩
    · rfl
    · rw [List.cons_append, List.cons_append, List.nil_append, starred?,
        (hq d rfl).isSymbol (by decide) (by decide), Bool.and_false]
      rfl
  · rfl

theorem exists_of_starred? {p : List Token} {t : Token} (h : starred? p = some t) :
    ∃ p₀ p₁, p = p₀ ++ p₁ ∧ p₀.length = 3 := by
  rcases p with _ | ⟨a, _ | ⟨b, _ | ⟨c, p⟩⟩⟩
  · cases h
  · cases h
  · cases h
  · exact ⟨[a, b, c], p, rfl, rfl⟩

theorem follows_valueColumn (h : S.Nested n n') (hn : 4 * k + 2 ≤ n) (hn' : 4 * k + 2 ≤ n')
    (place : Nat) : S.Follows k (valueColumn place n) (valueColumn place n') := by
  refine .here_bind fun p hp => ?_
  refine (h.expr (by omega) (by omega) place 0).bind fun e => .here_bind fun p₁ hp₁ => ?_
  exact (follows_between hp₁).bind fun written => follows_label?.bind fun _ => follows_pure _

theorem follows_resultColumn (h : S.Nested n n') (hn : 4 * k + 3 ≤ n + 1)
    (hn' : 4 * k + 3 ≤ n' + 1) (place : Nat) :
    S.Follows k (Grammar.resultColumn place (n + 1)) (Grammar.resultColumn place (n' + 1)) := by
  rw [resultColumn_eq, resultColumn_eq]
  refine .branch (follows_symbol? (by decide) (by decide)) (fun hk => follows_pure _) ?_
  refine .get_bind fun p r r' hp ha => ?_
  rw [ha.rest, ha.rest', starred?_append fun _ => S.isStop_of_mem_head?_ahead,
    starred?_append fun _ => S.isStop_of_mem_head?_ahead']
  cases hs : starred? p with
  | none => exact follows_valueColumn h (by omega) (by omega) place p r r' hp ha
  | some t =>
    obtain ⟨p₀, p₁, rfl, hl⟩ := exists_of_starred? hs
    dsimp only [Option.elim]
    rw [← hl]
    exact .skip p₀ (follows_pure _) ha hp

theorem operator?_of_stop {q : List Token} (hq : ∀ d ∈ q.head?, d.IsStop) : operator? q = none := by
  cases q with
  | nil => rfl
  | cons d q => exact (hq d rfl).operator? q

theorem operator?_congr (t : Token) {rest rest' : List Token} (h : rest'.head? = rest.head?) :
    operator? (t :: rest') = operator? (t :: rest) := by
  rw [operator?, operator?, h]

/-- An operator is one token, or one and the word for its negation. -/
theorem length_of_operator? {q : List Token} {op : BinaryOp} {precedence length : Nat}
    (h : operator? q = some (op, precedence, length)) :
    length = 1 ∨ length = 2 ∧ ∃ t u rest, q = t :: u :: rest ∧ u.isKeyword "not" = true := by
  revert h
  fun_cases operator? q with
  | case1 => exact nofun
  | case6 t rest _ _ _ _ _ hn =>
    rintro ⟨⟩
    cases rest with
    | nil => cases hn
    | cons u rest => exact Or.inr ⟨rfl, t, u, rest, rfl, hn⟩
  | case15 => exact nofun
  | _ =>
    rintro ⟨⟩
    exact Or.inl rfl

/-- An operator that stands before a token with which no statement goes on does not reach it. -/
theorem exists_operator {t : Token} {p q : List Token} {op : BinaryOp} {precedence length : Nat}
    (hq : ∀ d ∈ q.head?, d.IsStop)
    (h : operator? (t :: (p ++ q)) = some (op, precedence, length)) :
    ∃ p₀ p₁, t :: p = p₀ ++ p₁ ∧ p₀.length = length ∧ 0 < length := by
  rcases length_of_operator? h with rfl | ⟨rfl, _, u, rest, he, hn⟩
  · exact ⟨[t], p, rfl, rfl, Nat.one_pos⟩
  · cases p with
    | nil =>
      rw [(hq u (congrArg List.head? (List.cons.inj he).2 ▸ rfl)).isKeyword] at hn
      cases hn
    | cons u p => exact ⟨[t, u], p, rfl, rfl, Nat.two_pos⟩

theorem follows_extend (h : S.Nested n n') (hn : 4 * k + 1 ≤ n + 1) (hn' : 4 * k + 1 ≤ n' + 1)
    (place least : Nat) (left : Expr) :
    S.Follows k (Grammar.extend place (n + 1) least left)
      (Grammar.extend place (n' + 1) least left) := by
  rw [Grammar.extend, Grammar.extend]
  refine .get_bind fun p r r' hp ha => ?_
  have hl := follows_pure (k := k) left p r r' hp ha
  rw [ha.rest, ha.rest']
  cases p with
  | nil =>
    rw [List.nil_append, List.nil_append, operator?_of_stop fun _ => S.isStop_of_mem_head?_ahead,
      operator?_of_stop fun _ => S.isStop_of_mem_head?_ahead']
    exact hl
  | cons t p =>
    rw [List.cons_append, List.cons_append, operator?_congr t (S.head?_ahead p)]
    cases ho : operator? (t :: (p ++ S.ahead)) with
    | none => exact hl
    | some o =>
      obtain ⟨op, precedence, length⟩ := o
      obtain ⟨p₀, p₁, he, rfl, hpos⟩ := exists_operator (fun _ => S.isStop_of_mem_head?_ahead) ho
      rw [he] at hl ha hp ⊢
      have hk := hp
      rw [List.length_append] at hk
      refine .ite (fun _ => hl) fun _ => .skip p₀ ?_ ha hp
      exact (follows_wait _).bind fun _ => (h.expr (by omega) (by omega) _ _).bind fun right =>
        (follows_levelled _).bind fun e => h.extend (by omega) (by omega) place least e

theorem follows_operand (h : S.Nested n n') (hn : 4 * k + 1 ≤ n + 1) (hn' : 4 * k + 1 ≤ n' + 1)
    (place : Nat) :
    S.Follows k (Grammar.operand place (n + 1)) (Grammar.operand place (n' + 1)) := by
  rw [Grammar.operand, Grammar.operand]
  refine fun p r r' hp ha => .peek_bind ha ?_
  cases p with
  | nil =>
    rw [List.nil_append]
    cases hd : S.ahead.head? with
    | none => exact follows_fail (k := k) _ [] r r' hp ha
    | some d =>
      have hs := S.isStop_of_mem_head?_ahead hd
      have hk : d.kind ≠ .parameter := by
        rcases hs.kind with h | h <;> rw [h] <;> decide
      refine .of_eq_fail ?_
      dsimp only
      rw [if_neg hk, hs.literal?]
      dsimp only
      rw [hs.isKeyword, hs.isSymbol (by decide) (by decide), hs.isSymbol (by decide) (by decide),
        hs.isSymbol (by decide) (by decide), hs.isIdentifier]
      rfl
  | cons t p =>
    have hl : [t].length = 1 := rfl
    have hk : 1 ≤ k := Nat.le_trans (Nat.succ_le_succ (Nat.zero_le _)) hp
    dsimp only [List.cons_append, List.head?_cons]
    refine .ite (fun _ => .skip [t] ?_ ha hp) fun _ => ?_
    · exact (follows_wait _).bind fun _ => (follows_parameter t).bind fun _ => follows_pure _
    cases literal? t with
    | some l =>
      refine .skip [t] ?_ ha hp
      exact (follows_wait _).bind fun _ => follows_pure _
    | none =>
      dsimp only
      refine .ite (fun _ => .skip [t] ?_ ha hp) fun _ => ?_
      · exact (follows_wait _).bind fun _ => (h.expr (by omega) (by omega) _ _).bind fun _ =>
          follows_levelled _
      refine .ite (fun _ => .skip [t] ?_ ha hp) fun _ => ?_
      · exact (follows_wait _).bind fun _ => (h.operand (by omega) (by omega) _).bind fun _ =>
          follows_levelled _
      refine .ite (fun _ => .skip [t] ?_ ha hp) fun _ => ?_
      · exact (follows_wait _).bind fun _ => (h.operand (by omega) (by omega) _).bind fun _ =>
          follows_levelled _
      refine .ite (fun _ => .skip [t] ?_ ha hp) fun _ => ?_
      · refine (follows_wait _).bind fun _ => follows_peek.bind fun next => ?_
        cases next with
        | none => exact follows_fail _
        | some s =>
          refine .ite (fun _ => ?_) fun _ => ?_
          · exact (h.select (by omega) (by omega) _).bind fun query =>
              (follows_symbol (by decide) (by decide)).bind fun _ _ => follows_levelled _
          · exact (h.expr (by omega) (by omega) _ _).bind fun e =>
              (follows_symbol (by decide) (by decide)).bind fun _ _ =>
                (follows_wait _).bind fun _ => follows_pure e
      refine .ite (fun _ => .skip [t] ?_ ha hp) fun _ => ?_
      · refine (follows_wait _).bind fun _ => ?_
        refine .branch (follows_symbol? (by decide) (by decide)) (fun hk => ?_) ?_
        · exact h.call (by omega) (by omega) place t
        refine .branch (follows_symbol? (by decide) (by decide)) (fun hk => ?_) (follows_pure _)
        exact (follows_wait _).bind fun _ => follows_name.follows.bind fun _ =>
          (follows_wait _).bind fun _ => follows_pure _
      exact follows_fail (k := k) _ (t :: p) r r' hp ha

end Nested

theorem nested (S : Sides) (n n' : Nat) : S.Nested n n' := by
  induction n generalizing n' with
  | zero => constructor <;> intros <;> omega
  | succ n ih =>
    cases n' with
    | zero => constructor <;> intros <;> omega
    | succ n' =>
      exact
        { expr := (ih n').follows_expr
          extend := (ih n').follows_extend
          operand := (ih n').follows_operand
          call := (ih n').follows_call
          resultColumn := (ih n').follows_resultColumn
          orderTerm := (ih n').follows_orderTerm
          select := (ih n').follows_select }

/-! ### Statements -/

section

variable {n n' : Nat}

theorem follows_expr (hn : 4 * k + 2 ≤ n) (hn' : 4 * k + 2 ≤ n') (place : Nat) :
    S.Follows k (expr place n 0) (expr place n' 0) := (S.nested n n').expr hn hn' place 0

theorem follows_condition? (hn : 4 * k + 2 ≤ n) (hn' : 4 * k + 2 ≤ n') (place : Nat) :
    S.Follows k (condition? place n) (condition? place n') := by
  refine .branch (follows_word? "where") (fun hk => ?_) (follows_pure none)
  exact (follows_expr (by omega) (by omega) place).bind fun e => follows_pure _

theorem follows_returning (hn : 4 * k + 2 ≤ n) (hn' : 4 * k + 2 ≤ n') (place : Nat) :
    S.Follows k (returning place n) (returning place n') := by
  refine .branch (follows_word? "returning") (fun hk => ?_) (follows_pure [])
  refine follows_separatedAt (fun l hl place => ?_) (by omega)
  exact (S.nested n n').resultColumn (by omega) (by omega) place

theorem follows_conflict : S.Follows k conflict conflict := by
  refine .branch (follows_word? "or") (fun _ => ?_) (follows_pure _)
  refine .branch (follows_word? "rollback") (fun _ => follows_pure _) ?_
  refine .branch (follows_word? "abort") (fun _ => follows_pure _) ?_
  refine .branch (follows_word? "fail") (fun _ => follows_pure _) ?_
  refine .branch (follows_word? "ignore") (fun _ => follows_pure _) ?_
  exact (follows_word "replace").bind fun _ _ => follows_pure _

theorem follows_row (hn : 4 * k + 2 ≤ n) (hn' : 4 * k + 2 ≤ n') (place : Nat) :
    S.Follows k (row n place) (row n' place) := by
  refine (follows_symbol (by decide) (by decide)).bind fun _ hk => ?_
  refine Follows.bind (follows_separatedAt ?_ (by omega)) fun values => ?_
  · exact fun l hl place => follows_expr (by omega) (by omega) place
  exact (follows_symbol (by decide) (by decide)).bind fun _ _ => follows_pure values

/-- The rows of an insertion, and what it returns. -/
def insertedRows (before n : Nat) (table : String) (conflict : Conflict)
    (columns : Option (List String)) : Read Insert := do
  word "values"
  let rows ← separatedAt (row n) (before + 7) (before + 8) n
  return ⟨table, conflict, columns, rows, ← returning (before + 9) n⟩

theorem follows_rows (hn : 4 * k + 2 ≤ n) (hn' : 4 * k + 2 ≤ n') (before : Nat) (table : String)
    (conflict : Conflict) (columns : Option (List String)) :
    S.Follows k (insertedRows before n table conflict columns)
      (insertedRows before n' table conflict columns) := by
  refine (follows_word "values").bind fun _ hk => ?_
  refine Follows.bind (follows_separatedAt ?_ (by omega)) fun rows => ?_
  · exact fun m hm place => follows_row (by omega) (by omega) place
  exact (follows_returning (by omega) (by omega) _).bind fun _ => follows_pure _

theorem follows_insertInto (hn : 4 * k + 2 ≤ n) (hn' : 4 * k + 2 ≤ n') (before : Nat)
    (conflict : Conflict) :
    S.Follows k (insertInto before n conflict) (insertInto before n' conflict) := by
  refine (follows_word "into").bind fun _ hk => follows_name.bind fun table hk' => ?_
  refine .branch (follows_symbol? (by decide) (by decide)) (fun hk'' => ?_) ?_
  · refine Follows.bind (follows_separated (fun _ _ => follows_name.follows) (by omega))
      fun columns => (follows_symbol (by decide) (by decide)).bind fun _ hk₃ => ?_
    exact follows_rows (by omega) (by omega) before table conflict (some columns)
  · exact follows_rows (by omega) (by omega) before table conflict none

theorem follows_assignment (hn : 4 * k + 2 ≤ n) (hn' : 4 * k + 2 ≤ n') (place : Nat) :
    S.Follows k (assignment n place) (assignment n' place) :=
  follows_name.bind fun _ hk => (follows_symbol (by decide) (by decide)).bind fun _ _ =>
    (follows_expr (by omega) (by omega) place).bind fun _ => follows_pure _

theorem follows_update (hn : 4 * k + 2 ≤ n) (hn' : 4 * k + 2 ≤ n') (before : Nat) :
    S.Follows k (update before n) (update before n') := by
  refine follows_conflict.bind fun conflict => follows_name.bind fun table hk => ?_
  refine (follows_word "set").bind fun _ hk' => ?_
  refine Follows.bind (follows_separatedAt ?_ (by omega)) fun assignments => ?_
  · exact fun m hm place => follows_assignment (by omega) (by omega) place
  refine (follows_condition? (by omega) (by omega) _).bind fun condition => ?_
  exact (follows_returning (by omega) (by omega) _).bind fun _ => follows_pure _

theorem follows_delete (hn : 4 * k + 2 ≤ n) (hn' : 4 * k + 2 ≤ n') (before : Nat) :
    S.Follows k (delete before n) (delete before n') := by
  refine (follows_word "from").bind fun _ hk => follows_name.bind fun table hk' => ?_
  refine (follows_condition? (by omega) (by omega) _).bind fun condition => ?_
  exact (follows_returning (by omega) (by omega) _).bind fun _ => follows_pure _

theorem isNumber_eq_false {t : Token} (h : t.IsStop) :
    (t.kind == .integer || t.kind == .real) = false := by
  rcases h.kind with h | h <;> rw [h] <;> rfl

theorem follows_signedNumber : S.Follows k signedNumber signedNumber := by
  have ht : ∀ {l} (v : Token → Value),
      S.Follows l (take (fun t => t.kind == .integer || t.kind == .real) >>= fun t => pure (v t))
        (take (fun t => t.kind == .integer || t.kind == .real) >>= fun t => pure (v t)) :=
    fun v => (follows_take fun _ h => isNumber_eq_false h).bind fun t _ => follows_pure _
  refine (follows_symbol? (by decide) (by decide)).bind fun negative _ => ?_
  cases negative with
  | true => exact ht _
  | false => exact (follows_symbol? (by decide) (by decide)).bind fun _ _ => ht _

theorem follows_typeWords (hn : k < n) (hn' : k < n') :
    S.Follows k (typeWords n) (typeWords n') := by
  induction n generalizing k n' with
  | zero => exact absurd hn (Nat.not_lt_zero k)
  | succ n ih =>
    obtain ⟨m, rfl⟩ := Nat.exists_eq_succ_of_ne_zero (Nat.ne_zero_of_lt hn')
    refine (follows_take? fun _ h => h.isName).bind fun t hk => ?_
    cases t with
    | none => exact follows_pure false
    | some t =>
      change 1 ≤ k at hk
      exact (ih (k := k - 1) (by omega) (by omega)).bind fun _ => follows_pure true

theorem follows_columnType (hn : k < n) (hn' : k < n') :
    S.Follows k (columnType n) (columnType n') := by
  refine .here_bind fun p hp => ?_
  -- The place at the end of the text is compared to the one at which the type may start.
  have hw : ∀ {l}, l ≤ p.length → S.Follows l (here >>= fun stop => between (S.place p) stop)
      (here >>= fun stop => between (S.place' p) stop) := fun hl =>
    .here_bind fun p₁ hp₁ => follows_between (Nat.le_trans hp₁ hl)
  refine (follows_typeWords (by omega) (by omega)).bind fun typed => ?_
  refine .ite (fun _ => ?_) fun _ => hw (Nat.le_refl _)
  refine .branch (follows_symbol? (by decide) (by decide)) (fun hk => ?_) (hw (Nat.le_refl _))
  refine Follows.bind (follows_separated (fun _ _ => follows_signedNumber) (by omega)) fun _ => ?_
  exact (follows_symbol (by decide) (by decide)).bind fun _ hk' => hw (by omega)

theorem follows_columnRule? (hn : 4 * k + 2 ≤ n) (hn' : 4 * k + 2 ≤ n') (place : Nat)
    (label : Option String) : S.FollowsTaking k (fun rule => rule.isSome.toNat)
      (columnRule? place n label) (columnRule? place n' label) := by
  have hi : ∀ rule : Option ColumnRule, rule.isSome.toNat ≤ 1 := fun rule => Bool.toNat_le _
  refine .branch_taking hi (follows_word? "primary") (fun _ => ?_) ?_
  · refine (follows_word "key").bind fun _ _ => ?_
    refine .branch (follows_word? "asc") (fun _ => follows_pure _) ?_
    exact (follows_word? "desc").bind fun _ _ => follows_pure _
  refine .branch_taking hi (follows_word? "unique") (fun _ => follows_pure _) ?_
  refine .branch_taking hi (follows_word? "not") (fun _ => ?_) ?_
  · refine .branch (follows_word? "deferrable") (fun _ => ?_) ?_
    · refine .branch (follows_word? "initially") (fun _ => ?_) (follows_pure _)
      refine (follows_word? "deferred").bind fun _ _ => .ite (fun _ => ?_) fun _ => follows_pure _
      exact (follows_word "immediate").bind fun _ _ => follows_pure _
    · exact (follows_word "null").bind fun _ _ => follows_pure _
  refine .branch_taking hi (follows_word? "default") (fun _ => ?_) ?_
  · refine follows_peek.bind fun next => ?_
    split
    · exact follows_signedNumber.bind fun _ => follows_pure _
    · refine (follows_take fun t ht => ?_).bind fun t _ => follows_pure _
      rw [ht.literal?, ht.isIdentifier]
      rfl
  refine .branch_taking hi (follows_word? "check") (fun hk => ?_) ?_
  · refine (follows_symbol (by decide) (by decide)).bind fun _ hk' => .here_bind fun p hp => ?_
    refine (follows_expr (by omega) (by omega) place).bind fun e => .here_bind fun p₁ hp₁ => ?_
    exact (follows_between hp₁).bind fun _ =>
      (follows_symbol (by decide) (by decide)).bind fun _ _ => follows_pure _
  refine .branch_taking hi (follows_word? "references") (fun _ => ?_) ?_
  · refine follows_name.bind fun parent _ => ?_
    refine .branch (follows_symbol? (by decide) (by decide)) (fun _ => ?_) (follows_pure _)
    exact follows_name.bind fun _ _ =>
      (follows_symbol (by decide) (by decide)).bind fun _ _ => follows_pure _
  refine .branch_taking hi (follows_word? "deferrable") (fun _ => ?_) (followsTaking_pure rfl)
  refine .branch (follows_word? "initially") (fun _ => ?_) (follows_pure _)
  refine .branch (follows_word? "deferred") (fun _ => follows_pure _) ?_
  exact (follows_word "immediate").bind fun _ _ => follows_pure _

theorem follows_columnRules (hn : 4 * k + 2 ≤ n) (hn' : 4 * k + 2 ≤ n') (place : Nat) {m m' : Nat}
    (hm : k < m) (hm' : k < m') :
    S.Follows k (columnRules place n m) (columnRules place n' m') := by
  induction m generalizing k m' with
  | zero => exact absurd hm (Nat.not_lt_zero k)
  | succ m ih =>
    obtain ⟨m', rfl⟩ := Nat.exists_eq_succ_of_ne_zero (Nat.ne_zero_of_lt hm')
    rw [columnRules, columnRules]
    refine .optional (follows_word? "constraint") (fun _ => follows_name.follows)
      fun l hl label => ?_
    refine (follows_columnRule? (by omega) (by omega) place label).bind fun rule hr => ?_
    cases rule with
    | none => exact follows_pure []
    | some rule =>
      change 1 ≤ l at hr
      exact (ih (k := l - 1) (by omega) (by omega) (by omega) (by omega)).bind fun _ =>
        follows_pure _

theorem follows_columnDefinition (hn : 4 * k + 2 ≤ n) (hn' : 4 * k + 2 ≤ n') (place : Nat) :
    S.Follows k (columnDefinition n place) (columnDefinition n' place) := by
  refine follows_name.bind fun column hk => ?_
  refine (follows_columnType (by omega) (by omega)).bind fun type => ?_
  exact (follows_columnRules (by omega) (by omega) place (by omega) (by omega)).bind fun _ =>
    follows_pure _

/-- The table that a statement creates, and its columns. -/
def createdTable (before n : Nat) (ifNotExists : Bool) : Read CreateTable := do
  let t ← take Token.isName
  symbol "("
  let columns ← separatedAt (columnDefinition n) (before + 6) (before + 8) n
  symbol ")"
  return ⟨t.name, t.offset, ifNotExists, columns⟩

theorem follows_createdTable (hn : 4 * k + 2 ≤ n) (hn' : 4 * k + 2 ≤ n') (before : Nat)
    (ifNotExists : Bool) :
    S.Follows k (createdTable before n ifNotExists) (createdTable before n' ifNotExists) := by
  refine (follows_take fun _ h => h.isName).bind fun t hk => ?_
  refine (follows_symbol (by decide) (by decide)).bind fun _ hk' => ?_
  refine Follows.bind (follows_separatedAt ?_ (by omega)) fun columns => ?_
  · exact fun m hm place => follows_columnDefinition (by omega) (by omega) place
  exact (follows_symbol (by decide) (by decide)).bind fun _ _ => follows_pure _

theorem follows_createTable (hn : 4 * k + 2 ≤ n) (hn' : 4 * k + 2 ≤ n') (before : Nat) :
    S.Follows k (createTable before n) (createTable before n') := by
  refine (follows_word "table").bind fun _ hk => (follows_word? "if").bind fun ifNotExists _ => ?_
  refine .ite (fun _ => ?_) fun _ => follows_createdTable (by omega) (by omega) before ifNotExists
  refine (follows_word "not").bind fun _ hk' => (follows_word "exists").bind fun _ hk'' => ?_
  exact follows_createdTable (by omega) (by omega) before ifNotExists

theorem follows_transactionName : S.Follows k transactionName transactionName := by
  refine .branch (follows_word? "transaction") (fun _ => ?_) (follows_pure ())
  refine FollowsTaking.bind (follows_take? fun t ht => ?_) fun _ _ => follows_pure ()
  rw [ht.isName]
  rfl

theorem follows_pragmaValue : S.Follows k pragma.pragmaValue pragma.pragmaValue := by
  refine .branch (follows_symbol? (by decide) (by decide)) (fun _ => ?_) ?_
  · exact (follows_take fun _ h => isNumber_eq_false h).bind fun _ _ => follows_pure _
  refine .branch (follows_symbol? (by decide) (by decide)) (fun _ => ?_) ?_
  · exact (follows_take fun _ h => isNumber_eq_false h).bind fun _ _ => follows_pure _
  refine (follows_take fun t h => ?_).bind fun _ _ => follows_pure _
  dsimp only
  rw [h.isName, isNumber_eq_false h, h.isKeyword, h.isKeyword, h.isKeyword]
  rfl

theorem follows_pragma : S.Follows k pragma pragma := by
  refine follows_name.bind fun key _ => ?_
  refine .branch (follows_symbol? (by decide) (by decide)) (fun _ => ?_) ?_
  · exact follows_pragmaValue.bind fun _ => follows_pure _
  refine .branch (follows_symbol? (by decide) (by decide)) (fun _ => ?_) (follows_pure _)
  exact follows_pragmaValue.bind fun _ =>
    (follows_symbol (by decide) (by decide)).bind fun _ _ => follows_pure _

/-- Whether tokens start with the word for a savepoint and its name. -/
def namesSavepoint : List Token → Bool
  | t :: u :: _ => t.isKeyword "savepoint" && u.isName
  | _ => false

theorem namesSavepoint_append {p q : List Token} (hq : ∀ d ∈ q.head?, d.IsStop) :
    namesSavepoint (p ++ q) = namesSavepoint p := by
  rcases p with _ | ⟨a, _ | ⟨b, p⟩⟩
  · rcases q with _ | ⟨d, _ | ⟨e, q⟩⟩
    · rfl
    · rfl
    · rw [List.nil_append, namesSavepoint, (hq d rfl).isKeyword]
      rfl
  · rcases q with _ | ⟨d, q⟩
    · rfl
    · rw [List.cons_append, List.nil_append, namesSavepoint, (hq d rfl).isName, Bool.and_false]
      rfl
  · rfl

theorem savepointWord_eq : statement.savepointWord =
    get >>= fun r => if namesSavepoint r.rest = true then skip 1 else pure () := by
  refine congrArg (get >>= ·) (funext fun r => ?_)
  obtain ⟨source, rest, parameters⟩ := r
  rcases rest with _ | ⟨t, _ | ⟨u, rest⟩⟩
  · rfl
  · rfl
  · rfl

theorem follows_savepointWord :
    S.Follows k statement.savepointWord statement.savepointWord := by
  rw [savepointWord_eq]
  refine .get_bind fun p r r' hp ha => ?_
  rw [ha.rest, ha.rest', namesSavepoint_append fun _ => S.isStop_of_mem_head?_ahead,
    namesSavepoint_append fun _ => S.isStop_of_mem_head?_ahead']
  refine .ite (fun hs => ?_) fun _ => follows_pure () p r r' hp ha
  cases p with
  | nil => cases hs
  | cons t p => exact tracks_skip [t] ha

theorem isKeyword_of_ne {t : Token} {v w : String} (h : t.isKeyword v = true) (hw : v ≠ w) :
    t.isKeyword w = false := by
  rw [Token.isKeyword, beq_iff_eq] at h
  rw [Token.isKeyword, h]
  exact beq_eq_false_iff_ne.mpr fun he => hw (Option.some.inj he)

theorem word?_branch_of_head {α : Type} {r : Reader} {w : String}
    (h : ∀ t ∈ r.rest.head?, t.isKeyword w = false) (f e : Read α) :
    (word? w >>= fun x => if x = true then f else e) r = e r := by
  have hw : word? w r = .ok (false, r) := bind_apply (take?_of_forall h)
  exact bind_apply hw

/-- What is read at the end of a transaction. -/
theorem statement_of_commit {r : Reader} {t : Token} (h : r.rest.head? = some t)
    (ht : (t.isKeyword "commit" || t.isKeyword "end") = true) (before n : Nat) :
    statement before n r =
      (skip 1 >>= fun _ => transactionName >>= fun _ => pure (.control .commit) : Read Statement)
        r := by
  have hw : ∀ w, "commit" ≠ w → "end" ≠ w → ∀ u ∈ r.rest.head?, u.isKeyword w = false := by
    intro w hc he u hu
    rw [h] at hu
    cases hu
    rcases Bool.or_eq_true_iff.mp ht with ht | ht
    · exact isKeyword_of_ne ht hc
    · exact isKeyword_of_ne ht he
  have hp : peek r = .ok (some t, r) := congrArg (fun o => Except.ok (o, r)) h
  have hs : t.isKeyword "select" = false := hw _ (by decide) (by decide) t h
  rw [statement, bind_apply hp]
  dsimp only
  rw [if_neg (by rw [hs]; exact Bool.false_ne_true)]
  rw [word?_branch_of_head (hw _ (by decide) (by decide)),
    word?_branch_of_head (hw _ (by decide) (by decide)),
    word?_branch_of_head (hw _ (by decide) (by decide)),
    word?_branch_of_head (hw _ (by decide) (by decide)),
    word?_branch_of_head (hw _ (by decide) (by decide)),
    word?_branch_of_head (hw _ (by decide) (by decide)),
    word?_branch_of_head (hw _ (by decide) (by decide)),
    word?_branch_of_head (hw _ (by decide) (by decide)), if_pos ht]

theorem follows_statement (hn : 4 * k + 2 ≤ n) (hn' : 4 * k + 2 ≤ n') (before : Nat) :
    S.Follows k (statement before n) (statement before n') := by
  intro p r r' hp ha
  by_cases hc : ∃ t p₁, p = t :: p₁ ∧ (t.isKeyword "commit" || t.isKeyword "end") = true
  · obtain ⟨t, p, rfl, ht⟩ := hc
    have hr : r.rest.head? = some t := by rw [ha.rest]; rfl
    have hr' : r'.rest.head? = some t := by rw [ha.rest']; rfl
    intro a s hs
    rw [statement_of_commit hr ht] at hs
    rw [statement_of_commit hr' ht]
    exact Tracks.skip [t] (follows_transactionName.bind fun _ => follows_pure _) ha hp a s hs
  rw [statement, statement]
  refine .peek_bind ha ?_
  cases hd : (p ++ S.ahead).head? with
  | none => exact follows_fail (k := k) _ p r r' hp ha
  | some t =>
    have ht : ¬(t.isKeyword "commit" || t.isKeyword "end") = true := by
      intro ht
      cases p with
      | nil =>
        have hs := S.isStop_of_mem_head?_ahead hd
        rw [hs.isKeyword, hs.isKeyword] at ht
        cases ht
      | cons u p =>
        cases hd
        exact hc ⟨t, p, rfl, ht⟩
    refine (?_ : S.Follows k _ _) p r r' hp ha
    refine .ite (fun _ => ?_) fun _ => ?_
    · exact ((S.nested n n').select (by omega) (by omega) _).bind fun _ => follows_pure _
    refine .branch (follows_word? "insert") (fun _ => ?_) ?_
    · refine follows_conflict.bind fun conflict => ?_
      exact (follows_insertInto (by omega) (by omega) before conflict).bind fun _ => follows_pure _
    refine .branch (follows_word? "replace") (fun _ => ?_) ?_
    · exact (follows_insertInto (by omega) (by omega) before _).bind fun _ => follows_pure _
    refine .branch (follows_word? "update") (fun _ => ?_) ?_
    · exact (follows_update (by omega) (by omega) before).bind fun _ => follows_pure _
    refine .branch (follows_word? "delete") (fun _ => ?_) ?_
    · exact (follows_delete (by omega) (by omega) before).bind fun _ => follows_pure _
    refine .branch (follows_word? "create") (fun _ => ?_) ?_
    · exact (follows_createTable (by omega) (by omega) before).bind fun _ => follows_pure _
    refine .branch (follows_word? "drop") (fun _ => ?_) ?_
    · refine (follows_word "table").bind fun _ _ => (follows_word? "if").bind fun ifExists _ => ?_
      refine .ite (fun _ => ?_) fun _ => follows_name.bind fun _ _ => follows_pure _
      exact (follows_word "exists").bind fun _ _ => follows_name.bind fun _ _ => follows_pure _
    refine .branch (follows_word? "alter") (fun _ => ?_) ?_
    · refine (follows_word "table").bind fun _ hk => follows_name.bind fun table hk' => ?_
      refine (follows_word "add").bind fun _ hk₂ => (follows_word? "column").bind fun _ _ => ?_
      exact (follows_columnDefinition (by omega) (by omega) _).bind fun _ => follows_pure _
    refine .branch (follows_word? "begin") (fun _ => ?_) ?_
    · have hb : ∀ {l}, S.Follows l (transactionName >>= fun _ => pure (Statement.control .begin))
          (transactionName >>= fun _ => pure (Statement.control .begin)) :=
        follows_transactionName.bind fun _ => follows_pure _
      refine (follows_word? "deferred").bind fun _ _ => .ite (fun _ => ?_) fun _ => hb
      refine (follows_word? "immediate").bind fun _ _ => .ite (fun _ => ?_) fun _ => hb
      exact (follows_word? "exclusive").bind fun _ _ => hb
    refine .ite (fun h => absurd h ht) fun _ => ?_
    refine .branch (follows_word? "rollback") (fun _ => ?_) ?_
    · refine follows_transactionName.bind fun _ => ?_
      refine .branch (follows_word? "to") (fun _ => ?_) (follows_pure _)
      exact follows_savepointWord.bind fun _ => follows_name.bind fun _ _ => follows_pure _
    refine .branch (follows_word? "savepoint") (fun _ => ?_) ?_
    · exact follows_name.bind fun _ _ => follows_pure _
    refine .branch (follows_word? "release") (fun _ => ?_) ?_
    · exact follows_savepointWord.bind fun _ => follows_name.bind fun _ _ => follows_pure _
    exact .branch (follows_word? "pragma") (fun _ => follows_pragma) (follows_fail _)

end

end Sides

/-! ### Texts -/

namespace Statement

variable {text : List Char} {reading : Reading} {tokens : List Token}

/-- Tokens at which a statement may end: there are none, or the first one is a semicolon. -/
def Ends (tokens : List Token) : Prop := ∀ t ∈ tokens.head?, t.isSymbol ";" = true

/-- The tokens of a text from its first statement on. -/
def tokensOf (text : List Char) : List Token := (Token.scan text).dropWhile (·.isSymbol ";")

/-- How many symbols wait before the first statement of a text. -/
def waitingIn (text : List Char) : Nat :=
  if (tokensOf text).length < (Token.scan text).length then 1 else 0

/-- How the first statement of a text is read. -/
def parseOf (text : List Char) : Except Fault (Statement × Reader) :=
  Grammar.statement (waitingIn text) (4 * (tokensOf text).length + 8) ⟨text, tokensOf text, []⟩

theorem read_of_tokensOf_eq_nil (h : tokensOf text = []) :
    read text = .ok ⟨none, Sides.placeOf text []⟩ := by
  change (if (tokensOf text).isEmpty then (do
    let p ← Grammar.here ⟨text, tokensOf text, []⟩
    return (⟨none, p.1⟩ : Reading)) else _) = _
  rw [if_pos (List.isEmpty_iff.mpr h), h, Sides.here_eq]
  rfl

/-- A statement that has been read, and where the rest of its text starts. -/
def endedAt (s : Statement) (r : Reader) : Except Fault Reading := do
  match r.rest with
  | [] =>
    let (stop, _) ← Grammar.here r
    return ⟨some ⟨s, r.parameters⟩, stop⟩
  | t :: _ =>
    if t.isSymbol ";" then return ⟨some ⟨s, r.parameters⟩, t.stop⟩
    else throw (Grammar.faultAt r.rest)

theorem read_of_tokensOf_ne_nil (hn : tokensOf text ≠ []) :
    read text = parseOf text >>= fun p => endedAt p.1 p.2 := by
  change (if (tokensOf text).isEmpty then _ else parseOf text >>= _) = _
  rw [if_neg (by rwa [List.isEmpty_iff])]
  rfl

theorem exists_of_read (hn : tokensOf text ≠ []) (h : read text = .ok reading) :
    ∃ s r, parseOf text = .ok (s, r) ∧ Ends r.rest ∧
      reading.parsed = some ⟨s, r.parameters⟩ := by
  rw [read_of_tokensOf_ne_nil hn] at h
  cases hp : parseOf text with
  | error e =>
    rw [hp] at h
    cases h
  | ok q =>
    obtain ⟨s, source, _ | ⟨t, rest⟩, parameters⟩ := q
    · rw [hp] at h
      cases h
      exact ⟨s, _, rfl, nofun, rfl⟩
    · rw [hp] at h
      change (if t.isSymbol ";" then Except.ok _ else Except.error _) = _ at h
      by_cases ht : t.isSymbol ";" = true
      · rw [if_pos ht] at h
        cases h
        refine ⟨s, _, rfl, ?_, rfl⟩
        rintro u ⟨⟩
        exact ht
      · rw [if_neg ht] at h
        cases h

theorem read_of_parseOf (hn : tokensOf text ≠ []) {s : Statement} {r : Reader}
    (h : parseOf text = .ok (s, r)) (he : Ends r.rest) :
    ∃ rest, read text = .ok ⟨some ⟨s, r.parameters⟩, rest⟩ := by
  rw [read_of_tokensOf_ne_nil hn, h]
  obtain ⟨source, _ | ⟨t, rest⟩, parameters⟩ := r
  · exact ⟨_, rfl⟩
  · refine ⟨t.stop, ?_⟩
    change (if t.isSymbol ";" then Except.ok _ else Except.error _) = _
    rw [if_pos (he t rfl)]

/-- The second of two texts has the first statement of the first one. -/
theorem read_alongside (S : Sides) {p : List Token} (ht : tokensOf S.text = p ++ S.ahead)
    (ht' : tokensOf (S.text ++ S.blanks) = p ++ S.ahead')
    (hw : waitingIn (S.text ++ S.blanks) = waitingIn S.text) (h : read S.text = .ok reading)
    (hn : p ++ S.ahead ≠ []) :
    (∃ p₁, p₁ <:+ p ∧ Ends (p₁ ++ S.ahead)) ∧
      ∃ rest, read (S.text ++ S.blanks) = .ok ⟨reading.parsed, rest⟩ := by
  obtain ⟨s, r, hp, he, hr⟩ := exists_of_read (by rwa [ht]) h
  have ha : S.Alongside p ⟨S.text, p ++ S.ahead, []⟩ ⟨S.text ++ S.blanks, p ++ S.ahead', []⟩ :=
    ⟨rfl, rfl, rfl, rfl, rfl⟩
  rw [parseOf, ht] at hp
  have hl : 4 * p.length + 2 ≤ 4 * (p ++ S.ahead).length + 8 := by
    rw [List.length_append]
    omega
  have hl' : 4 * p.length + 2 ≤ 4 * (p ++ S.ahead').length + 8 := by
    rw [List.length_append]
    omega
  obtain ⟨p₁, r', hp', h₁, hs, -⟩ :=
    Sides.follows_statement hl hl' _ p _ _ (Nat.le_refl _) ha s r hp
  have he' : Ends (p₁ ++ S.ahead) := by rwa [← h₁.rest]
  refine ⟨⟨p₁, hs, he'⟩, ?_⟩
  have hn' : tokensOf (S.text ++ S.blanks) ≠ [] := by
    rw [ht', ne_eq, ← List.head?_eq_none_iff, S.head?_ahead, List.head?_eq_none_iff]
    exact hn
  obtain ⟨rest, hq⟩ := read_of_parseOf (s := s) (r := r') hn' (by rw [parseOf, hw, ht', hp']) (by
    rw [h₁.rest', Ends, S.head?_ahead]
    exact he')
  exact ⟨rest, by rw [hq, hr, h₁.parameters]⟩

theorem waitingIn_append_eq {text text' : List Char} {ps tail tail' : List Token}
    (h : Token.scan text = ps ++ tail) (h' : Token.scan text' = ps ++ tail') {p : List Token}
    (ht : tokensOf text = p ++ tail) (ht' : tokensOf text' = p ++ tail') :
    waitingIn text' = waitingIn text := by
  rw [waitingIn, waitingIn, h, h', ht, ht']
  simp only [List.length_append, Nat.add_lt_add_iff_right]

theorem tokensOf_append {text : List Char} {ps tail : List Token}
    (h : Token.scan text = ps ++ tail) (hn : ps.dropWhile (·.isSymbol ";") ≠ []) :
    tokensOf text = ps.dropWhile (·.isSymbol ";") ++ tail := by
  rw [tokensOf, h, List.dropWhile_append, if_neg (by rwa [List.isEmpty_iff])]

theorem tokensOf_append_cons {text : List Char} {ps rest : List Token} {d : Token}
    (h : Token.scan text = ps ++ d :: rest) (hd : d.isSymbol ";" = false) :
    tokensOf text = ps.dropWhile (·.isSymbol ";") ++ d :: rest := by
  rw [tokensOf, h, List.dropWhile_append]
  split
  · rename_i he
    rw [List.isEmpty_iff.mp he, List.nil_append, List.dropWhile_cons, hd]
    rfl
  · rfl

/-- A token at which no statement goes on and none ends is behind the first statement, so a
semicolon is before it. -/
theorem mem_semicolon_of_read {p rest : List Token} {d : Token} (hd : d.IsDead)
    (hs : d.isSymbol ";" = false) (ht : tokensOf text = p ++ d :: rest)
    (h : read text = .ok reading) : ∃ t ∈ p, t.isSymbol ";" = true := by
  have hn : p ++ d :: rest ≠ [] := List.append_ne_nil_of_right_ne_nil _ (List.cons_ne_nil d rest)
  obtain ⟨⟨p₁, hp₁, he⟩, -⟩ :=
    read_alongside
      ⟨text, [], d :: rest, d :: rest, nofun, Or.inr ⟨d, rest, rest, rfl, rfl, Or.inl hd⟩⟩ ht
      (by rwa [List.append_nil]) (by rw [List.append_nil]) h hn
  cases p₁ with
  | nil =>
    have := he d rfl
    rw [hs] at this
    cases this
  | cons t p₁ => exact ⟨t, hp₁.subset List.mem_cons_self, he t rfl⟩

/-- **A line feed behind a text leaves its first statement as it is.** -/
theorem read_newline (h : read text = .ok reading) :
    ∃ rest, read (text ++ ['\n']) = .ok ⟨reading.parsed, rest⟩ := by
  have hb : ∀ c ∈ ['\n'], Token.isSpace c = true := by
    intro c hc
    rw [List.mem_singleton.mp hc]
    rfl
  obtain ⟨ps, tail, tail', hs, hs', ⟨rfl, rfl⟩ | ⟨d, rest, rfl, hd⟩⟩ := Token.scan_newline text
  · have ht : tokensOf text = ps.dropWhile (·.isSymbol ";") ++ [] := by
      rw [tokensOf, hs, List.append_nil, List.append_nil]
    have ht' : tokensOf (text ++ ['\n']) = ps.dropWhile (·.isSymbol ";") ++ [] := by
      rw [tokensOf, hs', List.append_nil, List.append_nil]
    by_cases hn : tokensOf text = []
    · cases (read_of_tokensOf_eq_nil hn).symm.trans h
      exact ⟨_, read_of_tokensOf_eq_nil (ht'.trans (ht.symm.trans hn))⟩
    · exact (read_alongside ⟨text, ['\n'], [], [], hb, Or.inl ⟨rfl, rfl⟩⟩ ht ht'
        (waitingIn_append_eq hs hs' ht ht') h (ht ▸ hn)).2
  · have hd' : d.isSymbol ";" = false := hd.isSymbol (by decide)
    have ht := tokensOf_append_cons hs hd'
    obtain ⟨t, hm, he⟩ := mem_semicolon_of_read hd hd' ht h
    have ht' := tokensOf_append hs' (List.ne_nil_of_mem hm)
    have hw := waitingIn_append_eq hs hs' ht ht'
    obtain ⟨p, q, hq⟩ := List.append_of_mem hm
    rw [hq, List.append_assoc, List.cons_append] at ht ht'
    exact (read_alongside ⟨text, ['\n'], t :: (q ++ d :: rest), t :: (q ++ tail'), hb,
      Or.inr ⟨t, _, _, rfl, rfl, Or.inr he⟩⟩ ht ht' hw h
      (List.append_ne_nil_of_right_ne_nil _ (List.cons_ne_nil _ _))).2

end Statement

end NamedSql.Sql
