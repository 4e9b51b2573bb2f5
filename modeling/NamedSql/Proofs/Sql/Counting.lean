import NamedSql.Proofs.Sql.Admitting
import NamedSql.Proofs.Sql.Dividing

/-!
# Counting the statements of a text

The statements of a text are counted by preparing one after the other, up to a limit. What is
counted is how many statements the text is divided into, so a body is let in if it is divided into
one statement and this one can be prepared. That statement is the one that is found under the body
later on, and there is none behind it.

## Scope

Nothing is counted behind a NUL character. A text that has one may be divided into a single
statement and have more of them, which are neither prepared nor run. `statementsThroughout` has them
all.

A body is prepared without the blanks around it, so that what is left must be readable, too. It need
not be: a body that ends as a comment opens goes on with a line feed, and only that makes it a
comment.

## Main definitions

* `statementsThroughout` — the statements of a text, whether or not a NUL character is before them
* `Connection.Resolves` — the statement of a body can be prepared
* `Connection.readied` — the connection once a body has been prepared

## Main results

* `Session.eq_of_countFrom` — what is counted
* `Connection.admit?_eq_some_iff` — a body is let in that has one statement, which can be prepared
* `Session.Sound.read_of_find` — what is found under a body is its only statement
-/

namespace NamedSql.Sql

/-- The statements of a text, whether or not a NUL character is before them. -/
def statementsThroughout (text : List Char) : List (List Token) :=
  (Text.split '\x00' text).flatMap statements

theorem statementsThroughout_of_not_mem {text : List Char} (h : '\x00' ∉ text) :
    statementsThroughout text = statements text := by
  rw [statementsThroughout, Text.split_of_not_mem h, List.flatMap_singleton]

namespace Session

variable {s t : Session} {text : List Char}

/-! ### Counting -/

theorem exists_read_of_start {start : Start} (h : s.start text = (t, .ok start)) :
    ∃ reading, Statement.read text = .ok reading ∧ start.rest = reading.remaining text ∧
      start.found.isSome = reading.parsed.isSome := by
  rw [Session.start] at h
  dsimp only at h
  split at h
  · cases h
  · rename_i reading hr
    refine ⟨reading, hr, ?_⟩
    split at h
    · rename_i hp
      cases h
      exact ⟨rfl, by rw [hp]; rfl⟩
    · rename_i hp
      split at h
      · cases h
      · cases h
        exact ⟨rfl, by rw [hp]; rfl⟩

/-- **What is counted is the number of statements**, up to the limit. The induction is on the bound
of the steps: every step reads a statement, and leaves a text that is shorter and has one less. -/
theorem eq_of_countFrom {limit fuel count n : Nat}
    (h : countFrom limit fuel count s text = (t, .ok n)) (hl : text.length < fuel)
    (hc : count ≤ limit) : n = min limit (count + (statements text).length) := by
  induction fuel generalizing count s text with
  | zero => exact absurd hl (Nat.not_lt_zero _)
  | succ fuel ih =>
    cases text with
    | nil =>
      cases h
      exact (Nat.min_eq_right hc).symm
    | cons c rest =>
      unfold countFrom at h
      split at h
      · cases h
        omega
      · split at h
        · cases h
        · rename_i s' start hs
          obtain ⟨reading, hr, hrest, hf⟩ := exists_read_of_start hs
          have hlt := Statement.length_remaining_lt reading (List.cons_ne_nil c rest)
          rw [hrest] at h
          rw [ih h (by omega) (by split <;> omega), Statement.length_statements_of_read hr, hf]
          cases reading.parsed with
          | none => simp
          | some m => simp [Nat.add_assoc]

/-- A text without statements is passed over, and nothing is prepared. -/
theorem countFrom_of_statements_eq_nil (limit fuel count : Nat) (s : Session)
    (h : statements text = []) : countFrom limit fuel count s text = (s, .ok count) := by
  induction fuel generalizing text with
  | zero => rfl
  | succ fuel ih =>
    cases text with
    | nil => rfl
    | cons c rest =>
      have hr := Statement.read_of_tokensOf_eq_nil (Statement.statements_eq_nil_iff.mp h)
      have hs : s.start (c :: rest) = (s, .ok ⟨none,
          (⟨none, Sides.placeOf (c :: rest) []⟩ : Statement.Reading).remaining (c :: rest)⟩) := by
        rw [start, hr]
        rfl
      unfold countFrom
      split
      · rfl
      · rw [hs]
        exact ih (Statement.statements_remaining_of_placeOf rfl)

end Session

/-! ### Bodies with one statement -/

section

variable {sql : String} {m : Statement.Parsed}

/-- If a body has one statement, and it can be read without the blanks around it, then this is the
statement that is read of it both with the blanks and without, and nothing is behind it. -/
theorem exists_read_of_single (ht : Text.Terminated sql.toList)
    (h₁ : (statements sql.toList).length = 1) (hm : meaning? (Text.trimmed sql) = some m) :
    ∃ rest rest', Statement.read (Text.trim sql.toList) = .ok ⟨some m, rest⟩ ∧
      Statement.read sql.toList = .ok ⟨some m, rest'⟩ ∧
      statements ((⟨some m, rest'⟩ : Statement.Reading).remaining sql.toList) = [] := by
  rw [meaning?, Text.trimmed, String.toList_ofList] at hm
  cases hr : Statement.read (Text.trim sql.toList) with
  | error f =>
    rw [hr] at hm
    cases hm
  | ok reading =>
    rw [hr] at hm
    obtain ⟨parsed, rest⟩ := reading
    obtain ⟨rest', hr'⟩ := Statement.read_newline hr
    rw [← ht] at hr'
    cases parsed with
    | none =>
      rw [Statement.statements_of_parsed_eq_none hr' rfl] at h₁
      cases h₁
    | some m' =>
      cases hm
      refine ⟨rest, rest', rfl, hr', List.eq_nil_of_length_eq_zero ?_⟩
      have hl := Statement.length_statements_of_read hr'
      rw [h₁] at hl
      exact (Nat.succ.inj (hl.trans (Nat.add_comm 1 _))).symm

/-- What is found under a body with one statement is that statement. -/
theorem Session.Sound.read_of_find {s t : Session} {p : Prepared} (h : s.Sound)
    (ht : Text.Terminated sql.toList) (h₁ : (statements sql.toList).length = 1)
    (hf : s.find (Text.trimmed sql) = (t, .ok p)) :
    ∃ rest, Statement.read sql.toList = .ok ⟨some p.parsed, rest⟩ := by
  obtain ⟨-, rest, -, hr, -⟩ := exists_read_of_single ht h₁ (h.comesOf_find hf).meaning
  exact ⟨rest, hr⟩

end

/-! ### Letting bodies in -/

namespace Connection

variable {c d : Connection} {sql : String}

/-- The statement of a body can be prepared: the body can be read without the blanks around it, and
what its statement names is there. -/
def Resolves (c : Connection) (sql : String) : Prop :=
  ∃ m r, meaning? (Text.trimmed sql) = some m ∧ c.names.resolve m.statement = .ok r

/-- The connection once a body has been prepared, with what its statement sets. -/
def readied (c : Connection) (sql : String) : Connection :=
  (meaning? (Text.trimmed sql)).elim c fun m => c.configured m.statement

theorem readied_of_meaning {m : Statement.Parsed} (h : meaning? (Text.trimmed sql) = some m) :
    c.readied sql = c.configured m.statement := by
  rw [readied, h]
  rfl

/-- Preparing a body sets nothing but whether keys of other tables are enforced. -/
theorem exists_enforcing_readied (c : Connection) (sql : String) :
    ∃ on, c.readied sql = c.enforcing on := by
  cases h : meaning? (Text.trimmed sql) with
  | none => exact ⟨c.foreignKeys, by rw [readied, h]; rfl⟩
  | some m =>
    rw [readied_of_meaning h]
    exact c.exists_enforcing_configured m.statement

/-- **A body is let in if it has exactly one statement and this can be prepared.** -/
theorem admit?_eq_some_iff (ht : Text.Terminated sql.toList) :
    c.admit? sql = some d ↔
      (statements sql.toList).length = 1 ∧ c.Resolves sql ∧ c.readied sql = d := by
  have hc : (Session.new c 0).connection = c := rfl
  rw [← hc, Session.admit?_eq_some_iff_counted, hc]
  constructor
  · rintro ⟨⟨t, hn, rfl⟩, m, hm⟩
    have h₁ := Session.eq_of_countFrom hn (Nat.lt_succ_self _) (Nat.zero_le 2)
    have hl : (statements sql.toList).length = 1 := by omega
    obtain ⟨rest, -, hr, -, -⟩ := exists_read_of_single ht hl hm
    obtain ⟨⟨r, hn⟩, hc⟩ := Session.of_counted ht hr rfl hn
    exact ⟨hl, ⟨m, r, hm, hn⟩, (readied_of_meaning hm).trans hc.symm⟩
  · rintro ⟨hl, ⟨m, r, hm, hn⟩, rfl⟩
    obtain ⟨-, rest, -, hr, hs⟩ := exists_read_of_single ht hl hm
    have hstart : (Session.new c 0).start sql.toList =
        (Session.new (c.configured m.statement) 0, .ok ⟨some ⟨m, r, (c.configured m.statement).age⟩,
          (⟨some m, rest⟩ : Statement.Reading).remaining sql.toList⟩) := by
      rw [Session.start, hr]
      dsimp only [Session.prepareParsed, Connection.prepare]
      rw [hc, hn]
      rfl
    refine ⟨⟨Session.new (c.configured m.statement) 0, ?_, (readied_of_meaning hm).symm⟩, m, hm⟩
    obtain ⟨ch, cs, hch⟩ := List.exists_cons_of_ne_nil
      (show sql.toList ≠ [] by rw [ht]; exact List.append_ne_nil_of_right_ne_nil _ (by simp))
    rw [Session.countStatements, hch]
    unfold Session.countFrom
    rw [← hch, if_neg (by decide), hstart]
    exact Session.countFrom_of_statements_eq_nil _ _ _ _ hs

end Connection

end NamedSql.Sql
