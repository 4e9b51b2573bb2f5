import NamedSql.Proofs.Sql.Endings

/-!
# The origin of a transaction

An open transaction remembers the database with which it began. What a statement does to that
memory is all that has to be known about it to tell what a rollback restores: while the transaction
goes on its origin stays, whatever the statement is, and a statement that ends the transaction
leaves none.

## Scope

Nothing is said here about the rows that a statement changes. A statement is anything that can be
called: it may be out of date, fail, or control the transaction itself.

## Main definitions

* `Connection.origin` — the database with which the open transaction began
* `Connection.enforcing` — the one setting that preparing a statement may change

## Main results

* `Session.exists_enforcing_prepare`, `Session.exists_enforcing_countStatements` — preparing leaves
  a connection as it is, but for that setting
* `Connection.origin_perform`, `Session.origin_call` — a statement keeps the origin of the open
  transaction, or ends the transaction
* `Session.begin_of_isAutocommit`, `Session.begin_of_open`, `Session.commit_cases`,
  `Session.database_rollback` — how a transaction begins and ends
-/

namespace NamedSql.Sql

namespace Connection

/-- The database with which the open transaction began, if one is open. -/
def origin (c : Connection) : Option Database := c.transaction.map Transaction.before

/-- The connection with another setting for the keys of other tables. -/
def enforcing (c : Connection) (on : Bool) : Connection := { c with foreignKeys := on }

theorem origin_of_transaction {c : Connection} {t : Transaction} (h : c.transaction = some t) :
    c.origin = some t.before := by
  rw [origin, h, Option.map_some]

theorem isAutocommit_iff (c : Connection) : c.isAutocommit = true ↔ c.origin = none := by
  simp [isAutocommit, origin]

theorem isAutocommit_eq_false_iff (c : Connection) :
    c.isAutocommit = false ↔ ∃ d, c.origin = some d := by
  rw [← Bool.not_eq_true, isAutocommit_iff, ← ne_eq, Option.ne_none_iff_exists']

theorem committed_of_origin {c : Connection} {d : Database} (h : c.origin = some d) :
    c.committed = d := by
  rw [origin] at h
  simp [committed, h]

theorem committed_of_isAutocommit {c : Connection} (h : c.isAutocommit = true) :
    c.committed = c.database := by
  rw [isAutocommit_iff, origin] at h
  simp [committed, h]

/-! ### What leaves the origin alone -/

@[simp] theorem origin_enforcing (c : Connection) (on : Bool) :
    (c.enforcing on).origin = c.origin := rfl

@[simp] theorem origin_changes (c : Connection) (count : Nat) :
    ({ c with changes := count } : Connection).origin = c.origin := rfl

@[simp] theorem origin_wrote (c : Connection) : c.wrote.origin = c.origin := by
  cases h : c.transaction <;> simp [origin, wrote, h]

@[simp] theorem origin_define (c : Connection) (d : Database) : (c.define d).origin = c.origin := by
  cases h : c.transaction <;> simp [origin, define, wrote, h]

@[simp] theorem origin_undo (c : Connection) (d : Database) : (c.undo d).origin = c.origin := by
  unfold undo
  repeat' split
  all_goals rfl

@[simp] theorem origin_keep (c : Connection) (d : Database) (deferred : Int) :
    (c.keep d deferred).1.origin = c.origin := by
  cases h : c.transaction with
  | some t => simp [keep, origin, h]
  | none =>
    simp only [keep, h]
    split <;> simp [origin, h]

theorem origin_of_keep {c e : Connection} {d : Database} {deferred : Int} {f : Option Fault}
    (h : c.keep d deferred = (e, f)) : e.origin = c.origin := by
  rw [← c.origin_keep d deferred, h]

@[simp] theorem origin_rollBack (c : Connection) : c.rollBack.origin = none := by
  simp only [rollBack]
  split <;> rfl

theorem origin_journalMode (c : Connection) (word : Option String) :
    (c.journalMode word).1.origin = c.origin := by
  unfold journalMode
  dsimp only
  repeat' split
  all_goals rfl

/-! ### Control

A transaction begins only where none is open, so while one is open nothing gives it another
origin. -/

theorem origin_control {c : Connection} {d : Database} (h : c.origin = some d)
    (command : Control) :
    (c.control command).1.origin = some d ∨ (c.control command).1.origin = none := by
  have hc := c.controlled_control command
  generalize c.control command = controlled at hc
  cases hc with
  | refused f => exact Or.inl h
  | began closed before saved => simp [origin, closed] at h
  | committed open_ => exact Or.inr rfl
  | rolledBack open_ => exact Or.inr c.origin_rollBack
  | marked open_ name =>
    rw [origin_of_transaction open_] at h
    exact Or.inl h
  | released open_ kept =>
    rw [origin_of_transaction open_] at h
    exact Or.inl h
  | wentBack open_ kept =>
    rw [origin_of_transaction open_] at h
    exact Or.inl ((origin_of_transaction (c.transaction_backTo _ _ _)).trans h)

/-! ### Statements -/

theorem origin_changing (c : Connection) (change : Change) :
    (c.changing change).origin = c.origin := by
  rw [changing]
  split
  · rfl
  · rw [origin_wrote]
    rfl

theorem origin_applyChange {c : Connection} {d : Database} (h : c.origin = some d)
    (change : Change) (stop : Option Stop) :
    (c.applyChange change stop).1.origin = some d ∨
      (c.applyChange change stop).1.origin = none := by
  have hb : (c.changing change).origin = some d := (c.origin_changing change).trans h
  have he := c.ending_applyChange change stop
  generalize c.applyChange change stop = ended at he
  cases he with
  | kept keep output =>
    refine Or.inl ?_
    rw [origin_changes, origin_of_keep keep, hb]
  | undone fault rows =>
    refine Or.inl ?_
    rw [origin_undo, hb]
  | rolledBack f open_ => exact Or.inr (origin_rollBack _)

@[simp] theorem origin_dropTable (c : Connection) (t : Table) (keys : KeyChecks) :
    (c.dropTable t keys).1.origin = c.origin := by
  have hd := c.dropped_dropTable t keys
  generalize c.dropTable t keys = dropped at hd
  cases hd with
  | refused f => rw [origin_undo, origin_changes]
  | emptied keep => rw [origin_changes, origin_define, origin_of_keep keep, origin_changes]
  | erased same =>
    rw [origin_define]
    rcases same with rfl | rfl
    · rfl
    · rfl

@[simp] theorem origin_addColumn (c : Connection) (p : ColumnPlan) :
    (c.addColumn p).1.origin = c.origin := by
  unfold addColumn
  dsimp only
  split
  · rfl
  · simp

theorem origin_run {c : Connection} {d : Database} (h : c.origin = some d)
    (parameters : List Value) (p : Plan) :
    (c.run parameters p).1.origin = some d ∨ (c.run parameters p).1.origin = none := by
  cases p with
  | insert p => exact origin_applyChange h _ _
  | update p => exact origin_applyChange h _ _
  | delete p => exact origin_applyChange h _ _
  | control command => exact origin_control h command
  | query q => exact Or.inl h
  | createTable t => cases t <;> exact Or.inl (by simpa [run] using h)
  | dropTable table =>
    refine Or.inl ?_
    cases table with
    | none => exact h
    | some dropped =>
      simp only [run]
      split
      · exact h
      · rw [origin_dropTable, h]
  | addColumn p => exact Or.inl ((c.origin_addColumn p).trans h)
  | journalMode word => exact Or.inl ((c.origin_journalMode word).trans h)
  | expire => exact Or.inl h
  | idle => exact Or.inl h

/-- **A statement keeps the origin of the open transaction, or ends the transaction.** -/
theorem origin_perform {c : Connection} {d : Database} (h : c.origin = some d)
    (parameters : List Value) (p : Plan) :
    (c.perform parameters p).1.origin = some d ∨ (c.perform parameters p).1.origin = none := by
  have hp := c.performed_perform parameters p
  generalize c.perform parameters p = performed at hp
  cases hp with
  | refused k writes count => exact Or.inl h
  | ran k => exact origin_run (c := { c with companions := k }) h parameters p

/-! ### How a transaction ends -/

theorem database_rollBack (c : Connection) : c.rollBack.database = c.abandoned := by
  rw [rollBack]
  split <;> rfl

/-- Without an open transaction a rollback is refused and changes nothing; there is nothing to give
up then. -/
theorem database_control_rollback (c : Connection) :
    (c.control .rollback).1.database = c.abandoned := by
  cases h : c.transaction with
  | none =>
    have ha : c.isAutocommit = true := by simp [isAutocommit, h]
    simp [control, h, abandoned, committed_of_isAutocommit ha]
  | some t =>
    rw [← database_rollBack]
    simp [control, h]

/-- A commit that succeeds keeps the database, and one that fails keeps the connection. -/
theorem control_commit_cases (c : Connection) :
    ((c.control .commit).2 = none ∧ (c.control .commit).1.database = c.database) ∨
      ∃ f, c.control .commit = (c, some f) := by
  cases h : c.transaction with
  | none => exact Or.inr ⟨_, by simp only [control, h]; rfl⟩
  | some t =>
    simp only [control, h, commit]
    split
    · exact Or.inr ⟨_, rfl⟩
    · exact Or.inl ⟨rfl, rfl⟩

theorem abandoned_of_origin {c : Connection} {d : Database} (h : c.origin = some d)
    (hu : c.undoesTransactions = true) : c.abandoned = d := by
  rw [abandoned, if_pos (goesBack_of_undoesTransactions hu), committed_of_origin h]

end Connection

namespace Session

/-! ### Preparing -/

theorem exists_enforcing_prepareParsed (s : Session) (parsed : Statement.Parsed) :
    ∃ on, (s.prepareParsed parsed).1.connection = s.connection.enforcing on := by
  simp only [prepareParsed, Connection.prepare, Connection.configured]
  split
  · split
    · exact ⟨_, rfl⟩
    · exact ⟨s.connection.foreignKeys, rfl⟩
  · exact ⟨s.connection.foreignKeys, rfl⟩

theorem exists_enforcing_start (s : Session) (text : List Char) :
    ∃ on, (s.start text).1.connection = s.connection.enforcing on := by
  unfold start
  dsimp only
  split
  · exact ⟨s.connection.foreignKeys, rfl⟩
  · split
    · exact ⟨s.connection.foreignKeys, rfl⟩
    · rename_i parsed _
      have h := s.exists_enforcing_prepareParsed parsed
      split <;> simpa [*] using h

theorem exists_enforcing_countFrom (limit fuel count : Nat) (s : Session) (text : List Char) :
    ∃ on, (countFrom limit fuel count s text).1.connection = s.connection.enforcing on := by
  induction fuel generalizing count s text with
  | zero => exact ⟨s.connection.foreignKeys, rfl⟩
  | succ fuel ih =>
    cases text with
    | nil => exact ⟨s.connection.foreignKeys, rfl⟩
    | cons c rest =>
      unfold countFrom
      split
      · exact ⟨s.connection.foreignKeys, rfl⟩
      · obtain ⟨on, hon⟩ := s.exists_enforcing_start (c :: rest)
        split
        · rename_i e f he
          exact ⟨on, by simpa [he] using hon⟩
        · rename_i e start he
          rw [he] at hon
          obtain ⟨on', hon'⟩ := ih (if start.found.isSome then count + 1 else count) e start.rest
          exact ⟨on', by rw [hon', hon]; rfl⟩

/-- Counting the statements of a text leaves the connection as it is, but for one setting. -/
theorem exists_enforcing_countStatements (s : Session) (limit : Nat) (sql : String) :
    ∃ on, (s.countStatements limit sql).1.connection = s.connection.enforcing on :=
  exists_enforcing_countFrom limit _ 0 s sql.toList

theorem exists_enforcing_find (s : Session) (sql : String) :
    ∃ on, (s.find sql).1.connection = s.connection.enforcing on := by
  unfold find
  split
  · exact ⟨s.connection.foreignKeys, rfl⟩
  · exact s.exists_enforcing_start sql.toList

/-- Preparing a statement leaves the connection as it is, but for one setting. -/
theorem exists_enforcing_prepare (s : Session) (sql : String) :
    ∃ on, (s.prepare sql).1.connection = s.connection.enforcing on := by
  obtain ⟨on, hon⟩ := s.exists_enforcing_find (Text.trimmed sql)
  refine ⟨on, ?_⟩
  unfold prepare
  dsimp only
  split
  · rename_i e p he
    rw [he] at hon
    exact hon
  · rename_i e f he
    rw [he] at hon
    exact hon

theorem exists_enforcing_renewed (s : Session) (p : Prepared) :
    ∃ on, (s.renewed p).1.connection = s.connection.enforcing on := by
  rw [renewed]
  split
  · exact ⟨s.connection.foreignKeys, rfl⟩
  · exact s.exists_enforcing_prepareParsed p.parsed

/-! ### Calls -/

theorem enforcing_find {s t : Session} {text : String} {found : Except Failure Prepared}
    (h : s.find text = (t, found)) : ∃ on, t.connection = s.connection.enforcing on := by
  have hf := s.exists_enforcing_find text
  rwa [h] at hf

/-- A statement that is found, and prepared anew if need be, is run on the connection as it was, but
for one setting. -/
theorem enforcing_renewed {s t u : Session} {text : String} {found : Except Failure Prepared}
    {p : Prepared} {r : Except Fault Prepared} (hf : s.find text = (t, found))
    (hr : t.renewed p = (u, r)) : ∃ on, u.connection = s.connection.enforcing on := by
  obtain ⟨on, hon⟩ := enforcing_find hf
  obtain ⟨on', hon'⟩ := t.exists_enforcing_renewed p
  rw [hr, hon] at hon'
  exact ⟨on', hon'⟩

/-- **A call keeps the origin of the open transaction, or ends the transaction.** -/
theorem origin_call {s : Session} {d : Database} (h : s.connection.origin = some d)
    (sql : String) (params : Params) :
    (s.call sql params).1.connection.origin = some d ∨
      (s.call sql params).1.connection.origin = none := by
  have ho : ∀ {c : Connection} {on : Bool}, c = s.connection.enforcing on → c.origin = some d := by
    rintro _ on rfl
    rw [Connection.origin_enforcing, h]
  have hc := s.called_call sql params
  generalize s.call sql params = called at hc
  cases hc with
  | unfound found =>
    obtain ⟨on, ht⟩ := enforcing_find found
    exact Or.inl (ho ht)
  | unbound found bound =>
    obtain ⟨on, ht⟩ := enforcing_find found
    exact Or.inl (ho ht)
  | outdated found bound renewed =>
    obtain ⟨on, hu⟩ := enforcing_renewed found renewed
    exact Or.inl (ho hu)
  | performed found bound renewed =>
    obtain ⟨on, hu⟩ := enforcing_renewed found renewed
    exact Connection.origin_perform (ho hu) _ _

/-! ### Control

The laws by which units of work are treated. Together with what has been said of calls they are all
that the beginning and the end of a unit need, so nothing there looks any further into the engine.
-/

variable {s : Session}

/-- A transaction begins if none is open, and has the database for its origin. -/
theorem begin_of_isAutocommit (h : s.connection.isAutocommit = true) :
    (s.control .begin).2 = none ∧
      (s.control .begin).1.connection.origin = some s.connection.database := by
  have ht : s.connection.transaction = none := Option.isNone_iff_eq_none.mp h
  rw [control, Connection.control_begin ht]
  exact ⟨rfl, rfl⟩

/-- While a transaction is open another one is refused, and the open one goes on. -/
theorem begin_of_open (h : s.connection.isAutocommit = false) :
    s.control .begin = (s, some .nestedTransaction) := by
  obtain ⟨t, ht⟩ := Option.isSome_iff_exists.mp (Option.isNone_eq_false_iff.mp h)
  simp only [control, Connection.control, ht]

/-- A commit that succeeds keeps the database, and one that fails keeps the session. -/
theorem commit_cases (s : Session) :
    (∃ t, s.control .commit = (t, none) ∧ t.connection.database = s.connection.database) ∨
      ∃ f, s.control .commit = (s, some f) := by
  rcases s.connection.control_commit_cases with ⟨hn, hd⟩ | ⟨f, hf⟩
  · exact Or.inl ⟨_, Prod.ext rfl hn, hd⟩
  · exact Or.inr ⟨f, by rw [control, hf]⟩

/-- A rollback leaves what the connection goes back to when its transaction is given up. -/
theorem database_rollback (s : Session) :
    (s.control .rollback).1.connection.database = s.connection.abandoned :=
  s.connection.database_control_rollback

end Session

end NamedSql.Sql
