import NamedSql.Proofs.Sql.Origin
import NamedSql.Proofs.Sql.PlanKinds
import NamedSql.Proofs.Sql.Prepared

/-!
# What a transaction can be brought back to

A transaction in which one text is called again and again can be given up at any point, and that
brings the database back with which it began. There are two reasons for it. A statement about the
connection writes nothing, so there is nothing to bring back, even if it ends the transaction. Any
other statement leaves the transaction and its journal alone, unless it fails and takes the
transaction with it, which brings the database back at once.

## Scope

One transaction in which different texts are called has no such law: a statement may end it, and
another one then writes outside of it.

## Main definitions

* `Connection.Throughout` — a property of the database and of all that it can be brought back to
* `Connection.Still` — nothing has been written since the transaction began
* `Connection.Restorable` — a transaction is open that can be undone
* `Session.Undoable` — the one or the other, as the text that is called has it

## Main results

* `Connection.Throughout.control` — controlling transactions brings no other databases into play
* `Session.Sound.call_cases` — a call does nothing or performs the statement of its text
* `Session.Undoable.call` — the invariant of calls of one text
* `Session.Undoable.abandoned` — giving up the transaction brings the database back
-/

namespace NamedSql.Sql

namespace Connection

variable {c c' : Connection} {d : Database}

/-! ### What may come back -/

/-- The database has a property, as has every database that the open transaction, if one is open,
can be brought back to. -/
structure Throughout (c : Connection) (P : Database → Prop) : Prop where
  database : P c.database
  before : ∀ t, c.transaction = some t → P t.before ∧ ∀ s ∈ t.savepoints, P s.database

section Throughout

variable {P : Database → Prop}

theorem throughout_of_transaction_eq_none (hd : P c.database) (ht : c.transaction = none) :
    c.Throughout P :=
  ⟨hd, fun t hs => by rw [ht] at hs; cases hs⟩

theorem Throughout.committed (h : c.Throughout P) : P c.committed := by
  rw [Connection.committed]
  cases ht : c.transaction with
  | none => exact h.database
  | some t => exact (h.before t ht).1

theorem Throughout.abandoned (h : c.Throughout P) : P c.abandoned := by
  rw [Connection.abandoned]
  split
  · exact h.committed
  · exact h.database

theorem Throughout.rollBack (h : c.Throughout P) : c.rollBack.Throughout P := by
  refine throughout_of_transaction_eq_none ?_ c.transaction_rollBack
  rw [database_rollBack]
  exact h.abandoned

/-- What a transaction is brought back to, and what it can be brought back to later, was the
database at some time. -/
theorem Throughout.control (h : c.Throughout P) (command : Control) :
    (c.control command).1.Throughout P := by
  have hc := c.controlled_control command
  generalize c.control command = controlled at hc
  cases hc with
  | refused f => exact h
  | began closed before saved =>
    refine ⟨h.database, fun t ht => ?_⟩
    cases ht
    exact ⟨before ▸ h.database, fun s hs => saved s hs ▸ h.database⟩
  | committed open_ => exact throughout_of_transaction_eq_none h.database rfl
  | rolledBack open_ => exact h.rollBack
  | marked open_ name =>
    obtain ⟨hb, hs⟩ := h.before _ open_
    refine ⟨h.database, fun t ht => ?_⟩
    cases ht
    exact ⟨hb, List.forall_mem_cons.mpr ⟨h.database, hs⟩⟩
  | released open_ kept =>
    obtain ⟨hb, hs⟩ := h.before _ open_
    refine ⟨h.database, fun t ht => ?_⟩
    cases ht
    exact ⟨hb, fun s hm => hs s (kept hm)⟩
  | @wentBack _ s _ open_ kept =>
    obtain ⟨hb, hs⟩ := h.before _ open_
    refine ⟨?_, fun t ht => ?_⟩
    · rw [database_backTo]
      split
      · exact hs s (kept List.mem_cons_self)
      · exact h.database
    · rw [transaction_backTo] at ht
      cases ht
      exact ⟨hb, fun s hm => hs s (kept hm)⟩

end Throughout

/-! ### Nothing written -/

/-- The database is what it was when the open transaction began, if one is open, and what it was at
every savepoint. -/
structure Still (c : Connection) (d : Database) : Prop where
  database : c.database = d
  before : ∀ t, c.transaction = some t → t.before = d ∧ ∀ s ∈ t.savepoints, s.database = d

theorem still_iff : c.Still d ↔ c.Throughout (· = d) :=
  ⟨fun h => ⟨h.database, h.before⟩, fun h => ⟨h.database, h.before⟩⟩

theorem Still.of_eq (h : c.Still d) (hd : c'.database = c.database)
    (ht : c'.transaction = c.transaction) : c'.Still d :=
  ⟨hd.trans h.database, fun t hs => h.before t (ht ▸ hs)⟩

theorem Still.abandoned (h : c.Still d) : c.abandoned = d := (still_iff.mp h).abandoned

/-- As long as nothing is written, no savepoint and no transaction has another database. -/
theorem Still.control (h : c.Still d) (command : Control) : (c.control command).1.Still d :=
  still_iff.mpr ((still_iff.mp h).control command)

theorem Still.journalMode (h : c.Still d) (word : Option String) :
    (c.journalMode word).1.Still d := by
  refine h.of_eq (c.database_journalMode word) ?_
  unfold Connection.journalMode changeMode
  dsimp only
  repeat' split
  all_goals rfl

theorem Still.run (h : c.Still d) (parameters : List Value) {p : Plan} (hp : p.writes = false) :
    (c.run parameters p).1.Still d := by
  cases p with
  | query q => exact h
  | insert p => cases hp
  | update p => cases hp
  | delete p => cases hp
  | createTable t =>
    cases t with
    | none => exact h
    | some t => cases hp
  | dropTable table =>
    cases table with
    | none => exact h
    | some t => cases hp
  | addColumn p => cases hp
  | control command => exact h.control command
  | journalMode word => exact h.journalMode word
  | expire => exact h.of_eq rfl rfl
  | idle => exact h

/-- What does not write keeps it so that nothing has been written. -/
theorem Still.perform (h : c.Still d) (parameters : List Value) {p : Plan} (hp : p.writes = false) :
    (c.perform parameters p).1.Still d := by
  have hr := c.performed_perform parameters p
  generalize c.perform parameters p = performed at hr
  cases hr with
  | refused k writes count => exact h.of_eq rfl rfl
  | ran k => exact Still.run (c := { c with companions := k }) (h.of_eq rfl rfl) parameters hp

/-! ### A transaction that can be undone -/

/-- Where a database is kept, and how its changes are secured. -/
def secured (c : Connection) : Storage × JournalMode := (c.storage, c.journal)

theorem undoesTransactions_of_secured (h : c'.secured = c.secured) :
    c'.undoesTransactions = c.undoesTransactions := by
  obtain ⟨hs, hj⟩ := Prod.mk.inj h
  rw [undoesTransactions, undoesTransactions, hj]

theorem secured_undo (c : Connection) (d : Database) : (c.undo d).secured = c.secured := by
  rw [undo]
  repeat' split
  all_goals rfl

theorem secured_keep (c : Connection) (d : Database) (deferred : Int) :
    (c.keep d deferred).1.secured = c.secured := by
  rw [keep]
  split
  · rfl
  · split <;> rfl

/-- A transaction is open that began with a database and can be undone. -/
structure Restorable (c : Connection) (d : Database) : Prop where
  origin : c.origin = some d
  undoes : c.undoesTransactions = true

theorem Restorable.of_eq (h : c.Restorable d) (ho : c'.origin = c.origin)
    (hs : c'.secured = c.secured) : c'.Restorable d :=
  ⟨ho.trans h.origin, (undoesTransactions_of_secured hs).trans h.undoes⟩

theorem Restorable.abandoned (h : c.Restorable d) : c.abandoned = d :=
  abandoned_of_origin h.origin h.undoes

/-- A statement has failed and taken its transaction with it, and the database is back. -/
structure Restored (p : Connection × Output) (d : Database) : Prop where
  origin : p.1.origin = none
  database : p.1.database = d
  failure : ∃ f, p.2 = .failure f

theorem Restorable.changes (h : c.Restorable d) (count : Nat) :
    ({ c with changes := count } : Connection).Restorable d :=
  h.of_eq rfl rfl

theorem Restorable.of_keep (h : c.Restorable d) {changed : Database} {deferred : Int}
    {f : Option Fault} (hk : c.keep changed deferred = (c', f)) : c'.Restorable d := by
  have hr : (c.keep changed deferred).1.Restorable d :=
    h.of_eq (c.origin_keep changed deferred) (c.secured_keep changed deferred)
  rwa [hk] at hr

theorem Restorable.undo (h : c.Restorable d) (changed : Database) : (c.undo changed).Restorable d :=
  h.of_eq (c.origin_undo changed) (c.secured_undo changed)

theorem Restorable.define (h : c.Restorable d) (changed : Database) :
    (c.define changed).Restorable d :=
  h.of_eq (c.origin_define changed) rfl

theorem Restorable.changing (h : c.Restorable d) (change : Change) :
    (c.changing change).Restorable d := by
  refine h.of_eq (c.origin_changing change) ?_
  rw [Connection.changing]
  split
  · rfl
  · rfl

/-- A change of rows is kept or undone in the transaction, or the transaction is. -/
theorem Restorable.applyChange (h : c.Restorable d) (change : Change) (stop : Option Stop) :
    (c.applyChange change stop).1.Restorable d ∨ Restored (c.applyChange change stop) d := by
  have hb := h.changing change
  have he := c.ending_applyChange change stop
  generalize c.applyChange change stop = ended at he
  cases he with
  | kept keep output => exact Or.inl ((hb.of_keep keep).changes _)
  | undone fault rows => exact Or.inl (hb.undo _)
  | rolledBack f open_ =>
    -- The rows that were changed before the conflict are still there when the transaction goes.
    have hf : ({ c.changing change with database := change.database } : Connection).Restorable d :=
      hb.of_eq rfl rfl
    exact Or.inr ⟨origin_rollBack _, (database_rollBack _).trans hf.abandoned, f, rfl⟩

theorem Restorable.dropTable (h : c.Restorable d) (t : Table) (keys : KeyChecks) :
    (c.dropTable t keys).1.Restorable d := by
  have hd := c.dropped_dropTable t keys
  generalize c.dropTable t keys = dropped at hd
  cases hd with
  | refused f => exact (h.changes 0).undo _
  | emptied keep => exact (((h.changes 0).of_keep keep).define _).changes _
  | erased same =>
    rcases same with rfl | rfl
    · exact h.define _
    · exact (h.changes 0).define _

theorem Restorable.addColumn (h : c.Restorable d) (p : ColumnPlan) :
    (c.addColumn p).1.Restorable d := by
  unfold Connection.addColumn
  dsimp only
  split
  · exact h
  · exact h.define _

theorem Restorable.run (h : c.Restorable d) (parameters : List Value) {p : Plan}
    (hp : p.isSteering = false) :
    (c.run parameters p).1.Restorable d ∨ Restored (c.run parameters p) d := by
  cases p with
  | query q => exact Or.inl h
  | insert p => exact h.applyChange _ _
  | update p => exact h.applyChange _ _
  | delete p => exact h.applyChange _ _
  | createTable t =>
    cases t with
    | none => exact Or.inl h
    | some t => exact Or.inl (h.define _)
  | dropTable table =>
    refine Or.inl ?_
    cases table with
    | none => exact h
    | some dropped =>
      rw [Connection.run]
      split
      · exact h
      · exact h.dropTable _ _
  | addColumn p => exact Or.inl (h.addColumn p)
  | control command => cases hp
  | journalMode word => cases hp
  | expire => exact Or.inl (h.of_eq rfl rfl)
  | idle => exact Or.inl h

/-- What does not steer the connection keeps a transaction as it can be undone, or fails and undoes
it. -/
theorem Restorable.perform (h : c.Restorable d) (parameters : List Value) {p : Plan}
    (hp : p.isSteering = false) :
    (c.perform parameters p).1.Restorable d ∨ Restored (c.perform parameters p) d := by
  have hr := c.performed_perform parameters p
  generalize c.perform parameters p = performed at hr
  cases hr with
  | refused k writes count => exact Or.inl (h.of_eq rfl rfl)
  | ran k => exact Restorable.run (c := { c with companions := k }) (h.of_eq rfl rfl) parameters hp

end Connection

namespace Session

variable {s : Session} {d : Database} {text sql : String}

/-! ### Calls -/

/-- A call that does not get as far as its statement fails and does nothing; otherwise it performs
the statement of its text. -/
theorem Sound.call_cases (h : s.Sound) (sql : String) (params : Params) :
    (∃ on f, (s.call sql params).1.connection = s.connection.enforcing on ∧
        (s.call sql params).2.bind (·.written) = .error f) ∨
      ∃ on, ∃ p : Prepared, ∃ values e, p.ComesOf (Text.trimmed sql) ∧
        (s.call sql params).2 = .ok e ∧
        (s.call sql params).1.connection =
          ((s.connection.enforcing on).perform values p.resolved.plan).1 ∧
        e.output = ((s.connection.enforcing on).perform values p.resolved.plan).2 := by
  have hc := s.called_call sql params
  generalize s.call sql params = called at hc
  cases hc with
  | unfound found =>
    obtain ⟨on, ht⟩ := enforcing_find found
    exact Or.inl ⟨on, _, ht, rfl⟩
  | unbound found bound =>
    obtain ⟨on, ht⟩ := enforcing_find found
    exact Or.inl ⟨on, _, ht, rfl⟩
  | outdated found bound renewed =>
    obtain ⟨on, hu⟩ := enforcing_renewed found renewed
    exact Or.inl ⟨on, _, hu, rfl⟩
  | @performed t u p q values found bound renewed =>
    obtain ⟨on, hu⟩ := enforcing_renewed found renewed
    refine Or.inr ⟨on, q, values, _, comesOf_renewed (h.comesOf_find found) renewed, rfl, ?_, ?_⟩
    · rw [← hu]
      rfl
    · rw [← hu]

/-- The statement of a text is about the connection. -/
def Steers (text : String) : Prop := ∃ m, meaning? text = some m ∧ m.statement.isSteering = true

/-- A text is called in a transaction that began with a database: nothing has been written, or the
transaction can be undone. -/
structure Undoable (s : Session) (text : String) (d : Database) : Prop where
  sound : s.Sound
  still : Steers text → s.connection.Still d
  restorable : ¬Steers text → s.connection.Restorable d

theorem Undoable.abandoned (h : s.Undoable text d) : s.connection.abandoned = d := by
  by_cases ht : Steers text
  · exact (h.still ht).abandoned
  · exact (h.restorable ht).abandoned

theorem isSteering_of_comesOf {p : Prepared} (hp : p.ComesOf text) (ht : ¬Steers text) :
    p.resolved.plan.isSteering = false := by
  obtain ⟨n, hn⟩ := hp.resolved
  have hs : p.parsed.statement.isSteering = false :=
    Bool.eq_false_iff.mpr fun hs => ht ⟨p.parsed, hp.meaning, hs⟩
  exact Names.isSteering_of_resolve hs hn

theorem writes_of_comesOf {p : Prepared} (hp : p.ComesOf text) (ht : Steers text) :
    p.resolved.plan.writes = false := by
  obtain ⟨n, hn⟩ := hp.resolved
  obtain ⟨m, hm, hs⟩ := ht
  rw [hp.meaning] at hm
  cases hm
  exact Names.writes_of_resolve hs hn

/-- **A call of the text keeps what can be undone, or fails with the database brought back.** -/
theorem Undoable.call (h : s.Undoable (Text.trimmed sql) d) (params : Params) :
    (s.call sql params).1.Undoable (Text.trimmed sql) d ∨
      ((s.call sql params).1.connection.abandoned = d ∧
        ∃ f, (s.call sql params).2.bind (·.written) = .error f) := by
  have hs := h.sound.call sql params
  rcases h.sound.call_cases sql params with ⟨on, f, hc, -⟩ | ⟨on, p, values, e, hp, he, hc, ho⟩
  · refine Or.inl ⟨hs, fun ht => ?_, fun ht => ?_⟩
    · rw [hc]
      exact (h.still ht).of_eq rfl rfl
    · rw [hc]
      exact (h.restorable ht).of_eq rfl rfl
  · -- The statement of a text is the same at every call, but the invariant differs with its kind.
    by_cases ht : Steers (Text.trimmed sql)
    · have hd : (s.connection.enforcing on).Still d := (h.still ht).of_eq rfl rfl
      refine Or.inl ⟨hs, fun _ => ?_, fun hn => absurd ht hn⟩
      rw [hc]
      exact hd.perform values (writes_of_comesOf hp ht)
    · have hd : (s.connection.enforcing on).Restorable d := (h.restorable ht).of_eq rfl rfl
      rcases hd.perform values (isSteering_of_comesOf hp ht) with hr | hr
      · refine Or.inl ⟨hs, fun hn => absurd hn ht, fun _ => ?_⟩
        rw [hc]
        exact hr
      · obtain ⟨f, hf⟩ := hr.failure
        refine Or.inr ⟨?_, .failed f, ?_⟩
        · have ha := (Connection.isAutocommit_iff _).mpr hr.origin
          rw [hc, Connection.abandoned, Connection.committed_of_isAutocommit ha, hr.database]
          exact ite_self d
        · rw [he]
          change e.written = _
          rw [Execution.written, Execution.ending, ho, hf]
          rfl

/-- A transaction that begins can be undone if the engine can undo it. -/
theorem undoable_begin (h : s.Sound) (ha : s.connection.isAutocommit = true)
    (hu : s.connection.undoesTransactions = true) (text : String) :
    (s.control .begin).1.Undoable text s.connection.database := by
  have ht : s.connection.transaction = none := Option.isNone_iff_eq_none.mp ha
  have hs : s.connection.Still s.connection.database :=
    Connection.still_iff.mpr (Connection.throughout_of_transaction_eq_none rfl ht)
  refine ⟨h.control .begin, fun _ => hs.control .begin, fun _ => ⟨?_, ?_⟩⟩
  · rw [control, Connection.control_begin ht]
    rfl
  · rw [control, Connection.control_begin ht]
    exact hu

end Session

end NamedSql.Sql
