import NamedSql.Proofs.Sql.Restoring

/-!
# Autocommit

A connection is in autocommit as long as no transaction is open on it. Only statements that control
transactions open one, so a connection in autocommit stays there whatever else is executed; and a
transaction that is given up or committed is gone, whatever was executed in it.

## Main definitions

* `Statement.isControl`, `Plan.isControl` — beginning or ending transactions or parts of them
* `Session.controls` — whether the statement of a text does so

## Main results

* `Names.isControl_of_resolve` — statements that do not control transactions have plans that do not
* `Session.Sound.isAutocommit_call` — a call keeps autocommit unless its statement controls
  transactions
* `Session.isAutocommit_rolledBack`, `Session.isAutocommit_committed` — the end of a transaction
-/

namespace NamedSql.Sql

/-- Whether a statement begins or ends a transaction or a part of one. -/
def Statement.isControl : Statement → Bool
  | .control _ => true
  | _ => false

/-- Whether a plan begins or ends a transaction or a part of one. -/
def Plan.isControl : Plan → Bool
  | .control _ => true
  | _ => false

theorem Plan.isControl_of_isSteering {p : Plan} (h : p.isSteering = false) :
    p.isControl = false := by
  cases p <;> first | rfl | cases h

/-- A statement that does not control transactions has a plan that does not. -/
theorem Names.isControl_of_resolve {n : Names} {s : Statement} {r : Resolved}
    (hs : s.isControl = false) (h : n.resolve s = .ok r) : r.plan.isControl = false := by
  cases s with
  | control c => cases hs
  | pragma name value =>
    change Resolve.start (pure (n.pragma name value)) = .ok r at h
    rw [Resolve.start_pure, pragma] at h
    cases h
    repeat' split
    all_goals rfl
  | _ => exact Plan.isControl_of_isSteering (isSteering_of_resolve rfl h)

namespace Connection

variable {c : Connection}

theorem isAutocommit_of_origin {c' : Connection} (h : c'.origin = c.origin) :
    c'.isAutocommit = c.isAutocommit := by
  rw [Bool.eq_iff_iff, isAutocommit_iff, isAutocommit_iff, h]

/-! ### Statements in autocommit -/

theorem isAutocommit_changing (c : Connection) (change : Change) :
    (c.changing change).isAutocommit = c.isAutocommit :=
  isAutocommit_of_origin (c.origin_changing change)

theorem isAutocommit_applyChange (h : c.isAutocommit = true) (change : Change)
    (stop : Option Stop) : (c.applyChange change stop).1.isAutocommit = true := by
  have hb : (c.changing change).isAutocommit = true := by rw [isAutocommit_changing, h]
  have he := c.ending_applyChange change stop
  generalize c.applyChange change stop = ended at he
  cases he with
  | kept keep output => exact (isAutocommit_of_origin (origin_of_keep keep)).trans hb
  | undone fault rows => exact (isAutocommit_of_origin (origin_undo _ _)).trans hb
  | rolledBack f open_ =>
    rw [hb] at open_
    cases open_

theorem isAutocommit_run (h : c.isAutocommit = true) (parameters : List Value) {p : Plan}
    (hp : p.isControl = false) : (c.run parameters p).1.isAutocommit = true := by
  cases p with
  | query q => exact h
  | insert p => exact isAutocommit_applyChange h _ _
  | update p => exact isAutocommit_applyChange h _ _
  | delete p => exact isAutocommit_applyChange h _ _
  | createTable t =>
    cases t with
    | none => exact h
    | some t => exact (isAutocommit_of_origin (origin_define c _)).trans h
  | dropTable table =>
    cases table with
    | none => exact h
    | some dropped =>
      rw [run]
      split
      · exact h
      · exact (isAutocommit_of_origin (origin_dropTable c _ _)).trans h
  | addColumn p => exact (isAutocommit_of_origin (origin_addColumn c p)).trans h
  | control command => cases hp
  | journalMode word => exact (isAutocommit_of_origin (origin_journalMode c word)).trans h
  | expire => exact h
  | idle => exact h

/-- A connection in autocommit stays there if no transaction is controlled. -/
theorem isAutocommit_perform (h : c.isAutocommit = true) (parameters : List Value) {p : Plan}
    (hp : p.isControl = false) : (c.perform parameters p).1.isAutocommit = true := by
  have hr := c.performed_perform parameters p
  generalize c.perform parameters p = performed at hr
  cases hr with
  | refused k writes count => exact h
  | ran k => exact isAutocommit_run (c := { c with companions := k }) h parameters hp

/-! ### The end of a transaction -/

theorem isAutocommit_rolledBack (c : Connection) :
    (c.control .rollback).1.isAutocommit = true := by
  cases h : c.transaction with
  | none =>
    simp only [control, h]
    rw [isAutocommit, h]
    rfl
  | some t =>
    simp only [control, h]
    rw [isAutocommit_iff, origin_rollBack]

theorem isAutocommit_committed (h : (c.control .commit).2 = none) :
    (c.control .commit).1.isAutocommit = true := by
  cases ht : c.transaction with
  | none =>
    simp only [control, ht] at h
    cases h
  | some t =>
    simp only [control, ht, commit] at h ⊢
    split at h
    · cases h
    · rw [if_neg ‹_›]
      rfl

end Connection

namespace Session

variable {s : Session}

/-- Whether the statement of a text begins or ends a transaction or a part of one. -/
def controls (text : String) : Bool := (meaning? text).any fun m => m.statement.isControl

theorem isControl_of_comesOf {text : String} {p : Prepared} (hp : p.ComesOf text)
    (ht : controls text = false) : p.resolved.plan.isControl = false := by
  obtain ⟨n, hn⟩ := hp.resolved
  have hs : p.parsed.statement.isControl = false := by
    rwa [controls, hp.meaning] at ht
  exact Names.isControl_of_resolve hs hn

/-- **A call keeps a connection in autocommit, unless its statement controls transactions.** -/
theorem Sound.isAutocommit_call (h : s.Sound) (ha : s.connection.isAutocommit = true)
    {sql : String} (hc : controls (Text.trimmed sql) = false) (params : Params) :
    (s.call sql params).1.connection.isAutocommit = true := by
  rcases h.call_cases sql params with ⟨on, f, hs, -⟩ | ⟨on, p, values, e, hp, -, hs, -⟩
  · rw [hs]
    exact ha
  · have he : (s.connection.enforcing on).isAutocommit = true := ha
    rw [hs]
    exact Connection.isAutocommit_perform he values (isControl_of_comesOf hp hc)

theorem isAutocommit_rolledBack (s : Session) :
    (s.control .rollback).1.connection.isAutocommit = true :=
  s.connection.isAutocommit_rolledBack

theorem isAutocommit_committed {t : Session} (h : s.control .commit = (t, none)) :
    t.connection.isAutocommit = true := by
  have hc := s.connection.isAutocommit_committed (congrArg Prod.snd h)
  have ht : (s.control .commit).1 = t := congrArg Prod.fst h
  rw [← ht]
  exact hc

end Session

end NamedSql.Sql
