import NamedSql.Sql.Session

/-!
# How operations end

The ways in which a command that controls transactions, a change of rows, the drop of a table, a
statement as a whole, and the call of a text may come out. Each of these operations is given as a
relation with a constructor for every way. What it keeps is then read off the constructors, without
another look at how it goes about its work.

## Scope

Which of the ways is taken is not told, only what holds where it is taken.

## Main definitions

* `Connection.Controlled` — what a command that controls transactions may come to
* `Connection.Ending` — how a change of rows may end
* `Connection.Dropped` — what the drop of a table may come to
* `Connection.Performed` — what a statement may come to
* `Session.Called` — what the call of a text may come to

## Main results

* `Connection.controlled_control`, `Connection.ending_applyChange`, `Connection.dropped_dropTable`,
  `Connection.performed_perform`, `Session.called_call` — there are no other ways
-/

namespace NamedSql.Sql

namespace Connection

variable {c : Connection}

/-! ### Control -/

/-- The connection once its transaction has gone back to a savepoint, which is kept with the earlier
ones. -/
def backTo (c : Connection) (t : Transaction) (s : Savepoint) (earlier : List Savepoint) :
    Connection :=
  let restored := { c with
    database := if c.undoesTransactions then s.database else c.database
    transaction := some { t with deferred := s.deferred, savepoints := s :: earlier } }
  if t.redefined then restored.expire else restored

theorem database_backTo (c : Connection) (t : Transaction) (s : Savepoint)
    (earlier : List Savepoint) :
    (c.backTo t s earlier).database = if c.undoesTransactions then s.database else c.database := by
  rw [backTo]
  split <;> rfl

theorem transaction_backTo (c : Connection) (t : Transaction) (s : Savepoint)
    (earlier : List Savepoint) :
    (c.backTo t s earlier).transaction =
      some { t with deferred := s.deferred, savepoints := s :: earlier } := by
  rw [backTo]
  split <;> rfl

theorem transaction_rollBack (c : Connection) : c.rollBack.transaction = none := by
  rw [rollBack]
  dsimp only
  split <;> rfl

/-- What a command that controls transactions may come to. -/
inductive Controlled (c : Connection) : Connection × Option Fault → Prop
  | refused (f : Fault) : Controlled c (c, some f)
  /-- A transaction begins with the database as it is. -/
  | began {t : Transaction} (closed : c.transaction = none) (before : t.before = c.database)
      (saved : ∀ s ∈ t.savepoints, s.database = c.database) :
      Controlled c ({ c with transaction := some t }, none)
  | committed {t : Transaction} (open_ : c.transaction = some t) : Controlled c (c.ended, none)
  | rolledBack {t : Transaction} (open_ : c.transaction = some t) : Controlled c (c.rollBack, none)
  /-- A savepoint is set. -/
  | marked {t : Transaction} (open_ : c.transaction = some t) (name : String) :
      Controlled c ({ c with transaction := some { t with
        savepoints := ⟨name, c.database, t.deferred⟩ :: t.savepoints } }, none)
  /-- Savepoints are given up. -/
  | released {t : Transaction} {earlier : List Savepoint} (open_ : c.transaction = some t)
      (kept : earlier ⊆ t.savepoints) :
      Controlled c ({ c with transaction := some { t with savepoints := earlier } }, none)
  | wentBack {t : Transaction} {s : Savepoint} {earlier : List Savepoint}
      (open_ : c.transaction = some t) (kept : s :: earlier ⊆ t.savepoints) :
      Controlled c (c.backTo t s earlier, none)

theorem fromSavepoint_subset (name : String) (saved : List Savepoint) :
    fromSavepoint name saved ⊆ saved := by
  induction saved with
  | nil => exact List.Subset.refl []
  | cons first rest ih =>
    rw [fromSavepoint]
    split
    · exact List.Subset.refl _
    · exact List.subset_cons_of_subset first ih

theorem controlled_commit {t : Transaction} (ht : c.transaction = some t) :
    c.Controlled (c.commit t) := by
  rw [commit]
  split
  · exact .refused .foreignKey
  · exact .committed ht

/-- **A command is refused, begins or ends a transaction, or moves among its savepoints.** -/
theorem controlled_control (c : Connection) (command : Control) :
    c.Controlled (c.control command) := by
  cases ht : c.transaction with
  | none =>
    cases command with
    | begin =>
      rw [control_begin ht]
      exact .began ht rfl nofun
    | savepoint name =>
      simp only [control, ht]
      exact .began ht rfl (List.forall_mem_singleton.mpr rfl)
    | _ =>
      simp only [control, ht]
      exact .refused _
  | some t =>
    cases command with
    | begin =>
      simp only [control, ht]
      exact .refused _
    | commit =>
      simp only [control, ht]
      exact controlled_commit ht
    | rollback =>
      simp only [control, ht]
      exact .rolledBack ht
    | savepoint name =>
      simp only [control, ht]
      exact .marked ht name
    | release name =>
      have hs := fromSavepoint_subset name t.savepoints
      simp only [control, ht]
      split
      · exact .refused _
      · rename_i s earlier hf
        rw [hf] at hs
        split
        · exact controlled_commit ht
        · exact .released ht (List.subset_of_cons_subset hs)
    | rollbackTo name =>
      have hs := fromSavepoint_subset name t.savepoints
      simp only [control, ht]
      split
      · exact .refused _
      · rename_i s earlier hf
        rw [hf] at hs
        exact .wentBack ht hs

/-! ### Changes of rows -/

/-- A change that is refused when it is to be kept leaves the connection as it was. -/
theorem eq_of_keep {d : Database} {deferred : Int} {f : Fault} {e : Connection}
    (h : c.keep d deferred = (e, some f)) : e = c := by
  rw [keep] at h
  split at h
  · cases h
  · split at h
    · cases h
      rfl
    · cases h

/-- The connection while a change of rows is made whose fate is open. -/
def changing (c : Connection) (change : Change) : Connection :=
  let c := { c with lastRowid := change.lastRowid.getD c.lastRowid, changes := 0 }
  if change.count = 0 then c else c.wrote

/-- How a change of rows may end on a connection: it is kept or undone, or the open transaction is
rolled back. -/
inductive Ending (c : Connection) (change : Change) (stop : Option Stop) :
    Connection × Output → Prop
  | kept {e : Connection} {o : Output}
      (keep : c.keep change.database change.missing.deferred = (e, none))
      (output : o = ⟨change.returned, none⟩ ∨ ∃ f, stop = some ⟨f, .fail⟩ ∧ o = .failure f) :
      Ending c change stop ({ e with changes := change.count }, o)
  | undone {o : Output} (fault : o.fault ≠ none) (rows : o.rows = change.returned ∨ o.rows = []) :
      Ending c change stop (c.undo change.database, o)
  | rolledBack (f : Fault) (open_ : c.isAutocommit = false) :
      Ending c change stop (({ c with database := change.database } : Connection).rollBack,
        .failure f)

/-- What becomes of a change of rows is one of these. -/
theorem ending_applyChange (c : Connection) (change : Change) (stop : Option Stop) :
    Ending (c.changing change) change stop (c.applyChange change stop) := by
  unfold applyChange
  extract_lets c₀ b isComplete stop'
  change Ending b change stop _
  have hk : ∀ e f, b.keep change.database change.missing.deferred = (e, some f) →
      e.undo change.database = b.undo change.database := by
    intro e f he
    rw [eq_of_keep he]
  match hm : stop' with
  | none =>
    dsimp only
    split
    · exact .kept ‹_› (Or.inl rfl)
    · rw [hk _ _ ‹_›]
      exact .undone nofun (Or.inl rfl)
  | some ⟨f, .fail⟩ =>
    dsimp only
    split
    · refine .kept ‹_› (Or.inr ⟨f, ?_, rfl⟩)
      change (if _ then some (Stop.abort .foreignKey) else stop) = some ⟨f, .fail⟩ at hm
      split at hm
      · cases hm
      · exact hm
    · rw [hk _ _ ‹_›]
      exact .undone nofun (Or.inr rfl)
  | some ⟨f, .rollback⟩ =>
    dsimp only
    split
    · exact .undone nofun (Or.inr rfl)
    · exact .rolledBack f (Bool.eq_false_iff.mpr ‹_›)
  | some ⟨f, .abort⟩ => exact .undone nofun (Or.inr rfl)
  | some ⟨f, .ignore⟩ => exact .undone nofun (Or.inr rfl)
  | some ⟨f, .replace⟩ => exact .undone nofun (Or.inr rfl)

/-! ### Tables that are dropped -/

/-- What the drop of a table may come to: it is refused on account of the rows that would be
deleted, or the table goes, with or without a deletion of its rows. -/
inductive Dropped (c : Connection) (t : Table) (keys : KeyChecks) : Connection × Output → Prop
  | refused (f : Fault) :
      Dropped c t keys
        (({ c with changes := 0 } : Connection).undo (c.emptied t keys).1, .failure f)
  | emptied {e : Connection}
      (keep : ({ c with changes := 0 } : Connection).keep (c.emptied t keys).1
        (c.emptied t keys).2.deferred = (e, none)) :
      Dropped c t keys
        ({ e.define ((c.emptied t keys).1.erase t.name) with changes := t.rows.length }, .nothing)
  | erased {e : Connection} (same : e = c ∨ e = { c with changes := 0 }) :
      Dropped c t keys (e.define (c.database.erase t.name), .nothing)

/-- What becomes of a table that is dropped is one of these. -/
theorem dropped_dropTable (c : Connection) (t : Table) (keys : KeyChecks) :
    c.Dropped t keys (c.dropTable t keys) := by
  unfold dropTable
  dsimp only
  split
  · split
    · split
      · exact .refused _
      · split
        · exact .emptied ‹_›
        · rename_i e f he
          rw [eq_of_keep he]
          exact .refused f
    · exact .erased (Or.inr rfl)
  · exact .erased (Or.inl rfl)

/-! ### Statements -/

/-- What a statement may come to: it would write where nothing can be written, or it is run. The
tables may have been looked at before, which leaves its mark on the companion files. -/
inductive Performed (c : Connection) (parameters : List Value) (p : Plan) :
    Connection × Output → Prop
  | refused (k : Companions) {n : Nat} (writes : p.writes = true)
      (count : n = c.changes ∨ p.changesRows = true ∧ n = 0) :
      Performed c parameters p ({ c with companions := k, changes := n }, .failure .readOnly)
  | ran (k : Companions) :
      Performed c parameters p (({ c with companions := k } : Connection).run parameters p)

/-- What becomes of a statement is one of these. -/
theorem performed_perform (c : Connection) (parameters : List Value) (p : Plan) :
    c.Performed parameters p (c.perform parameters p) := by
  obtain ⟨k, hk⟩ : ∃ k, (if p.looksAtTables then c.looked else c) = { c with companions := k } := by
    split
    · exact ⟨_, rfl⟩
    · exact ⟨c.companions, rfl⟩
  rw [perform, hk]
  split
  · rename_i hw
    have hw := (Bool.and_eq_true_iff.mp hw).2
    rw [refuse]
    split
    · exact .refused k hw (Or.inr ⟨‹_›, rfl⟩)
    · exact .refused k hw (Or.inl rfl)
  · exact .ran k

end Connection

/-! ### Calls -/

namespace Session

/-- What the call of a text may come to: nothing is found under it, its statement does not take the
parameters or is out of date and cannot be prepared anew, or the statement is performed. -/
inductive Called (s : Session) (text : String) (params : Params) :
    Session × Except Failure Execution → Prop
  | unfound {t : Session} {f : Failure} (found : s.find text = (t, .error f)) :
      Called s text params (t, .error f)
  | unbound {t : Session} {p : Prepared} {f : Failure} (found : s.find text = (t, .ok p))
      (bound : bindParameters p.parsed.parameters params = .error f) :
      Called s text params (t.keep text p, .error f)
  | outdated {t u : Session} {p : Prepared} {values : List Value} {f : Fault}
      (found : s.find text = (t, .ok p))
      (bound : bindParameters p.parsed.parameters params = .ok values)
      (renewed : t.renewed p = (u, .error f)) :
      Called s text params
        (u.keep text p, .ok ⟨p.resolved.columns, p.resolved.columns, .failure f⟩)
  | performed {t u : Session} {p q : Prepared} {values : List Value}
      (found : s.find text = (t, .ok p))
      (bound : bindParameters p.parsed.parameters params = .ok values)
      (renewed : t.renewed p = (u, .ok q)) :
      Called s text params
        (({ u with connection := (u.connection.perform values q.resolved.plan).1 } : Session).keep
          text q,
        .ok ⟨p.resolved.columns, q.resolved.columns,
          (u.connection.perform values q.resolved.plan).2⟩)

/-- What becomes of a call is one of these. -/
theorem called_call (s : Session) (sql : String) (params : Params) :
    s.Called (Text.trimmed sql) params (s.call sql params) := by
  rw [call]
  dsimp only
  cases hf : s.find (Text.trimmed sql) with
  | mk t found =>
    cases found with
    | error f => exact .unfound hf
    | ok p =>
      dsimp only
      cases hb : bindParameters p.parsed.parameters params with
      | error f => exact .unbound hf hb
      | ok values =>
        dsimp only
        unfold execute
        dsimp only
        cases hr : t.renewed p with
        | mk u renewed =>
          cases renewed with
          | error f => exact .outdated hf hb hr
          | ok q => exact .performed hf hb hr

end Session

end NamedSql.Sql
