import NamedSql.Proofs.Sql.Autocommit

/-!
# The setting for keys of other tables

Whether keys of other tables are enforced is decided when a statement is prepared: its plan lists
the keys that it has to look at. So by the time a plan is carried out the setting of the connection
does not matter any more, and is left as it is.

## Main definitions

* `Connection.withSetting` — the same outcome, but for the setting

## Main results

* `Connection.perform_enforcing` — a plan does the same under either setting
-/

namespace NamedSql.Sql

namespace Connection

/-- The same outcome, but for the setting. -/
def withSetting {α : Type} (on : Bool) (p : Connection × α) : Connection × α :=
  (p.1.enforcing on, p.2)

variable (c : Connection) (on : Bool)

/-! ### Writing and transactions -/

theorem undo_enforcing (d : Database) : (c.enforcing on).undo d = (c.undo d).enforcing on := by
  unfold undo
  repeat' split
  all_goals first | rfl | contradiction

theorem keep_enforcing (d : Database) (deferred : Int) :
    (c.enforcing on).keep d deferred = withSetting on (c.keep d deferred) := by
  rw [keep, keep]
  cases ht : c.transaction with
  | none =>
    have ht' : (c.enforcing on).transaction = none := ht
    rw [ht']
    dsimp only
    split <;> rfl
  | some t =>
    have ht' : (c.enforcing on).transaction = some t := ht
    rw [ht']
    rfl

theorem rollBack_enforcing : (c.enforcing on).rollBack = c.rollBack.enforcing on := by
  rw [rollBack, rollBack]
  have h : (c.enforcing on).hasRedefined = c.hasRedefined := rfl
  rw [h]
  dsimp only
  split <;> rfl

theorem commit_enforcing (t : Transaction) :
    (c.enforcing on).commit t = withSetting on (c.commit t) := by
  rw [commit, commit]
  split <;> rfl

theorem control_enforcing (command : Control) :
    (c.enforcing on).control command = withSetting on (c.control command) := by
  cases ht : c.transaction with
  | none =>
    have ht' : (c.enforcing on).transaction = none := ht
    cases command <;> simp only [control, ht, ht'] <;> rfl
  | some t =>
    have ht' : (c.enforcing on).transaction = some t := ht
    cases command <;> simp only [control, ht, ht', commit_enforcing, rollBack_enforcing]
    any_goals rfl
    · split
      · rfl
      · split <;> rfl
    · split
      · rfl
      · split <;> rfl

/-! ### Statements -/

theorem changing_enforcing (change : Change) :
    (c.enforcing on).changing change = (c.changing change).enforcing on := by
  rw [changing, changing]
  split <;> rfl

theorem applyChange_enforcing (change : Change) (stop : Option Stop) :
    (c.enforcing on).applyChange change stop = withSetting on (c.applyChange change stop) := by
  have hc := c.changing_enforcing on change
  unfold applyChange
  extract_lets c₀ b complete stop' failed c₀' b' failed'
  change b = b'.enforcing on at hc
  have hf : failed = failed'.enforcing on := by
    change ({ b with database := change.database } : Connection) =
      ({ b' with database := change.database } : Connection).enforcing on
    rw [hc]
    rfl
  clear_value failed failed' b b'
  subst hc hf
  match stop' with
  | none =>
    dsimp only
    rw [keep_enforcing]
    rcases b'.keep change.database change.missing.deferred with ⟨e, _ | f⟩
    · rfl
    · exact congrArg (·, _) (e.undo_enforcing on _)
  | some ⟨f, .fail⟩ =>
    dsimp only
    rw [keep_enforcing]
    rcases b'.keep change.database change.missing.deferred with ⟨e, _ | f⟩
    · rfl
    · exact congrArg (·, _) (e.undo_enforcing on _)
  | some ⟨f, .rollback⟩ =>
    have hu := b'.undo_enforcing on change.database
    have hr := failed'.rollBack_enforcing on
    have ha : (b'.enforcing on).isAutocommit = b'.isAutocommit := rfl
    dsimp only [withSetting]
    rw [ha]
    split
    · exact congrArg (·, _) hu
    · exact congrArg (·, _) hr
  | some ⟨f, .abort⟩ => exact congrArg (·, _) (b'.undo_enforcing on _)
  | some ⟨f, .ignore⟩ => exact congrArg (·, _) (b'.undo_enforcing on _)
  | some ⟨f, .replace⟩ => exact congrArg (·, _) (b'.undo_enforcing on _)

theorem dropTable_enforcing (t : Table) (keys : KeyChecks) :
    (c.enforcing on).dropTable t keys = withSetting on (c.dropTable t keys) := by
  unfold dropTable
  extract_lets referred b b'
  have he : b.emptied t keys = b'.emptied t keys := rfl
  have hd : b.deferred = b'.deferred := rfl
  have hb : b = b'.enforcing on := rfl
  rw [he, hd]
  clear_value b b' referred
  subst hb
  split
  · split
    · rcases b'.emptied t keys with ⟨d, missing⟩
      dsimp only
      split
      · exact congrArg (·, _) (b'.undo_enforcing on d)
      · rw [keep_enforcing]
        rcases b'.keep d missing.deferred with ⟨e, _ | f⟩
        · rfl
        · exact congrArg (·, _) (e.undo_enforcing on d)
    · rfl
  · rfl

theorem addColumn_enforcing (p : ColumnPlan) :
    (c.enforcing on).addColumn p = withSetting on (c.addColumn p) := by
  unfold addColumn
  extract_lets rows fault definition rows' fault'
  have hf : fault = fault' := rfl
  clear_value fault fault'
  subst hf
  cases fault <;> rfl

theorem journalMode_enforcing (word : Option String) :
    (c.enforcing on).journalMode word = withSetting on (c.journalMode word) := by
  have hs : (c.enforcing on).storage = c.storage := rfl
  have hj : (c.enforcing on).journal = c.journal := rfl
  have hw : (c.enforcing on).hasWritten = c.hasWritten := rfl
  have hl : (c.enforcing on).logFault? = c.logFault? := rfl
  simp only [journalMode, hs, hj, hw, hl]
  repeat' split
  all_goals rfl

theorem run_enforcing (parameters : List Value) (p : Plan) :
    (c.enforcing on).run parameters p = withSetting on (c.run parameters p) := by
  cases p with
  | query q => rfl
  | insert p => exact c.applyChange_enforcing on _ _
  | update p => exact c.applyChange_enforcing on _ _
  | delete p => exact c.applyChange_enforcing on _ _
  | createTable t => cases t <;> rfl
  | dropTable dropped =>
    rcases dropped with _ | ⟨name, keys⟩
    · rfl
    · have hd : (c.enforcing on).database = c.database := rfl
      rw [run, run, hd]
      rcases c.database.find? name with _ | t
      · rfl
      · exact c.dropTable_enforcing on t keys
  | addColumn p => exact c.addColumn_enforcing on p
  | control command =>
    rw [run, run, control_enforcing]
    rfl
  | journalMode word => exact c.journalMode_enforcing on word
  | expire => rfl
  | idle => rfl

/-- **A plan does the same under either setting**, and leaves the setting alone. -/
theorem perform_enforcing (parameters : List Value) (p : Plan) :
    (c.enforcing on).perform parameters p = withSetting on (c.perform parameters p) := by
  have hl : (if p.looksAtTables then (c.enforcing on).looked else c.enforcing on) =
      (if p.looksAtTables then c.looked else c).enforcing on := by
    split <;> rfl
  rw [perform, perform]
  rw [hl]
  generalize (if p.looksAtTables then c.looked else c) = b
  have hr : (b.enforcing on).readOnly = b.readOnly := rfl
  rw [hr]
  split
  · rw [refuse, refuse]
    split <;> rfl
  · exact b.run_enforcing on parameters p

end Connection

end NamedSql.Sql
