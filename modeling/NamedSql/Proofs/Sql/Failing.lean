import NamedSql.Proofs.Sql.Autocommit
import NamedSql.Proofs.Sql.Stopping

/-!
# Statements that fail

What a statement leaves in the tables if it fails, or if what it has delivered cannot be read. A
statement that the engine gives up leaves nothing, outside of a transaction and as long as the
engine is able to undo it, unless it says that a conflict is to keep what was changed before it. A
statement that the engine carries out has changed the tables by the time its rows are read; so that
matters only if there are rows, which a change of rows delivers only if its statement says so.

## Scope

A transaction that is open has its own laws; here none is open. Whether the rows of a query can be
read makes no difference, because a query changes nothing.

## Main definitions

* `Statement.returns`, `Statement.conflict` — what a statement says about rows to return and about
  conflicts
* `Session.returns`, `Session.keepsPart` — the same of the statement of a text

## Main results

* `Connection.database_of_fault` — a statement that the engine gives up leaves the tables as they
  were
* `Connection.database_of_rows` — a statement that returns rows of a query leaves the tables as they
  were
* `Session.Sound.database_call` — what a call leaves whose delivery cannot be read
-/

namespace NamedSql.Sql

/-! ### What a statement says -/

namespace Statement

/-- Whether a statement returns the rows that it changes. -/
def returns : Statement → Bool
  | .insert s => !s.returning.isEmpty
  | .update s => !s.returning.isEmpty
  | .delete s => !s.returning.isEmpty
  | _ => false

/-- What a statement says about a row that would violate a constraint. -/
def conflict : Statement → Conflict
  | .insert s => s.conflict
  | .update s => s.conflict
  | _ => .abort

end Statement

namespace Resolve

variable {α β : Type} {P : α → Prop} {R : β → Prop}

theorem yields_bind_of {x : Resolve β} {f : β → Resolve α} (hx : Yields R x)
    (h : ∀ b, R b → Yields P (f b)) : Yields P (x >>= f) := by
  intro w a w' ha
  rw [StateT.run_bind] at ha
  cases hr : x.run w with
  | error e =>
    rw [hr] at ha
    cases ha
  | ok p =>
    rw [hr] at ha
    exact h p.1 (hx w p.1 p.2 hr) p.2 a w' ha

end Resolve

namespace Names

open Resolve

variable {n : Names} {s : Statement} {r : Resolved}

/-- Where nothing is to be returned, nothing is. -/
theorem yields_returning_nil (n : Names) (t : Table) :
    Yields (fun returned => returned = []) (n.returning t []) := by
  rw [returning]
  refine yields_bind fun _ => ?_
  refine yields_bind fun _ => ?_
  refine yields_bind fun _ => ?_
  refine yields_bind_of (R := fun results => results = []) ?_ fun results h => ?_
  · exact yields_pure rfl
  · exact yields_bind fun _ => yields_pure h

theorem yields_conflict (n : Names) (s : Statement) :
    Yields (fun r => r.plan.conflict = s.conflict) (n.statement s) := by
  cases s with
  | control c => exact yields_pure rfl
  | pragma name value =>
    refine yields_pure ?_
    rw [pragma]
    repeat' split
    all_goals rfl
  | insert s =>
    simp only [Names.statement, Names.insert]
    repeat' first
      | with_reducible exact yields_throw _
      | with_reducible refine yields_bind fun _ => ?_
      | split
      | exact yields_pure rfl
  | _ =>
    simp only [Names.statement, Names.update, Names.delete, Names.createTable, Names.extendTable]
    repeat' first
      | with_reducible exact yields_pure rfl
      | with_reducible exact yields_throw _
      | with_reducible refine yields_bind fun _ => ?_
      | split

theorem yields_returns (n : Names) (hs : s.returns = false) :
    Yields (fun r => r.plan.returns = false) (n.statement s) := by
  cases s with
  | control c => exact yields_pure rfl
  | pragma name value =>
    refine yields_pure ?_
    rw [pragma]
    repeat' split
    all_goals rfl
  | insert s =>
    have hr : s.returning = [] := by simpa [Statement.returns] using hs
    simp only [Names.statement, Names.insert, hr]
    repeat' first
      | with_reducible exact yields_throw _
      | with_reducible refine yields_bind_of (n.yields_returning_nil _) fun _ h => ?_
      | with_reducible refine yields_bind fun _ => ?_
      | (subst h; exact yields_pure rfl)
      | split
  | update s =>
    have hr : s.returning = [] := by simpa [Statement.returns] using hs
    simp only [Names.statement, Names.update, hr]
    repeat' first
      | with_reducible refine yields_bind_of (n.yields_returning_nil _) fun _ h => ?_
      | with_reducible refine yields_bind fun _ => ?_
      | (subst h; exact yields_pure rfl)
  | delete s =>
    have hr : s.returning = [] := by simpa [Statement.returns] using hs
    simp only [Names.statement, Names.delete, hr]
    repeat' first
      | with_reducible refine yields_bind_of (n.yields_returning_nil _) fun _ h => ?_
      | with_reducible refine yields_bind fun _ => ?_
      | (subst h; exact yields_pure rfl)
  | _ =>
    simp only [Names.statement, Names.createTable, Names.extendTable]
    repeat' first
      | with_reducible exact yields_pure rfl
      | with_reducible exact yields_throw _
      | with_reducible refine yields_bind fun _ => ?_
      | split

/-- Conflicts are treated as the statement says. -/
theorem conflict_of_resolve (h : n.resolve s = .ok r) : r.plan.conflict = s.conflict :=
  (n.yields_conflict s).of_start h

/-- A plan returns the rows that it changes only if its statement says so. -/
theorem returns_of_resolve (hs : s.returns = false) (h : n.resolve s = .ok r) :
    r.plan.returns = false :=
  (n.yields_returns hs).of_start h

end Names

namespace Connection

variable {c c' : Connection}

/-! ### Changes of rows -/

theorem undo_of_isAutocommit (ha : c.isAutocommit = true) (hu : c.undoesTransactions = true)
    (changed : Database) : c.undo changed = c := by
  rw [undo, if_pos ha, if_pos (goesBack_of_undoesTransactions hu)]

theorem undo_changing (ha : c.isAutocommit = true) (hu : c.undoesTransactions = true)
    (change : Change) : ((c.changing change).undo change.database).database = c.database := by
  have hb : (c.changing change).undoesTransactions = true ∧
      (c.changing change).database = c.database := by
    rw [changing]
    split
    · exact ⟨hu, rfl⟩
    · exact ⟨hu, rfl⟩
  rw [undo_of_isAutocommit ((c.isAutocommit_changing change).trans ha) hb.1, hb.2]

theorem database_applyChange_of_fault (ha : c.isAutocommit = true)
    (hu : c.undoesTransactions = true) {change : Change} {stop : Option Stop}
    (hs : ∀ s, stop = some s → s.conflict ≠ .fail) {f : Fault}
    (hf : (c.applyChange change stop).2.fault = some f) :
    (c.applyChange change stop).1.database = c.database := by
  have he := c.ending_applyChange change stop
  generalize c.applyChange change stop = ended at he hf
  cases he with
  | kept keep output =>
    rcases output with rfl | ⟨g, hg, rfl⟩
    · cases hf
    · exact absurd rfl (hs _ hg)
  | undone fault rows => exact undo_changing ha hu change
  | rolledBack g open_ =>
    rw [isAutocommit_changing, ha] at open_
    cases open_

theorem rows_applyChange {change : Change} (h : change.returned = []) (stop : Option Stop) :
    (c.applyChange change stop).2.rows = [] := by
  have he := c.ending_applyChange change stop
  generalize c.applyChange change stop = ended at he
  cases he with
  | kept keep output =>
    rcases output with rfl | ⟨g, hg, rfl⟩
    · exact h
    · rfl
  | undone fault rows => exact rows.elim (·.trans h) id
  | rolledBack g open_ => rfl

theorem run_of_change? {parameters : List Value} {p : Plan} {change : Change} {stop : Option Stop}
    (h : p.change? parameters c.beginChange = some (change, stop)) :
    c.run parameters p = c.applyChange change stop := by
  cases p with
  | insert p =>
    rw [run, Option.some.inj h]
  | update p =>
    rw [run, Option.some.inj h]
  | delete p =>
    rw [run, Option.some.inj h]
  | _ => cases h

theorem rows_dropTable (c : Connection) (t : Table) (keys : KeyChecks) :
    (c.dropTable t keys).2.rows = [] := by
  have hd := c.dropped_dropTable t keys
  generalize c.dropTable t keys = dropped at hd
  cases hd with
  | _ => rfl

theorem rows_addColumn (c : Connection) (p : ColumnPlan) : (c.addColumn p).2.rows = [] := by
  unfold addColumn
  dsimp only
  split <;> rfl

/-! ### Statements that are given up -/

theorem database_dropTable_of_fault (ha : c.isAutocommit = true)
    (hu : c.undoesTransactions = true) {t : Table} {keys : KeyChecks} {f : Fault}
    (hf : (c.dropTable t keys).2.fault = some f) :
    (c.dropTable t keys).1.database = c.database := by
  have hd := c.dropped_dropTable t keys
  generalize c.dropTable t keys = dropped at hd hf
  cases hd with
  | refused g => rw [undo_of_isAutocommit (c := { c with changes := 0 }) ha hu]
  | emptied keep => cases hf
  | erased same => cases hf

theorem database_addColumn_of_fault {p : ColumnPlan} {f : Fault}
    (hf : (c.addColumn p).2.fault = some f) : (c.addColumn p).1.database = c.database := by
  revert hf
  unfold addColumn
  dsimp only
  split
  · exact fun _ => rfl
  · exact nofun

/-- Without an open transaction, what controls one either begins it or is refused. -/
theorem database_control_of_isAutocommit (ha : c.isAutocommit = true) (command : Control) :
    (c.control command).1.database = c.database := by
  have ht : c.transaction = none := Option.isNone_iff_eq_none.mp ha
  cases command <;> simp only [control, ht]

theorem database_run_of_fault (ha : c.isAutocommit = true) (hu : c.undoesTransactions = true)
    {parameters : List Value} {p : Plan} (hc : p.conflict ≠ .fail) {f : Fault}
    (hf : (c.run parameters p).2.fault = some f) :
    (c.run parameters p).1.database = c.database := by
  cases hp : p.change? parameters c.beginChange with
  | some made =>
    obtain ⟨change, stop⟩ := made
    rw [run_of_change? hp] at hf ⊢
    exact database_applyChange_of_fault ha hu (Plan.conflict_of_change? hc hp) hf
  | none =>
    cases p with
    | insert p => cases hp
    | update p => cases hp
    | delete p => cases hp
    | query q => rfl
    | createTable t =>
      cases t with
      | none => rfl
      | some t => cases hf
    | dropTable table =>
      cases table with
      | none => rfl
      | some dropped =>
        simp only [run] at hf ⊢
        split
        · rfl
        · rename_i t ht
          rw [ht] at hf
          exact database_dropTable_of_fault ha hu hf
    | addColumn p => exact database_addColumn_of_fault hf
    | control command => exact database_control_of_isAutocommit ha command
    | journalMode word => exact database_journalMode c word
    | expire => rfl
    | idle => rfl

/-- **A statement that the engine gives up leaves the tables as they were**, outside of a
transaction and if the engine is able to undo it, unless it is to keep what it has changed up to a
conflict. -/
theorem database_of_fault (ha : c.isAutocommit = true) (hu : c.undoesTransactions = true)
    (parameters : List Value) {p : Plan} (hc : p.conflict ≠ .fail) {f : Fault}
    (hf : (c.perform parameters p).2.fault = some f) :
    (c.perform parameters p).1.database = c.database := by
  have hr := c.performed_perform parameters p
  generalize c.perform parameters p = performed at hr hf
  cases hr with
  | refused k writes count => rfl
  | ran k => exact database_run_of_fault (c := { c with companions := k }) ha hu hc hf

theorem database_run_of_rows {parameters : List Value} {p : Plan} (hr : p.returns = false)
    (hd : (c.run parameters p).2.rows ≠ []) :
    (c.run parameters p).1.database = c.database := by
  cases hp : p.change? parameters c.beginChange with
  | some made =>
    obtain ⟨change, stop⟩ := made
    rw [run_of_change? hp] at hd
    exact absurd (rows_applyChange (Plan.returned_of_change? hr rfl hp) stop) hd
  | none =>
    cases p with
    | insert p => cases hp
    | update p => cases hp
    | delete p => cases hp
    | query q => rfl
    | createTable t => cases t <;> exact absurd rfl hd
    | dropTable table =>
      cases table with
      | none => exact absurd rfl hd
      | some dropped =>
        simp only [run] at hd
        split at hd
        · exact absurd rfl hd
        · exact absurd (rows_dropTable c _ _) hd
    | addColumn p => exact absurd (rows_addColumn c p) hd
    | control command => exact absurd rfl hd
    | journalMode word => exact database_journalMode c word
    | expire => exact absurd rfl hd
    | idle => exact absurd rfl hd

/-- **A statement that delivers rows leaves the tables as they were**, unless it returns the rows
that it changes. -/
theorem database_of_rows (parameters : List Value) {p : Plan} (hr : p.returns = false)
    (hd : (c.perform parameters p).2.rows ≠ []) :
    (c.perform parameters p).1.database = c.database := by
  have hp := c.performed_perform parameters p
  generalize c.perform parameters p = performed at hp hd
  cases hp with
  | refused k writes count => exact absurd rfl hd
  | ran k => exact database_run_of_rows (c := { c with companions := k }) hr hd

end Connection

/-! ### Calls -/

namespace Execution

/-- Reading fails only on account of a row or of the fault that ended the rows. -/
def Reads {α : Type} (read : Execution → Except Failure α) : Prop :=
  ∀ e : Execution, e.output.rows = [] → e.output.fault = none → ∃ a, read e = .ok a

theorem reads_written : Reads written := by
  intro e hr hf
  rw [written, hr, ending, hf]
  exact ⟨(), rfl⟩

theorem reads_first {α : Type} (read : Execution → List Value → Except Failure α) :
    Reads fun e => e.first (read e) := by
  intro e hr hf
  refine ⟨none, ?_⟩
  dsimp only
  rw [first, hr, ending, hf]
  rfl

theorem reads_every {α : Type} (read : Execution → List Value → Except Failure α) :
    Reads fun e => e.every (read e) := by
  intro e hr hf
  refine ⟨[], ?_⟩
  dsimp only
  rw [every, hr, ending, hf]
  rfl

theorem reads_hasRow : Reads hasRow := by
  intro e hr hf
  obtain ⟨v, hv⟩ := reads_first (fun _ _ => Except.ok ()) e hr hf
  refine ⟨v.isSome, ?_⟩
  dsimp only at hv
  rw [hasRow, hv]
  rfl

end Execution

namespace Session

variable {s : Session}

/-- Whether the statement of a text returns the rows that it changes. -/
def returns (text : String) : Bool := (meaning? text).any fun m => m.statement.returns

/-- Whether the statement of a text keeps what it has changed up to a conflict. -/
def keepsPart (text : String) : Bool := (meaning? text).any fun m => m.statement.conflict == .fail

/-- The engine carries a call out and delivers rows. -/
def Delivers (s : Session) (sql : String) (params : Params) : Prop :=
  ∃ e, (s.call sql params).2 = .ok e ∧ e.output.fault = none ∧ e.output.rows ≠ []

theorem returns_of_comesOf {text : String} {p : Prepared} (hp : p.ComesOf text)
    (ht : returns text = false) : p.resolved.plan.returns = false := by
  obtain ⟨n, hn⟩ := hp.resolved
  rw [returns, hp.meaning] at ht
  exact Names.returns_of_resolve ht hn

theorem conflict_of_comesOf {text : String} {p : Prepared} (hp : p.ComesOf text)
    (ht : keepsPart text = false) : p.resolved.plan.conflict ≠ .fail := by
  obtain ⟨n, hn⟩ := hp.resolved
  rw [keepsPart, hp.meaning] at ht
  rw [Names.conflict_of_resolve hn]
  simpa using ht

/-- **A call whose delivery cannot be read leaves the tables as they were**, unless its statement
keeps what it has changed up to a conflict, or was carried out and returns what it has changed. -/
theorem Sound.database_call (h : s.Sound) (ha : s.connection.isAutocommit = true)
    (hu : s.connection.undoesTransactions = true) (sql : String) (params : Params) {α : Type}
    {read : Execution → Except Failure α} (hread : Execution.Reads read) {f : Failure}
    (hf : (s.call sql params).2.bind read = .error f) :
    (s.call sql params).1.connection.database = s.connection.database ∨
      keepsPart (Text.trimmed sql) = true ∨
      returns (Text.trimmed sql) = true ∧ s.Delivers sql params := by
  rcases h.call_cases sql params with ⟨on, g, hc, -⟩ | ⟨on, p, values, e, hp, he, hc, ho⟩
  · rw [hc]
    exact Or.inl rfl
  · have ha' : (s.connection.enforcing on).isAutocommit = true := ha
    have hu' : (s.connection.enforcing on).undoesTransactions = true := hu
    rw [hc]
    cases hk : keepsPart (Text.trimmed sql) with
    | true => exact Or.inr (Or.inl rfl)
    | false =>
      cases hfault : e.output.fault with
      | some g =>
        rw [ho] at hfault
        exact Or.inl (Connection.database_of_fault ha' hu' values (conflict_of_comesOf hp hk)
          hfault)
      | none =>
        -- The engine has carried the statement out, so there must be a row that cannot be read.
        have hrows : e.output.rows ≠ [] := by
          intro hr
          obtain ⟨a, hread⟩ := hread e hr hfault
          rw [he] at hf
          change read e = .error f at hf
          rw [hread] at hf
          cases hf
        cases ht : returns (Text.trimmed sql) with
        | true => exact Or.inr (Or.inr ⟨rfl, e, he, hfault, hrows⟩)
        | false =>
          rw [ho] at hrows
          exact Or.inl (Connection.database_of_rows values (returns_of_comesOf hp ht) hrows)

end Session

end NamedSql.Sql
