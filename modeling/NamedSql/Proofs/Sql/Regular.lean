import NamedSql.Proofs.Sql.Columns
import NamedSql.Proofs.Sql.Laws

/-!
# Regular executions

What a statement delivers is regular if it announces the columns that its rows have, and every row
has a value for each of them and at least one. A statement delivers nothing else if it is not out of
date, on a connection on which every table is well formed. And every table stays well formed,
whatever is done with the connection, a rollback included, which brings back tables that were well
formed before.

## Main definitions

* `Connection.WellFormed` — every table is well formed, of the database and of what a transaction
  can be brought back to
* `Execution.IsRegular` — what is delivered has rows with a value for each announced column
* `Session.Announces` — the statement of a text has some columns

## Main results

* `wellFormedLaw` — whatever is done with a connection, every table stays well formed
* `Session.Upholds.regular_of_call` — what is not out of date is regular
-/

namespace NamedSql.Sql

/-! ### Connections to well-formed tables -/

namespace Connection

variable {c c' : Connection}

/-- Every table is well formed, of the database and of what a transaction can be brought back to. -/
structure WellFormed (c : Connection) : Prop where
  database : c.database.WellFormed
  before : ∀ t, c.transaction = some t → t.before.WellFormed
  savepoints : ∀ t, c.transaction = some t → ∀ s ∈ t.savepoints, s.database.WellFormed

theorem WellFormed.of_transaction (h : c.WellFormed) (hd : c'.database.WellFormed)
    (ht : ∀ t', c'.transaction = some t' → ∃ t, c.transaction = some t ∧ t'.before = t.before ∧
      t'.savepoints ⊆ t.savepoints) : c'.WellFormed := by
  refine ⟨hd, fun t' ht' => ?_, fun t' ht' s hs => ?_⟩
  · obtain ⟨t, heq, hb, -⟩ := ht t' ht'
    exact hb ▸ h.before t heq
  · obtain ⟨t, heq, -, hsub⟩ := ht t' ht'
    exact h.savepoints t heq s (hsub hs)

theorem WellFormed.of_transaction_eq_none (hd : c.database.WellFormed)
    (ht : c.transaction = none) : c.WellFormed := by
  refine ⟨hd, fun t h => ?_, fun t h => ?_⟩
  all_goals
    rw [ht] at h
    cases h

theorem Keeps.wellFormed (hk : c.Keeps c') (h : c.WellFormed) (hd : c'.database.WellFormed) :
    c'.WellFormed := by
  refine h.of_transaction hd fun t' ht' => ?_
  obtain ⟨t, ht, hb, hs, -⟩ := hk.transaction t' ht'
  exact ⟨t, ht, hb, hs⟩

theorem WellFormed.define (h : c.WellFormed) {d : Database} (hd : d.WellFormed) :
    (c.define d).WellFormed := by
  refine h.of_transaction hd fun t' ht' => ?_
  obtain ⟨u, hu, rfl⟩ := Option.map_eq_some_iff.mp ht'
  obtain ⟨t, ht, rfl⟩ := Option.map_eq_some_iff.mp hu
  exact ⟨t, ht, rfl, fun _ => id⟩

theorem wellFormed_iff : c.WellFormed ↔ c.Throughout Database.WellFormed :=
  ⟨fun h => ⟨h.database, fun t ht => ⟨h.before t ht, h.savepoints t ht⟩⟩,
    fun h => ⟨h.database, fun t ht => (h.before t ht).1, fun t ht => (h.before t ht).2⟩⟩

theorem WellFormed.rollBack (h : c.WellFormed) : c.rollBack.WellFormed :=
  wellFormed_iff.mpr (wellFormed_iff.mp h).rollBack

/-- What a transaction can be brought back to was the database at some time. -/
theorem WellFormed.control (h : c.WellFormed) (command : Control) :
    (c.control command).1.WellFormed :=
  wellFormed_iff.mpr ((wellFormed_iff.mp h).control command)

/-! ### Statements -/

theorem wellFormed_undo {d : Database} (hd : d.WellFormed) (h : c.database.WellFormed) :
    (c.undo d).database.WellFormed := by
  unfold undo
  repeat' split
  all_goals assumption

theorem wellFormed_of_keep {d : Database} {deferred : Int} {f : Option Fault} (hd : d.WellFormed)
    (h : c.database.WellFormed) (he : c.keep d deferred = (c', f)) : c'.database.WellFormed := by
  rw [keep] at he
  split at he
  · cases he
    exact hd
  · split at he
    · cases he
      exact h
    · cases he
      exact hd

theorem WellFormed.applyChange (h : c.WellFormed) {change : Change}
    (hdef : change.database.definitions = c.database.definitions)
    (hd : change.database.WellFormed) (stop : Option Stop) :
    (c.applyChange change stop).1.WellFormed := by
  have hk := c.keeps_changing change
  have hdef' := hdef.trans hk.definitions.symm
  have hb : (c.changing change).database.WellFormed := by
    rw [changing]
    split <;> exact h.database
  have he := c.ending_applyChange change stop
  generalize c.applyChange change stop = ended at he
  cases he with
  | @kept e o keep output =>
    have he := wellFormed_of_keep hd hb keep
    exact ((hk.trans (keeps_of_keep hdef' keep)).trans (keeps_changes e change.count)).wellFormed h
      he
  | undone fault rows => exact (hk.trans (keeps_undo hdef')).wellFormed h (wellFormed_undo hd hb)
  | rolledBack f open_ =>
    refine WellFormed.rollBack (Keeps.wellFormed (hk.trans ?_) h hd)
    exact .of_transaction rfl rfl hdef' rfl

theorem wellFormed_emptied (h : c.database.WellFormed) {t : Table} (ht : t.WellFormed)
    (keys : KeyChecks) : (c.emptied t keys).1.WellFormed := by
  have hrows : ∀ (rows : List Row) (p : Database × Missing), p.1.WellFormed →
      (rows.foldl (fun p r =>
        let t := (p.1.find? t.name).getD t
        (p.1.put (t.erase r.rowid), p.2.dropping keys p.1 t r)) p).1.WellFormed := by
    intro rows
    induction rows with
    | nil => exact fun p => id
    | cons r rest ih =>
      intro p hp
      refine ih _ (hp.put (Table.WellFormed.erase ?_ r.rowid))
      cases hf : p.1.find? t.name with
      | none => exact ht
      | some u => exact hp.find? hf
  exact hrows t.rows (c.database, ⟨0, c.deferred⟩) h

theorem WellFormed.dropTable (h : c.WellFormed) {t : Table} {name : String}
    (ht : c.database.find? name = some t) (keys : KeyChecks) :
    (c.dropTable t keys).1.WellFormed := by
  have hdef := c.definitions_emptied ht keys
  have hd := wellFormed_emptied h.database (h.database.find? ht) keys
  have hz := c.keeps_changes 0
  have hdrop := c.dropped_dropTable t keys
  generalize c.dropTable t keys = dropped at hdrop
  cases hdrop with
  | refused f => exact (hz.trans (keeps_undo hdef)).wellFormed h (wellFormed_undo hd h.database)
  | emptied keep =>
    have hkept := (hz.trans (keeps_of_keep hdef keep)).wellFormed h
      (wellFormed_of_keep (c := { c with changes := 0 }) hd h.database keep)
    have hdefined := hkept.define (hd.erase t.name)
    exact (keeps_changes _ _).wellFormed hdefined hdefined.database
  | erased same =>
    rcases same with rfl | rfl
    · exact h.define (h.database.erase t.name)
    · exact (hz.wellFormed h h.database).define (h.database.erase t.name)

/-- The rows that get a value more keep their rowids. -/
theorem WellFormed.addColumn (h : c.WellFormed) {p : ColumnPlan} (hp : p.definition.WellFormed) :
    (c.addColumn p).1.WellFormed := by
  have hrows : ((c.database.find? p.definition.name).getD p.definition).rows.Pairwise
      fun r s => r.rowid < s.rowid := by
    cases hf : c.database.find? p.definition.name with
    | none => exact hp.ascending
    | some t => exact (h.database.find? hf).ascending
  unfold Connection.addColumn
  dsimp only
  split
  · exact h
  · exact h.define (h.database.put ⟨hp.columns, List.pairwise_map.mpr hrows⟩)

theorem WellFormed.run (h : c.WellFormed) {r : Resolved} (hr : r.Wide)
    (hf : r.plan.Fits c.database) (values : List Value) : (c.run values r.plan).1.WellFormed := by
  obtain ⟨plan, columns⟩ := r
  have hc : ∀ change stop, plan.change? values c.beginChange = some (change, stop) →
      (c.applyChange change stop).1.WellFormed := fun change stop hp =>
    h.applyChange (Plan.definitions_of_change? (c := c.beginChange) hf hp)
      (Plan.wellFormed_of_change? (c := c.beginChange) hf h.database hp) stop
  cases plan with
  | query q => exact h
  | insert p => exact hc _ _ rfl
  | update p => exact hc _ _ rfl
  | delete p => exact hc _ _ rfl
  | createTable t =>
    cases t with
    | none => exact h
    | some t => exact h.define (h.database.put hr)
  | dropTable table =>
    cases table with
    | none => exact h
    | some dropped =>
      rw [Connection.run]
      split
      · exact h
      · exact h.dropTable ‹_› _
  | addColumn p => exact h.addColumn hr
  | control command => exact h.control command
  | journalMode word =>
    refine (c.keeps_journalMode word).wellFormed h ?_
    rw [database_journalMode]
    exact h.database
  | expire => exact ⟨h.database, h.before, h.savepoints⟩
  | idle => exact h

theorem WellFormed.perform (h : c.WellFormed) {r : Resolved} (hr : r.Wide)
    (hf : r.plan.Fits c.database) (values : List Value) :
    (c.perform values r.plan).1.WellFormed := by
  have hp := c.performed_perform values r.plan
  generalize c.perform values r.plan = performed at hp
  cases hp with
  | refused k writes count => exact ⟨h.database, h.before, h.savepoints⟩
  | ran k =>
    have hk : ({ c with companions := k } : Connection).WellFormed :=
      ⟨h.database, h.before, h.savepoints⟩
    exact hk.run hr hf values

end Connection

/-- **Whatever is done with a connection, every table stays well formed**, and every statement that
is prepared has a name for each value that it returns. -/
theorem wellFormedLaw : Law Connection.WellFormed Resolved.Wide where
  setting _ h := ⟨h.database, h.before, h.savepoints⟩
  function f h := by
    rw [Connection.addFunction]
    split
    · exact ⟨h.database, h.before, h.savepoints⟩
    · exact ⟨h.database, h.before, h.savepoints⟩
  control command h := h.control command
  perform values h hr hf := h.perform hr hf values
  resolve h hm hr := Names.wide_of_resolve h.database (namesColumns_of_meaning hm) hr

/-! ### Calls -/

/-- What is delivered has rows with a value for each column that was announced, and at least one. -/
structure Execution.IsRegular (e : Execution) : Prop where
  announced : e.announced = e.columns
  width : ∀ row ∈ e.output.rows, row.length = e.columns.length
  ne_nil : ∀ row ∈ e.output.rows, row ≠ []

namespace Session

variable {s : Session} {sql : String} {params : Params} {e : Execution}

/-- The statement of a text has these columns, as it is found. -/
def Announces (s : Session) (text : String) (columns : List String) : Prop :=
  ∃ t p, s.find text = (t, .ok p) ∧ p.resolved.columns = columns

/-- What is prepared under a text, if anything is, is not out of date. -/
def IsCurrent (s : Session) (text : String) : Prop :=
  ∀ p, s.prepared.lookup text = some p → p.isCurrent s.connection.age = true

theorem regular_of_deliver {c : Connection} {m : Statement.Parsed} {r : Resolved} (hr : r.Wide)
    (h : c.deliver m r.columns r params = .ok e) : e.IsRegular := by
  obtain ⟨values, -, rfl⟩ := exists_of_map_eq_ok h
  have hrows := c.rows_perform hr values
  exact ⟨rfl, fun row hm => (hrows row hm).1, fun row hm => (hrows row hm).2⟩

/-- **What a call delivers is regular** if its statement is not out of date. -/
theorem Upholds.regular_of_call (h : s.Upholds Connection.WellFormed Resolved.Wide)
    (hc : s.IsCurrent (Text.trimmed sql)) (he : (s.call sql params).2 = .ok e) : e.IsRegular := by
  cases hl : s.prepared.lookup (Text.trimmed sql) with
  | some p =>
    rw [call_of_isCurrent hl (hc p hl)] at he
    exact regular_of_deliver (h.prepared _ (mem_of_lookup hl)) he
  | none =>
    rw [call_of_lookup_eq_none hl] at he
    cases hread : Statement.read (Text.trimmed sql).toList with
    | error f =>
      rw [Connection.answer, hread] at he
      cases he
    | ok reading =>
      have hm : meaning? (Text.trimmed sql) =
          some (reading.parsed.getD ⟨.pragma "" none, []⟩) := by
        rw [meaning?, hread]
      rw [Connection.answer_of_meaning hm] at he
      generalize reading.parsed.getD ⟨.pragma "" none, []⟩ = m at hm he
      cases hr : s.connection.names.resolve m.statement with
      | error f =>
        rw [Connection.answerTo, hr] at he
        cases he
      | ok r =>
        rw [Connection.answerTo_of_resolve hr] at he
        exact regular_of_deliver (wellFormedLaw.resolve h.connection hm hr) he

/-- What a call announces are the columns of its statement as it is found. -/
theorem announces_of_call (he : (s.call sql params).2 = .ok e) :
    s.Announces (Text.trimmed sql) e.announced := by
  have hc := s.called_call sql params
  generalize s.call sql params = called at hc he
  cases hc with
  | unfound found => cases he
  | unbound found bound => cases he
  | outdated found bound renewed =>
    cases he
    exact ⟨_, _, found, rfl⟩
  | performed found bound renewed =>
    cases he
    exact ⟨_, _, found, rfl⟩

end Session

end NamedSql.Sql
