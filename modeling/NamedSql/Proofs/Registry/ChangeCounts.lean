import NamedSql.Proofs.Registry.Causes
import NamedSql.Proofs.Registry.Grounded
import NamedSql.Proofs.Sql.Reporting

/-!
# Counts of changed rows

What a query reports that is run for its effect, as the number of rows that it has changed. If its
statement inserts, changes or deletes rows, that is how many edits the statement has asked for, and
nothing that was done with the registry before plays a part in it. The engine does not count for any
other statement, and the number that it holds is still that of the last statement for which it has
counted; so that is what such a query reports.

## Main definitions

* `QueryOutput.count?` — the number of changed rows that a call returns, if it returns one
* `Registry.Reports` — a call of a query, in general or by an accessor, reports a number

## Main results

* `Registry.changes_counted` — what a query reports
* `Registry.stale_changes` — a query that changes nothing reports a row that another one has changed
-/

namespace NamedSql

/-- The number of changed rows that a call returns, if it returns one. -/
def QueryOutput.count? : QueryOutput → Option Nat
  | .run r => some r.changes
  | .changes n => some n
  | _ => none

namespace Registry

variable {l : Logged Registry} {q : Query} {params : Params} {n : Nat}

/-- A call of a query reports a number of changed rows, if it is called in general or by the
accessor of its shape. -/
def Reports (l : Logged Registry) (name : String) (params : Params) (n : Nat) : Prop :=
  ∃ out, out.count? = some n ∧ (((call name params).run.run l).1 = .ok out ∨
    ∃ a, ((access a name params).run.run l).1 = .ok out)

theorem written_of_perform {out : QueryOutput} (hn : out.count? = some n)
    (h : ((perform q params).run.run l).1 = .ok out) :
    ∃ w, written q params l.state.session = .ok w ∧ w.changes = n := by
  have hw : ∀ {f : RunResult → QueryOutput}, (∀ w, ∀ m ∈ (f w).count?, w.changes = m) →
      ((f <$> write q params).run.run l).1 = .ok out →
      ∃ w, written q params l.state.session = .ok w ∧ w.changes = n := by
    intro f hf h
    obtain ⟨w, hw, rfl⟩ := exists_of_map h
    rw [run_write] at hw
    exact ⟨w, hw, hf w n hn⟩
  have hnone : ∀ {α : Type} {f : α → QueryOutput} {x : Op Registry α},
      (∀ a, (f a).count? = none) → ((f <$> x).run.run l).1 ≠ .ok out := by
    intro α f x hf h
    obtain ⟨a, -, rfl⟩ := exists_of_map h
    rw [hf] at hn
    cases hn
  rw [perform] at h
  split at h
  · exact hw (f := .run) (fun _ _ => Option.some.inj) h
  · exact hw (f := fun w => .changes w.changes) (fun _ _ => Option.some.inj) h
  -- Queries of other shapes return no number of changed rows.
  all_goals exact absurd h (hnone fun _ => rfl)

theorem written_of_reports {name : String} (hq : l.state.query? name = some q)
    (h : Reports l name params n) :
    ∃ w, written q params l.state.session = .ok w ∧ w.changes = n := by
  obtain ⟨out, hn, h⟩ := h
  exact written_of_perform hn (perform_of_returned hq h)

/-- What is run for its effect has delivered no fault, and reports what its connection tells. -/
theorem exists_of_written {w : RunResult} (h : written q params l.state.session = .ok w) :
    ∃ e, (l.state.session.call q.sql params).2 = .ok e ∧ e.output.fault = none ∧
      w.changes = (l.state.session.call q.sql params).1.connection.changes ∧
      w.lastRowid = (l.state.session.call q.sql params).1.connection.lastRowid := by
  obtain ⟨⟨⟩, hw, rfl⟩ := exists_of_map_eq_ok h
  obtain ⟨e, he, hw⟩ := exists_of_bind_eq_ok (eq_ok_of_mapError hw)
  refine ⟨e, he, ?_, rfl, rfl⟩
  rw [Sql.Execution.written] at hw
  split at hw
  · rw [Sql.Execution.ending] at hw
    split at hw
    · cases hw
    · assumption
  · cases hw

/-- **What a query reports that is run for its effect.** If its statement changes rows, that is how
many edits the statement has asked for, and the number that the statement, as it is resolved now,
comes to in the database; what was done before plays no part. If its statement changes no rows, it
is the number that the engine has held before the call, unless a table is dropped. -/
theorem changes_counted (hr : Grounded l.state) {name : String}
    (hq : l.state.query? name = some q) (h : Reports l name params n) :
    let s := l.state.session
    let after := (l.invoked ⟨q, params⟩).state.session.connection.database
    ∃ m r values, s.Performs (Text.trimmed q.sql) params m r values ∧
      (m.statement.changesRows = true →
        (∃ es, r.plan.Edits values s.connection.database es after ∧ n = Sql.Edit.direct es) ∧
        n = r.plan.count values s.connection.database) ∧
      (m.statement.changesRows = false → s.connection.Leaves r.plan n) := by
  obtain ⟨w, hw, rfl⟩ := written_of_reports hq h
  obtain ⟨e, he, hf, hn, -⟩ := exists_of_written hw
  rw [hn]
  exact hr.upholds.changes_of_call hr.reachable.distinct he hf

/-! ### Statements that are not counted -/

/-- A table with three rows. -/
def threeRows : String := "create table t (a unique); insert into t values (1), (2), (3)"

/-- A query that inserts two rows, one that leaves out a row which is there already, and one that
makes a table unless it is there. -/
def tallies : String :=
  "-- :name more :changes\ninsert into t values (4), (5)\n
-- :name again :run\ninsert or ignore into t values (1)\n
-- :name make :changes\ncreate table if not exists t (a)\n"

/-- The registry of these queries. -/
def tallied : Logged Registry := memoryWith threeRows tallies

/-- The same registry once a row has been left out. -/
def talliedAgain : Logged Registry := ((call "again" .none).run.run tallied).2

/-- The query that inserts two rows. -/
def moreRows : Query := ⟨"more", "insert into t values (4), (5)\n", 1, .changes⟩

/-- The query that makes a table unless it is there. -/
def makeTable : Query := ⟨"make", "create table if not exists t (a)\n", 7, .changes⟩

/-- Two rows are inserted. What makes no table reports the three rows that were inserted before, and
none once another query has left a row out. -/
theorem run_tallied :
    tallied.state.query? "more" = some moreRows ∧
      (Sql.meaning? (Text.trimmed moreRows.sql)).any (·.statement.changesRows) = true ∧
      ((call "more" .none).run.run tallied).1 = .ok (.changes 2) ∧
      tallied.state.query? "make" = some makeTable ∧
      (Sql.meaning? (Text.trimmed makeTable.sql)).any (!·.statement.changesRows) = true ∧
      ((call "make" .none).run.run tallied).1 = .ok (.changes 3) ∧
      talliedAgain.state.query? "make" = some makeTable ∧
      talliedAgain.state.session.connection.database.tables.map Sql.Table.rows =
        tallied.state.session.connection.database.tables.map Sql.Table.rows ∧
      ((call "make" .none).run.run talliedAgain).1 = .ok (.changes 0) := by
  decide +kernel

theorem grounded_tallied : Grounded tallied.state :=
  grounded_memoryWith tallies (isOk_of_query? run_tallied.1)

/-- The query that inserts two rows reports two, although three had been inserted before: the
insertion has asked for two edits. -/
theorem changes_counted_tallied :
    ∃ m r values, tallied.state.session.Performs (Text.trimmed moreRows.sql) .none m r values ∧
      m.statement.changesRows = true ∧
      ∃ es, r.plan.Edits values tallied.state.session.connection.database es
        (tallied.invoked ⟨moreRows, .none⟩).state.session.connection.database ∧
        Sql.Edit.direct es = 2 := by
  obtain ⟨hq, hm, hcall, -⟩ := run_tallied
  have hr := grounded_tallied
  generalize tallied = l at hq hcall hr ⊢
  have hreports : Reports l "more" .none 2 := ⟨_, rfl, Or.inl hcall⟩
  obtain ⟨m, r, values, hp, hcounted, -⟩ := changes_counted hr hq hreports
  rw [hp.meaning] at hm
  obtain ⟨⟨es, hes, hn⟩, -⟩ := hcounted hm
  exact ⟨m, r, values, hp, hm, es, hes, hn.symm⟩

/-- **A query that changes nothing reports what another one has changed.** What makes a table unless
it is there, as it is, reports three rows, which were inserted before; and it reports none on the
same rows once a query in between has left a row out. -/
theorem stale_changes :
    Reachable tallied.state ∧ tallied.state.query? "make" = some makeTable ∧
      (Sql.meaning? (Text.trimmed makeTable.sql)).any (!·.statement.changesRows) = true ∧
      ((call "make" .none).run.run tallied).1 = .ok (.changes 3) ∧
      Reachable talliedAgain.state ∧ talliedAgain.state.query? "make" = some makeTable ∧
      talliedAgain.state.session.connection.database.tables.map Sql.Table.rows =
        tallied.state.session.connection.database.tables.map Sql.Table.rows ∧
      ((call "make" .none).run.run talliedAgain).1 = .ok (.changes 0) := by
  obtain ⟨-, -, -, hq, hm, hstale, hq', hrows, hzero⟩ := run_tallied
  have hr := grounded_tallied.reachable
  have hr' := hr.move (move_call "again" .none tallied)
  rw [← talliedAgain] at hr'
  exact ⟨hr, hq, hm, hstale, hr', hq', hrows, hzero⟩

end Registry

end NamedSql
