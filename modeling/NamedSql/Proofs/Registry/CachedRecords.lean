import NamedSql.Proofs.Registry.FailedCalls
import NamedSql.Proofs.Registry.FunctionNames
import NamedSql.Proofs.Sql.Afresh

/-!
# Records of prepared statements

The records that a query returns are those of its statement as it is now, with the columns in order
and each with its value, although the statement has been prepared before. That is so as long as the
statement has the columns that it had when it was prepared the last time. After its table was
altered, the first call returns records with the old columns, over rows that have the new ones.

## Scope

The law is about records, so about queries for a row or for all rows that name no column. What they
do to the tables is not compared; a query may be any statement.

## Main definitions

* `QueryOutput.records` — the records that a call returns
* `Logged.afresh` — the registry if it had not prepared any statement
* `Registry.Shows` — a record is a row of a statement under the names of some columns

## Main results

* `Registry.Reachable.dated` — statements of reachable registries were prepared on their connection
* `Registry.cached_records` — the records of a statement that has been prepared before
* `Registry.widened_rows_lack_column` — the records of a statement that is out of date lack a new
  column
-/

namespace NamedSql

namespace Sql.Execution

variable {α : Type} {e : Execution} {read : List Value → Except Failure α}

/-- What is read of the first row is read of one of the rows. -/
theorem mem_of_first {a : α} (h : e.first read = .ok (some a)) :
    ∃ row ∈ e.output.rows, read row = .ok a := by
  rw [first] at h
  split at h
  · rename_i row rest hrows
    obtain ⟨b, hr, hb⟩ := exists_of_map_eq_ok h
    cases hb
    exact ⟨row, hrows ▸ List.mem_cons_self, hr⟩
  · obtain ⟨u, -, hn⟩ := exists_of_bind_eq_ok h
    cases hn

theorem mem_of_mapM {rows : List (List Value)} {as : List α} (h : rows.mapM read = .ok as) :
    ∀ a ∈ as, ∃ row ∈ rows, read row = .ok a := by
  induction rows generalizing as with
  | nil =>
    cases h
    nofun
  | cons row rest ih =>
    rw [List.mapM_cons] at h
    obtain ⟨b, hb, h⟩ := exists_of_bind_eq_ok h
    obtain ⟨bs, hbs, h⟩ := exists_of_bind_eq_ok h
    cases h
    intro a ha
    rcases List.mem_cons.mp ha with rfl | ha
    · exact ⟨row, List.mem_cons_self, hb⟩
    · obtain ⟨row', hmem, hread⟩ := ih hbs a ha
      exact ⟨row', List.mem_cons_of_mem row hmem, hread⟩

/-- What is read of every row is read of one of the rows each. -/
theorem mem_of_every {as : List α} (h : e.every read = .ok as) :
    ∀ a ∈ as, ∃ row ∈ e.output.rows, read row = .ok a := by
  obtain ⟨bs, hbs, h⟩ := exists_of_bind_eq_ok h
  obtain ⟨u, -, h⟩ := exists_of_bind_eq_ok h
  cases h
  exact mem_of_mapM hbs

end Sql.Execution

namespace QueryOutput

/-- The records that a call returns. -/
def records : QueryOutput → List Record
  | .row r => r.toList
  | .rows rs => rs
  | _ => []

end QueryOutput

/-- The registry with its log, if it had not prepared any statement, under a setting. -/
def Logged.afresh (l : Logged Registry) (on : Bool) : Logged Registry :=
  { l with state := { l.state with session := l.state.session.afresh on } }

namespace Registry

variable {l : Logged Registry} {q : Query} {params : Params}

/-- The statements of a reachable registry were prepared on its connection. -/
theorem Reachable.dated {r : Registry} (h : Reachable r) : r.session.Dated :=
  h.preserves_session (fun sql hs => hs.runBatch sql) Sql.Session.Readies.dated
    (fun f hs => hs.addFunction f) (fun sql params hs => hs.call sql params)
    (fun command hs => hs.control command) fun hc => Sql.Session.dated_new hc leastCapacity

/-! ### Records -/

/-- A record is a row that the statement of a query returns, under the names of some columns. -/
def Shows (c : Sql.Connection) (q : Query) (params : Params)
    (columns : Sql.Resolved → List String) (r : Record) : Prop :=
  ∃ resolved row, c.Returns (Text.trimmed q.sql) params resolved row ∧
    r.columns = columns resolved ∧ r.entries = (columns resolved).zip row

theorem shows_of_record {c : Sql.Connection} {columns : Sql.Resolved → List String}
    {resolved : Sql.Resolved} {e : Sql.Execution} {row : List Value} {r : Record}
    (ha : e.announced = columns resolved)
    (hrow : c.Returns (Text.trimmed q.sql) params resolved row) (h : e.record row = .ok r) :
    Shows c q params columns r := by
  rw [Sql.Execution.record] at h
  split at h
  · cases h
    rename_i hlength
    refine ⟨resolved, row, hrow, ?_, ?_⟩
    · rw [Record.columns, List.map_fst_zip hlength, ha]
    · rw [ha]
  · cases h

theorem exists_of_map {α β : Type} {f : α → β} {x : Op Registry α} {b : β}
    (h : ((f <$> x).run.run l).1 = .ok b) : ∃ a, (x.run.run l).1 = .ok a ∧ b = f a := by
  rw [Op.run_map] at h
  exact exists_of_map_eq_ok h

theorem exists_of_invoke {α : Type} {read : Sql.Execution → Except Sql.Failure α} {a : α}
    (h : ((invoke q params read).run.run l).1 = .ok a) :
    ∃ e, (l.state.session.call q.sql params).2 = .ok e ∧ read e = .ok a := by
  rw [run_invoke] at h
  exact exists_of_bind_eq_ok (eq_ok_of_mapError h)

/-- A record that a call returns has been read of a row that its statement has delivered. -/
theorem exists_row_of_perform {out : QueryOutput} {r : Record}
    (h : ((perform q params).run.run l).1 = .ok out) (hr : r ∈ out.records) :
    ∃ e, (l.state.session.call q.sql params).2 = .ok e ∧
      ∃ row ∈ e.output.rows, e.record row = .ok r := by
  rw [perform] at h
  split at h
  case h_5 =>
    obtain ⟨found, hf, rfl⟩ := exists_of_map h
    obtain ⟨e, he, hread⟩ := exists_of_invoke hf
    cases Option.mem_toList.mp hr
    exact ⟨e, he, Sql.Execution.mem_of_first hread⟩
  case h_7 =>
    obtain ⟨rs, hrs, rfl⟩ := exists_of_map h
    obtain ⟨e, he, hread⟩ := exists_of_invoke hrs
    exact ⟨e, he, Sql.Execution.mem_of_every hread r hr⟩
  -- What has another shape returns no record.
  all_goals
    obtain ⟨a, -, rfl⟩ := exists_of_map h
    exact absurd hr List.not_mem_nil

theorem exists_row_of_call {name : String} (hq : l.state.query? name = some q)
    {out : QueryOutput} {r : Record} (h : ((call name params).run.run l).1 = .ok out)
    (hr : r ∈ out.records) :
    ∃ e, (l.state.session.call q.sql params).2 = .ok e ∧
      ∃ row ∈ e.output.rows, e.record row = .ok r := by
  rw [run_call_of_query? hq] at h
  exact exists_row_of_perform h hr

/-! ### Calls -/

variable {m : Logged Registry}

theorem fst_invoke_of_call {α : Type}
    (h : (l.state.session.call q.sql params).2 = (m.state.session.call q.sql params).2)
    (read : Sql.Execution → Except Sql.Failure α) :
    ((invoke q params read).run.run l).1 = ((invoke q params read).run.run m).1 := by
  rw [run_invoke, run_invoke, Engine.call_session, Engine.call_session, h]

theorem fst_perform_of_call (hs : q.shape = .get none ∨ q.shape = .all none)
    (h : (l.state.session.call q.sql params).2 = (m.state.session.call q.sql params).2) :
    ((perform q params).run.run l).1 = ((perform q params).run.run m).1 := by
  rcases hs with hs | hs
  · simp only [perform, hs, firstRow, Op.run_map]
    rw [fst_invoke_of_call h]
  · simp only [perform, hs, everyRow, Op.run_map]
    rw [fst_invoke_of_call h]

theorem map_injective {α β : Type} {f : α → β} (hf : Function.Injective f)
    {x y : Except Error α} (h : x.map f = y.map f) : x = y := by
  cases y with
  | error e => exact map_eq_error_iff.mp h
  | ok a => exact (map_eq_ok_iff hf).mp h

/-- Two registries with the same queries answer accessors alike if they answer general calls
alike. -/
theorem fst_ask_of_call {name : String} (hl : l.state.query? name = some q)
    (hm : m.state.query? name = some q)
    (h : ∀ params, ((call name params).run.run l).1 = ((call name params).run.run m).1)
    (a : Accessor) (x : a.Argument) :
    ((ask name a x).run.run l).1 = ((ask name a x).run.run m).1 := by
  by_cases ha : a = .ofShape q.shape
  · subst ha
    have hc := h ((Accessor.ofShape q.shape).params x)
    rw [run_call hl, run_call hm] at hc
    exact map_injective (Accessor.output_injective _) hc
  · rw [run_ask_of_ne hl ha, run_ask_of_ne hm ha]

/-- **The records of a statement that has been prepared before are those of the statement prepared
afresh**, in every reachable registry, if the statement has the columns that it had when it was
prepared: calls in general and by every accessor return the same, and each record has the columns
that the statement has now, in order, with the values of one of its rows. A statement that is out of
date returns its rows as they are now in any case, but under the columns that it had. -/
theorem cached_records (hr : Reachable l.state) (hv : l.state.session.connection.HidesNone)
    {name : String} (hq : l.state.query? name = some q)
    (hs : q.shape = .get none ∨ q.shape = .all none) :
    let s := l.state.session
    let text := Text.trimmed q.sql
    (s.KeepsColumns text → ∃ on,
      (Sql.Session.isSelect text = true → on = s.connection.foreignKeys) ∧
      (∀ params, ((call name params).run.run l).1 =
        ((call name params).run.run (l.afresh on)).1) ∧
      (∀ a x, ((ask name a x).run.run l).1 = ((ask name a x).run.run (l.afresh on)).1) ∧
      ∀ params out, ((call name params).run.run l).1 = .ok out → ∀ r ∈ out.records,
        Shows (s.connection.enforcing on) q params Sql.Resolved.columns r) ∧
    ∀ p, s.prepared.lookup text = some p → p.isCurrent s.connection.age = false →
      ∀ params out, ((call name params).run.run l).1 = .ok out → ∀ r ∈ out.records,
        Shows s.connection q params (fun _ => p.resolved.columns) r := by
  refine ⟨fun hk => ?_, fun p hl hc params out hout r hmem => ?_⟩
  · obtain ⟨on, hon, he⟩ := Sql.Session.exists_setting hr.dated hr.sound hr.distinct hv hk
    have hcall : ∀ params, ((call name params).run.run l).1 =
        ((call name params).run.run (l.afresh on)).1 := by
      intro params
      rw [run_call_of_query? hq, run_call_of_query? (l := l.afresh on) hq]
      exact fst_perform_of_call hs (he params)
    refine ⟨on, hon, hcall, fst_ask_of_call hq hq hcall, fun params out hout r hmem => ?_⟩
    obtain ⟨e, hcalled, row, hrow, hrecord⟩ := exists_row_of_call hq hout hmem
    rw [he, Sql.Session.call_afresh] at hcalled
    obtain ⟨resolved, ha, hrows⟩ := Sql.Connection.returns_of_answer hcalled
    exact shows_of_record ha (hrows row hrow) hrecord
  · obtain ⟨e, hcalled, row, hrow, hrecord⟩ := exists_row_of_call hq hout hmem
    obtain ⟨ha, resolved, hreturns⟩ :=
      hr.sound.returns_of_not_isCurrent hl hc hcalled row hrow
    exact shows_of_record ha hreturns hrecord

/-! ### A table that gets a column -/

/-- A query for the rows of a table, and one that adds a column to the table. -/
def widening : String :=
  "-- :name rows :all\nselect * from t\n
-- :name widen :run\nalter table t add column b\n"

/-- The query for the rows. -/
def wholeRows : Query := ⟨"rows", "select * from t\n", 1, .all none⟩

/-- A table with a row. -/
def oneRow : String := "create table t (a); insert into t values (1)"

/-- The registry of these queries once the column has been added. -/
def widened : Logged Registry :=
  ((call "widen" .none).run.run (memoryWith oneRow widening)).2

/-- The same registry once the rows have been asked for. -/
def askedOnce : Logged Registry := ((call "rows" .none).run.run widened).2

/-- The first record lacks the new column, and the next one has it. -/
theorem run_widened :
    (memoryWith oneRow widening).state.query? "rows" = some wholeRows ∧
      widened.state.query? "rows" = some wholeRows ∧
      widened.state.session.connection.functions.isEmpty = true ∧
      ((widened.state.session.prepared.lookup (Text.trimmed wholeRows.sql)).any fun p =>
        !p.isCurrent widened.state.session.connection.age && p.resolved.columns == ["a"]) = true ∧
      ((call "rows" .none).run.run widened).1 = .ok (.rows [⟨[("a", .integer 1)]⟩]) ∧
      ((call "rows" .none).run.run (widened.afresh true)).1 =
        .ok (.rows [⟨[("a", .integer 1), ("b", .null)]⟩]) ∧
      askedOnce.state.query? "rows" = some wholeRows ∧
      askedOnce.state.session.connection.functions.isEmpty = true ∧
      askedOnce.state.session.connection.foreignKeys = true ∧
      Sql.Session.isSelect (Text.trimmed wholeRows.sql) = true ∧
      ((askedOnce.state.session.prepared.lookup (Text.trimmed wholeRows.sql)).all fun p =>
        p.age == askedOnce.state.session.connection.age) = true ∧
      ((call "rows" .none).run.run askedOnce).1 =
        .ok (.rows [⟨[("a", .integer 1), ("b", .null)]⟩]) := by
  decide +kernel

theorem reachable_widened : Reachable widened.state := by
  obtain ⟨hq, -⟩ := run_widened
  have hr := (reachable_memoryWith widening (isOk_of_query? hq)).move
    (move_call "widen" .none (memoryWith oneRow widening))
  rwa [← widened] at hr

theorem reachable_askedOnce : Reachable askedOnce.state := by
  have hr := reachable_widened.move (move_call "rows" .none widened)
  rwa [← askedOnce] at hr

theorem hidesNone_of_isEmpty {c : Sql.Connection} (h : c.functions.isEmpty = true) :
    c.HidesNone := by
  intro f hf
  rw [List.isEmpty_iff.mp h] at hf
  cases hf

/-- Before the rows have been asked for, their records have the old columns; afterwards they have
those that the statement has now. -/
theorem cached_records_widened :
    (∃ p, widened.state.session.prepared.lookup (Text.trimmed wholeRows.sql) = some p ∧
      p.resolved.columns = ["a"] ∧
      Shows widened.state.session.connection wholeRows .none (fun _ => p.resolved.columns)
        ⟨[("a", .integer 1)]⟩) ∧
    ((call "rows" .none).run.run askedOnce).1 =
      ((call "rows" .none).run.run (askedOnce.afresh true)).1 ∧
    Shows (askedOnce.state.session.connection.enforcing true) wholeRows .none
      Sql.Resolved.columns ⟨[("a", .integer 1), ("b", .null)]⟩ := by
  obtain ⟨-, hq, hf, hl, hrows, -, hq', hf', hon, hs, hk, hrows'⟩ := run_widened
  have hr := reachable_widened
  have hr' := reachable_askedOnce
  generalize widened = l at hq hf hl hrows hr ⊢
  generalize askedOnce = m at hq' hf' hon hk hrows' hr' ⊢
  have hkeeps : m.state.session.KeepsColumns (Text.trimmed wholeRows.sql) := by
    intro p hp
    rw [hp, Option.all_some, beq_iff_eq] at hk
    exact .undisturbed (congrArg _ hk) fun _ => congrArg _ hk
  constructor
  · cases hp : l.state.session.prepared.lookup (Text.trimmed wholeRows.sql) with
    | none =>
      rw [hp] at hl
      cases hl
    | some p =>
      rw [hp, Option.any_some, Bool.and_eq_true, Bool.not_eq_true', beq_iff_eq] at hl
      exact ⟨p, rfl, hl.2, (cached_records hr (hidesNone_of_isEmpty hf) hq (Or.inr rfl)).2 p hp
        hl.1 .none _ hrows _ List.mem_cons_self⟩
  · obtain ⟨on, hsetting, hcall, -, hshows⟩ :=
      (cached_records hr' (hidesNone_of_isEmpty hf') hq' (Or.inr rfl)).1 hkeeps
    obtain rfl : on = true := (hsetting hs).trans hon
    exact ⟨hcall .none, hshows .none _ hrows' _ List.mem_cons_self⟩

/-- **The records of a statement that is out of date lack the new column**, with which a statement
prepared afresh returns them. -/
theorem widened_rows_lack_column :
    Reachable widened.state ∧ widened.state.query? "rows" = some wholeRows ∧
      ((call "rows" .none).run.run widened).1 = .ok (.rows [⟨[("a", .integer 1)]⟩]) ∧
      ((call "rows" .none).run.run (widened.afresh true)).1 =
        .ok (.rows [⟨[("a", .integer 1), ("b", .null)]⟩]) := by
  obtain ⟨-, hq, -, -, hold, hnew, -⟩ := run_widened
  exact ⟨reachable_widened, hq, hold, hnew⟩

end Registry

end NamedSql
