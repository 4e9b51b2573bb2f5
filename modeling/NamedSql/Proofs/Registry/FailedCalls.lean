import NamedSql.Proofs.Registry.Accessors
import NamedSql.Proofs.Registry.Atomicity
import NamedSql.Proofs.Registry.Reachable
import NamedSql.Proofs.Sql.Failing

/-!
# Failed calls

What a call leaves in the tables that returns an error. The call executes one statement and then
reads what it has delivered, and either may fail. A statement that is given up is undone by the
engine. If it is the reading that fails, the statement has been carried out: an insertion that
returns rows has stored its record by the time the call refuses to have rows returned.

## Scope

No transaction of the engine is open. Inside of a unit of work a failed call is followed by a
rollback of the unit at most, and what that leaves is the matter of the unit.

## Main definitions

* `Registry.Fails` — the call of a query fails in one of the ways in which calls fail

## Main results

* `Registry.fails_of_perform` — a call that returns an error fails in one of these ways
* `Registry.database_failed_call` — what a call leaves that returns an error
* `Registry.failed_insertion_is_kept` — a call may fail and leave a record behind
-/

namespace NamedSql

namespace Registry

variable {l : Logged Registry} {q : Query} {params : Params} {e : Error}

/-- The statement of a query is called, and it or the reading of what it delivers fails. -/
def Fails (s : Sql.Session) (q : Query) (params : Params) : Prop :=
  ∃ (α : Type) (read : Sql.Execution → Except Sql.Failure α) (f : Sql.Failure),
    Sql.Execution.Reads read ∧ (s.call q.sql params).2.bind read = .error f

theorem fails_of_invoke {α : Type} {read : Sql.Execution → Except Sql.Failure α}
    (hread : Sql.Execution.Reads read)
    (h : ((invoke q params read).run.run l).1 = .error e) : Fails l.state.session q params := by
  rw [run_invoke, Engine.call_session] at h
  cases hr : (l.state.session.call q.sql params).2.bind read with
  | error f => exact ⟨α, read, f, hread, hr⟩
  | ok a =>
    rw [hr] at h
    cases h

theorem fails_of_write (h : ((write q params).run.run l).1 = .error e) :
    Fails l.state.session q params := by
  rw [run_write, written, Engine.call_session] at h
  cases hr : (l.state.session.call q.sql params).2.bind (·.written) with
  | error f => exact ⟨Unit, _, f, Sql.Execution.reads_written, hr⟩
  | ok a =>
    rw [hr] at h
    cases h

theorem eq_error_of_map {α β : Type} {f : α → β} {x : Op Registry α}
    (h : ((f <$> x).run.run l).1 = .error e) : (x.run.run l).1 = .error e := by
  rw [Op.run_map] at h
  exact map_eq_error_iff.mp h

/-- A call that returns an error has failed in its statement or in reading what that delivers. -/
theorem fails_of_perform (h : ((perform q params).run.run l).1 = .error e) :
    Fails l.state.session q params := by
  rw [perform] at h
  split at h
  · exact fails_of_write (eq_error_of_map h)
  · exact fails_of_write (eq_error_of_map h)
  · exact fails_of_write (eq_error_of_map h)
  · exact fails_of_write (eq_error_of_map h)
  · exact fails_of_invoke (Sql.Execution.reads_first _) (eq_error_of_map h)
  · exact fails_of_invoke (Sql.Execution.reads_first _) (eq_error_of_map h)
  · exact fails_of_invoke (Sql.Execution.reads_every _) (eq_error_of_map h)
  · exact fails_of_invoke (Sql.Execution.reads_every _) (eq_error_of_map h)
  · exact fails_of_invoke (Sql.Execution.reads_first _) (eq_error_of_map h)
  · exact fails_of_invoke (Sql.Execution.reads_every _) (eq_error_of_map h)
  · exact fails_of_invoke Sql.Execution.reads_hasRow (eq_error_of_map h)

/-- What an error of the call of a query leaves in the tables: what was there before, unless the
statement keeps what it has changed up to a conflict, or was carried out and returns what it has
changed. -/
def Spares (l m : Logged Registry) (q : Query) (params : Params) : Prop :=
  m.state.session.connection.database = l.state.session.connection.database ∨
    Sql.Session.keepsPart (Text.trimmed q.sql) = true ∨
    Sql.Session.returns (Text.trimmed q.sql) = true ∧ l.state.session.Delivers q.sql params

section Reached

variable (hr : Reachable l.state) (ha : l.state.session.connection.isAutocommit = true)
  (hu : l.state.session.connection.undoesTransactions = true)
include hr ha hu

theorem spares_of_perform (h : ((perform q params).run.run l).1 = .error e) :
    Spares l ((perform q params).run.run l).2 q params := by
  obtain ⟨α, read, f, hread, hf⟩ := fails_of_perform h
  rw [state_run_perform]
  exact hr.sound.database_call ha hu q.sql params hread hf

variable {name : String} (hq : l.state.query? name = some q)
include hq

theorem spares_of_call (h : ((call name params).run.run l).1 = .error e) :
    Spares l ((call name params).run.run l).2 q params := by
  rw [run_call_of_query? hq] at h ⊢
  exact spares_of_perform hr ha hu h

theorem spares_of_ask {a : Accessor} {x : a.Argument}
    (h : ((ask name a x).run.run l).1 = .error e) :
    Spares l ((ask name a x).run.run l).2 q (a.params x) := by
  by_cases hs : a = .ofShape q.shape
  · subst hs
    have hc := run_call hq x
    have he : ((call name ((Accessor.ofShape q.shape).params x)).run.run l).1 = .error e := by
      rw [hc]
      exact map_eq_error_iff.mpr h
    have hm := spares_of_call hr ha hu hq he
    rwa [hc] at hm
  · rw [run_ask_of_ne hq hs]
    exact Or.inl rfl

end Reached

/-- **A call that fails leaves every table as it was**, in general or by an accessor, whatever the
query is and wherever the call has failed, as long as no transaction is open and the engine is able
to undo what it gives up, with two exceptions. A statement may say that a conflict is to keep what
was changed before it. And a statement that returns the rows that it changes has been carried out by
the time they are read: if reading them fails, the call does, and what was changed is kept. -/
theorem database_failed_call (hr : Reachable l.state)
    (ha : l.state.session.connection.isAutocommit = true)
    (hu : l.state.session.connection.undoesTransactions = true) {name : String}
    (hq : l.state.query? name = some q) :
    (∀ params e, ((call name params).run.run l).1 = .error e →
      let m := ((call name params).run.run l).2
      m.state.session.connection.database = l.state.session.connection.database ∨
        Sql.Session.keepsPart (Text.trimmed q.sql) = true ∨
        Sql.Session.returns (Text.trimmed q.sql) = true ∧ l.state.session.Delivers q.sql params) ∧
    ∀ a x e, ((ask name a x).run.run l).1 = .error e →
      let m := ((ask name a x).run.run l).2
      m.state.session.connection.database = l.state.session.connection.database ∨
        Sql.Session.keepsPart (Text.trimmed q.sql) = true ∨
        Sql.Session.returns (Text.trimmed q.sql) = true ∧
          l.state.session.Delivers q.sql (a.params x) :=
  ⟨fun _ _ h => spares_of_call hr ha hu hq h, fun _ _ _ h => spares_of_ask hr ha hu hq h⟩

/-! ### A query that returns what it inserts -/

/-- A table of codes none of which may be missing. -/
def requiredCodes : String := "create table t (c not null)"

/-- A query that inserts a code, and one that does so and returns it. -/
def insertions : String :=
  "-- :name add :insert\ninsert into t values (:c)\n
-- :name addBack :insert\ninsert into t values (:c) returning c\n"

/-- The registry of these queries. -/
def inserting : Logged Registry := memoryWith requiredCodes insertions

/-- The codes that are in the table. -/
def rowsOf (l : Logged Registry) : Option (List Sql.Row) :=
  (l.state.session.connection.database.find? "t").map (·.rows)

/-- The query that inserts a code. -/
def adding : Query := ⟨"add", "insert into t values (:c)\n", 1, .insert⟩

/-- The record of no code. -/
def noCode : Record := ⟨[("c", .null)]⟩

/-- What becomes of the two queries: the first is given up by the engine, and the second carried
out. -/
theorem run_inserting :
    inserting.state.session.connection.isAutocommit = true ∧
      inserting.state.session.connection.undoesTransactions = true ∧
      inserting.state.query? "add" = some adding ∧
      ((insertOne "add" noCode).run.run inserting).1.isOk = false ∧
      ((insertOne "addBack" (code 1)).run.run inserting).1.isOk = false ∧
      rowsOf inserting = some [] ∧
      rowsOf ((insertOne "addBack" (code 1)).run.run inserting).2 = some [⟨1, [.integer 1]⟩] := by
  decide +kernel

theorem reachable_inserting : Reachable inserting.state := by
  obtain ⟨-, -, hq, -⟩ := run_inserting
  exact reachable_memoryWith insertions (isOk_of_query? hq)

/-- A code that is missing cannot be inserted, and nothing is. -/
theorem database_failed_call_adding :
    ((insertOne "add" noCode).run.run inserting).1.isOk = false ∧
      ((insertOne "add" noCode).run.run inserting).2.state.session.connection.database =
        inserting.state.session.connection.database := by
  obtain ⟨hk, ht⟩ : Sql.Session.keepsPart (Text.trimmed adding.sql) = false ∧
      Sql.Session.returns (Text.trimmed adding.sql) = false := by
    decide +kernel
  obtain ⟨ha, hu, hq, hf, -⟩ := run_inserting
  have hr := reachable_inserting
  generalize inserting = l at hr ha hu hq hf ⊢
  obtain ⟨e, he⟩ := exists_of_not_isOk hf
  refine ⟨hf, ?_⟩
  rcases (database_failed_call hr ha hu hq).2 .insert noCode e he with h | h | h
  · exact h
  · rw [hk] at h
    cases h
  · rw [ht] at h
    cases h.1

/-- **A call may fail and leave a record behind.** The record is inserted before the call takes
exception to the row that the statement returns. -/
theorem failed_insertion_is_kept :
    Reachable inserting.state ∧ inserting.state.session.connection.isAutocommit = true ∧
      inserting.state.session.connection.undoesTransactions = true ∧
      ((insertOne "addBack" (code 1)).run.run inserting).1.isOk = false ∧
      rowsOf inserting = some [] ∧
      rowsOf ((insertOne "addBack" (code 1)).run.run inserting).2 = some [⟨1, [.integer 1]⟩] := by
  obtain ⟨ha, hu, -, -, hf, hs⟩ := run_inserting
  exact ⟨reachable_inserting, ha, hu, hf, hs⟩

end Registry

end NamedSql
