import NamedSql.Proofs.Sql.Autocommit
import NamedSql.Registry.Engine

/-!
# Engines with transactions

The laws of transactions on which units of work rely. A unit begins a transaction, lets statements
run in it, and commits it or rolls it back; whatever is proved of units is proved from what these
commands do to an engine, and holds of every engine that keeps to the laws.

## Scope

What is stored, and the database with which a transaction began, need not be accessible in an
engine: no operation of a registry reads them. They are here to say what an operation comes to. The
laws say nothing about rows and nothing about texts. A statement may do anything to the database,
and it may end the transaction, but it does not give the open one another origin.

## Main definitions

* `Transactional` — the state of transactions in an engine, and the laws about it

## Main results

* `Transactional.begin_eq_some_iff` — why a transaction does not begin
* `Transactional.isAutocommit_committed` — a commit that succeeds ends the transaction

Sessions are an instance: the laws hold of them.
-/

namespace NamedSql

/-- An engine whose transactions keep to laws. A transaction begins only where none is open, and
the engine goes back to the database with which it began if it is given up. -/
class Transactional (σ : Type) [Engine σ] where
  /-- What is stored, as far as a rollback brings it back. -/
  Database : Type
  /-- What is stored now, changes of the open transaction included. -/
  database : σ → Database
  /-- The database with which the open transaction began, if one is open. -/
  origin : σ → Option Database
  /-- What is stored once the open transaction has been given up. -/
  abandoned : σ → Database
  /-- Whether no transaction is open, so that every statement is one of its own. -/
  isAutocommit : σ → Bool
  /-- Whether the engine takes note of what it changes, so that it can undo it. -/
  undoesTransactions : σ → Bool
  isAutocommit_eq_false_iff : ∀ s, isAutocommit s = false ↔ ∃ d, origin s = some d
  /-- A transaction begins if none is open, and has the database for its origin. -/
  begin_of_isAutocommit : ∀ {s}, isAutocommit s = true →
    (Engine.control s .begin).2 = none ∧
      origin (Engine.control s .begin).1 = some (database s)
  /-- While a transaction is open another one is refused, and the open one goes on. -/
  begin_of_open : ∀ {s}, isAutocommit s = false →
    Engine.control s .begin = (s, some .nestedTransaction)
  /-- A statement keeps the origin of the open transaction, or ends the transaction. -/
  origin_call : ∀ {s d}, origin s = some d → ∀ sql params,
    origin (Engine.call s sql params).1 = some d ∨ origin (Engine.call s sql params).1 = none
  /-- A commit that succeeds ends the transaction and keeps the database, and one that fails keeps
  the engine as it is. -/
  commit_cases : ∀ s,
    (∃ t, Engine.control s .commit = (t, none) ∧ isAutocommit t = true ∧
        database t = database s) ∨
      ∃ f, Engine.control s .commit = (s, some f)
  /-- After a rollback no transaction is open, even if there was none to be rolled back. -/
  isAutocommit_rolledBack : ∀ s, isAutocommit (Engine.control s .rollback).1 = true
  database_rollback : ∀ s, database (Engine.control s .rollback).1 = abandoned s
  /-- What can be undone is undone up to the origin. -/
  abandoned_of_origin : ∀ {s d}, origin s = some d → undoesTransactions s = true → abandoned s = d

namespace Transactional

variable {σ : Type} [Engine σ] [Transactional σ] {s t : σ} {f : Sql.Fault}

/-- A transaction does not begin for one reason only. -/
theorem begin_eq_some_iff :
    (Engine.control s .begin).2 = some f ↔ isAutocommit s = false ∧ f = .nestedTransaction := by
  cases ha : isAutocommit s with
  | false => rw [begin_of_open ha, Option.some.injEq, eq_comm, and_iff_right rfl]
  | true => simp [(begin_of_isAutocommit ha).1]

theorem isAutocommit_committed (h : Engine.control s .commit = (t, none)) :
    isAutocommit t = true := by
  rcases commit_cases s with ⟨t', hc, ha, -⟩ | ⟨f, hc⟩
  · rw [h] at hc
    cases hc
    exact ha
  · rw [h] at hc
    cases hc

/-! ### Sessions -/

instance : Transactional Sql.Session where
  Database := Sql.Database
  database s := s.connection.database
  origin s := s.connection.origin
  abandoned s := s.connection.abandoned
  isAutocommit s := s.connection.isAutocommit
  undoesTransactions s := s.connection.undoesTransactions
  isAutocommit_eq_false_iff s := s.connection.isAutocommit_eq_false_iff
  begin_of_isAutocommit := Sql.Session.begin_of_isAutocommit
  begin_of_open := Sql.Session.begin_of_open
  origin_call := Sql.Session.origin_call
  commit_cases s := by
    rcases s.commit_cases with ⟨t, hc, hd⟩ | ⟨f, hc⟩
    · exact Or.inl ⟨t, hc, Sql.Session.isAutocommit_committed hc, hd⟩
    · exact Or.inr ⟨f, hc⟩
  isAutocommit_rolledBack := Sql.Session.isAutocommit_rolledBack
  database_rollback := Sql.Session.database_rollback
  abandoned_of_origin := Sql.Connection.abandoned_of_origin

section

variable (s : Sql.Session)

@[simp] theorem database_session : database s = s.connection.database := rfl

@[simp] theorem origin_session : origin s = s.connection.origin := rfl

@[simp] theorem abandoned_session : abandoned s = s.connection.abandoned := rfl

@[simp] theorem isAutocommit_session : isAutocommit s = s.connection.isAutocommit := rfl

@[simp] theorem undoesTransactions_session :
    undoesTransactions s = s.connection.undoesTransactions := rfl

end

end Transactional

end NamedSql
