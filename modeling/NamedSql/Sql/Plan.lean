import NamedSql.Sql.Access

/-!
# Plans

What a statement does, once every name in it has been looked up.

## Main definitions

* `InsertPlan`, `UpdatePlan`, `DeletePlan`, `ColumnPlan` — changes of rows and of a table
* `KeyChecks` — the keys of other tables that a change has to look at
* `Plan` — what a statement does
* `Plan.looksAtTables`, `Plan.writes`, `Plan.changesRows` — what a statement has to do with tables

## Main results

* `Plan.looksAtTables_of_writes` — what writes has looked at the tables before
-/

namespace NamedSql.Sql

/-- A resolved condition of a table, with the name or the text that its fault tells. -/
structure CheckPlan where
  condition : Term
  label : String

/-- The keys of other tables that a change of a row may break or mend. -/
structure KeyChecks where
  /-- The keys that the row refers to, which must be there once the row is stored. -/
  own : List ForeignKey
  /-- The keys that refer to the row, with the names of their tables. Their rows may miss it when it
  is gone. -/
  referring : List (String × ForeignKey)
deriving Inhabited

namespace KeyChecks

/-- No keys, as where they are not enforced or the columns of none are changed. -/
def none : KeyChecks := ⟨[], []⟩

/-- Whether there is no key to look at, so that rows can be changed one by one. -/
def isEmpty (k : KeyChecks) : Bool := k.own.isEmpty && k.referring.isEmpty

end KeyChecks

/-- An insertion: which rows are evaluated, where their values go, and what each row is held
against. -/
structure InsertPlan where
  table : String
  conflict : Conflict
  /-- For each column of the table, which of the given values it gets; without one it gets its
  default value. -/
  positions : List (Option Nat)
  /-- Which of the given values is the rowid. Without one a row gets a fresh rowid. -/
  rowid : Option Nat
  rows : List (List Term)
  /-- Whether all rows are evaluated before the first one is stored. -/
  ahead : Bool
  checks : List CheckPlan
  keys : KeyChecks
  /-- Whether a key that a row misses is a fault at once, and not when all rows are stored. -/
  atOnce : Bool
  returning : List Term

/-- A change of rows: which rows are changed, what their new values are, and what each row is held
against. -/
structure UpdatePlan where
  table : String
  conflict : Conflict
  rows : Selection
  /-- Whether all rows are selected before the first one is changed. -/
  ahead : Bool
  /-- The new rowid, if the rows get one. It is evaluated like the other values. -/
  rowid : Option Term
  /-- New values for columns, in the order of the columns. At most one stands for each column. -/
  values : List (Nat × Term)
  checks : List CheckPlan
  keys : KeyChecks
  /-- What has to be looked at for rows that are replaced, which are all the keys of the table. -/
  replacedKeys : KeyChecks
  returning : List Term

/-- A deletion: which rows are deleted, and which keys may be missing when they are gone. -/
structure DeletePlan where
  table : String
  rows : Selection
  keys : KeyChecks
  returning : List Term

/-- An addition of a column to a table, and what keeps it from being added. -/
structure ColumnPlan where
  /-- The table with the column, but without its rows, which are taken from the database when the
  plan runs. -/
  definition : Table
  column : Column
  /-- Why the column cannot be added to rows, if it cannot. A table without rows can get any column.
  -/
  fault : Option Fault
  /-- The conditions of the column, which the rows that are there must not violate. -/
  checks : List CheckPlan

/-- What a statement does, as far as that is known before it runs. Parameters and rows are still to
come. -/
inductive Plan where
  | query (q : QueryPlan)
  | insert (p : InsertPlan)
  | update (p : UpdatePlan)
  | delete (p : DeletePlan)
  /-- Creates a table, unless there is nothing to create because a table of its name is there. -/
  | createTable (t : Option Table)
  /-- Drops a table, for whose rows some keys have to be looked at, unless there is nothing to
  drop. -/
  | dropTable (table : Option (String × KeyChecks))
  /-- Replaces the definition of a table by one with another column. Its rows get the default value.
  -/
  | addColumn (p : ColumnPlan)
  | control (c : Control)
  /-- Asks for the journal mode, or for a change of it to the mode of a word. -/
  | journalMode (word : Option String)
  /-- Makes everything that has been prepared out of date, as a setting does that statements depend
  on. -/
  | expire
  /-- Does nothing, as a pragma does that is not known. -/
  | idle

namespace Plan

/-- Whether a statement counts the rows that it changes. Statements that define tables count none.
-/
def changesRows : Plan → Bool
  | .insert _ | .update _ | .delete _ => true
  | _ => false

/-- Whether a statement looks at the tables as they are. A query does so only if it reads one. -/
def looksAtTables : Plan → Bool
  | .query q => q.queried.any Option.isSome
  | .insert _ | .update _ | .delete _ | .createTable _ | .dropTable _ | .addColumn _ => true
  | _ => false

/-- Whether a statement needs a database that can be written. Beginning and ending a transaction
does not. -/
def writes : Plan → Bool
  | .insert _ | .update _ | .delete _ | .createTable (some _) | .dropTable (some _)
  | .addColumn _ => true
  | _ => false

theorem looksAtTables_of_writes {p : Plan} (h : p.writes = true) : p.looksAtTables = true := by
  cases p <;> simp_all [writes, looksAtTables]

end Plan

/-- A statement ready to run: its plan and the names of the columns that it returns. -/
structure Resolved where
  plan : Plan
  columns : List String

end NamedSql.Sql
