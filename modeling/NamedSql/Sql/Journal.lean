import NamedSql.Sql.Table

/-!
# Journals

How the changes of a transaction are secured, and what stands beside the file of a database on that
account. A journal from which changes can be undone is a file as long as something is being written,
and in two modes it stays where it is afterwards. A write-ahead log is a pair of files from the
first look at the tables on, as long as the connection keeps the log.

## Scope

The files beside a database are there or not; what they hold is never looked at.

## Main definitions

* `JournalMode` — how changes are secured
* `JournalMode.ofWord?` — the mode that a word asks for
* `Storage` — where a database is kept
* `Storage.allows` — the modes that a storage allows
* `Companions` — the files beside the file of a database

## Main results

* `JournalMode.ofWord?_name` — every mode is asked for by its name
* `Storage.allows_wal` — only files have a write-ahead log
* `Companions.ended_changed` — a change of mode outside of a transaction leaves what would stay
-/

namespace NamedSql.Sql

/-- How the changes of a transaction are secured, so that they can be undone or come to stay as a
whole. -/
inductive JournalMode where
  /-- A journal that is deleted when a transaction ends, so that its file is there only in between.
  -/
  | delete
  /-- A journal that stays when a transaction ends, marked as one that is not needed. -/
  | persist
  /-- Not at all. What comes of a rollback is then left open. -/
  | off
  /-- A journal that stays without content when a transaction ends. -/
  | truncate
  /-- A journal in memory, which leaves no file. -/
  | memory
  /-- A write-ahead log, to which changes are added and from which they are read. -/
  | wal
deriving DecidableEq, Repr, Inhabited

namespace JournalMode

/-- The name of a mode, by which it is asked for and told. -/
def name : JournalMode → String
  | .delete => "delete"
  | .persist => "persist"
  | .off => "off"
  | .truncate => "truncate"
  | .memory => "memory"
  | .wal => "wal"

/-- The modes in the order in which names are looked up. The beginning of a name is enough to ask
for a mode. -/
def all : List JournalMode := [.delete, .persist, .off, .truncate, .memory, .wal]

/-- The mode that a word asks for: the first one whose name starts with the word. -/
def ofWord? (word : String) : Option JournalMode :=
  all.find? fun m => (Token.fold word).toList.isPrefixOf m.name.toList

/-- Whether a file stays behind when a transaction ends, from which nothing is undone any more. -/
def staysBehind (m : JournalMode) : Bool := m == .persist || m == .truncate

theorem ofWord?_name (m : JournalMode) : ofWord? m.name = some m := by
  cases m <;> decide

end JournalMode

/-! ### Storage -/

/-- What there is to know about the file of a database, apart from what is in it. -/
structure FileTraits where
  /-- Whether a write-ahead log may stand beside the file, as its location has it. -/
  allowsLog : Bool
  /-- Whether the files beside the file can have names, which are longer than its own. -/
  leavesRoom : Bool
  /-- Whether so little of the file is cached that changes reach it before their transaction
  ends. -/
  spills : Bool
deriving DecidableEq, Repr, Inhabited

/-- Where a database is kept, on which it depends what modes there are for its journal. -/
inductive Storage where
  | memory
  /-- A file that goes with the connection, and that nothing stands beside. -/
  | temporary
  | file (place : List String) (traits : FileTraits)
  /-- A file that cannot be used, and the fault that any use of it comes to. -/
  | unusable (fault : Fault)
deriving DecidableEq, Repr

namespace Storage

/-- Whether changes of a database may be secured in some way. -/
def allows (s : Storage) (m : JournalMode) : Bool :=
  match s with
  | .memory => m == .memory || m == .off
  | .temporary => m != .wal
  | .file _ traits => m != .wal || traits.allowsLog
  | .unusable _ => false

/-- Whether files can stand beside the database, which takes a file that stays. -/
def isFile : Storage → Bool
  | .file .. => true
  | _ => false

/-- Whether changes that no journal secures are still there once they have been given up. What is
kept in memory or in a file of the connection's own has nothing else to go back to; any other file
is read again, and has the changes that have reached it. -/
def keepsUnsecured : Storage → Bool
  | .file _ traits => traits.spills
  | _ => true

theorem allows_wal {s : Storage} (h : s.allows .wal = true) : s.isFile = true := by
  cases s <;> simp_all [allows, isFile]

end Storage

/-! ### Files beside a database -/

/-- The files that stand beside the file of a database, as far as they are there. -/
structure Companions where
  /-- A journal from which changes can be undone, or one that has stayed behind. -/
  journal : Bool
  /-- A write-ahead log, which is a pair of files that come and go together. -/
  log : Bool
deriving DecidableEq, Repr, Inhabited

namespace Companions

/-- No files, as for a database that has just been opened. -/
def none : Companions := ⟨false, false⟩

/-- The files after a transaction, however it ended: a journal is there only if it stays behind. -/
def ended (k : Companions) (m : JournalMode) : Companions :=
  { k with journal := k.journal && m.staysBehind }

/-- The files after something is written, in a transaction that goes on or in one that ends. -/
def written (k : Companions) (m : JournalMode) (goesOn : Bool) : Companions :=
  { k with journal := m.staysBehind || (m == .delete && goesOn) }

/-- The files after a look at the tables. A log that is kept is opened with the first look. -/
def looked (k : Companions) (m : JournalMode) : Companions := { k with log := m == .wal }

/-- The files after a change of mode. To stop keeping a log is to write. -/
def changed (k : Companions) (before after : JournalMode) : Companions :=
  ⟨after.staysBehind && (k.journal || before == .wal), k.log && after == .wal⟩

theorem ended_changed (k : Companions) (before after : JournalMode) :
    (k.changed before after).ended after = k.changed before after := by
  cases h : after.staysBehind <;> simp [changed, ended, h]

end Companions

end NamedSql.Sql
