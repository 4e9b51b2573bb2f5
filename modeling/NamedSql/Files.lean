import NamedSql.Sql.Connection
import NamedSql.Sql.Location

/-!
# Files

A directory with files, some of which hold databases. Every path is read relative to that
directory, component by component, so that two spellings of a path lead to the same file exactly
if every component on the way is there. The path of a database is simplified before, so what it
leaves again need not be there.

## Scope

What a file holds is either bytes or a database; the bytes of a database are never looked at. Paths
do not leave the directory, and there are no links. The files that stand beside the file of an open
database belong to the connection.

## Main definitions

* `Files` — the files of a directory
* `Files.canonical` — the place that a path leads to
* `Files.readText` — the text of a file
* `Files.databasePlace` — the place of a database
* `Files.openDatabase`, `Files.store` — the database of a file
* `Files.companions` — what stands beside the file of an open database

## Main results

* `Files.node?_put_self`, `Files.node?_put_of_ne` — what writing a file does to the files
-/

namespace NamedSql

/-- What is found at a place: a directory, a file with its bytes, or a database together with how
its changes are secured and whether they get there early. -/
inductive Node where
  | directory
  | bytes (content : List UInt8)
  /-- A database, how its changes are secured, and whether so little of it is cached that they reach
  the file before their transaction ends. -/
  | database (content : Sql.Database) (journal : Sql.JournalMode) (spills : Bool)

/-- A place below the directory, as the names on the way to it. -/
abbrev Place := List String

/-- Why a file cannot be read, as far as that depends on the files and not on the machine they are
on. -/
inductive FileFault where
  | notFound
  | notADirectory
  | isADirectory
  | nameTooLong
  /-- A path contains a NUL character. -/
  | nulInPath
  | notText
deriving DecidableEq, Repr

namespace FileFault

/-- The wording of a fault. -/
def message : FileFault → String
  | .notFound => "No such file or directory (os error 2)"
  | .notADirectory => "Not a directory (os error 20)"
  | .isADirectory => "Is a directory (os error 21)"
  | .nameTooLong => "File name too long (os error 36)"
  | .nulInPath => "file name contained an unexpected NUL byte"
  | .notText => "stream did not contain valid UTF-8"

end FileFault

/-- The files of a directory, as a list of the places at which something is found. What stands
further up in the list hides what stands below it. -/
structure Files where
  /-- The absolute path of the directory. -/
  base : String
  /-- What is found at which place. -/
  nodes : List (Place × Node)

namespace Files

/-! ### Places -/

/-- What is found at a place. The directory itself is at the place without a name, and is always
there. -/
def node? (f : Files) (place : Place) : Option Node :=
  if place.isEmpty then some .directory else f.nodes.lookup place

/-- Whether there is a directory at a place, which paths may go through. -/
def isDirectory (f : Files) (place : Place) : Bool :=
  match f.node? place with
  | some .directory => true
  | _ => false

/-- The components of a path, with an empty one for every slash that follows another one or stands
at an end. -/
def components (path : String) : List String := path.splitOn "/"

/-- The greatest number of bytes in a name, beyond which the system does not even look for it. -/
def longestName : Nat := 255

/-- The greatest number of bytes in a path that the system takes. -/
def longestPath : Nat := 4095

/-- Whether a component of a path is too long for a name. -/
def isTooLong (name : String) : Bool := longestName < name.utf8ByteSize

/-- The place that components lead to from a place, one after the other. Empty components and dots
lead nowhere else, two dots lead back, and everything on the way has to be a directory. -/
def walk (f : Files) (start : Place) : List String → Except FileFault Place
  | [] => .ok start
  | c :: rest =>
    if !f.isDirectory start then .error .notADirectory
    else if c == "" || c == "." then f.walk start rest
    else if c == ".." then f.walk start.dropLast rest
    else if isTooLong c then .error .nameTooLong
    else if (f.node? (start ++ [c])).isSome then f.walk (start ++ [c]) rest
    else .error .notFound

/-- The place that a path leads to, if something is found there. Different paths may lead to one
place, which is why places are remembered and not paths. -/
def canonical (f : Files) (path : String) : Except FileFault Place :=
  if path.isEmpty then .error .notFound
  else if path.contains '\x00' then .error .nulInPath
  else if longestPath < path.utf8ByteSize then .error .nameTooLong
  else f.walk [] (components path)

/-- The absolute path of a place, as errors and events show it. -/
def absolute (f : Files) (place : Place) : String := "/".intercalate (f.base :: place)

/-- The place where a path leads to or would lead to if there were a file. -/
def target (f : Files) (path : String) : Except FileFault Place :=
  match f.canonical path with
  | .ok place => .ok place
  | .error .notFound => do
    match (components path).getLast? with
    | none | some "" | some "." | some ".." => throw .notFound
    | some name =>
      let directory ← f.walk [] (components path).dropLast
      if f.isDirectory directory then return directory ++ [name] else throw .notADirectory
  | .error fault => .error fault

/-- Whether a path leads to something, be it a file, a directory or a database. -/
def contains (f : Files) (path : String) : Bool := (f.canonical path).isOk

/-! ### Content -/

/-- The text of some bytes, if they are a text in the encoding of all texts here. -/
def textOf? (bytes : List UInt8) : Option String := String.fromUTF8? ⟨bytes.toArray⟩

/-- The bytes of a text. -/
def bytesOf (text : String) : List UInt8 := text.toUTF8.data.toList

/-- The text at a place, if there is a file that holds a text. The bytes of a database are not a
text. -/
def textAt (f : Files) (place : Place) : Except FileFault String :=
  match f.node? place with
  | none => .error .notFound
  | some .directory => .error .isADirectory
  | some (.database ..) => .error .notText
  | some (.bytes content) =>
    match textOf? content with
    | some text => .ok text
    | none => .error .notText

/-- The text of a file, by a path that leads to it. -/
def readText (f : Files) (path : String) : Except FileFault String := do
  f.textAt (← f.canonical path)

/-- Puts something at a place, whatever was there. Nothing asks whether the place can be reached. -/
def put (f : Files) (place : Place) (n : Node) : Files :=
  { f with nodes := (place, n) :: f.nodes.filter (·.1 != place) }

/-- Puts something where a path leads to, if there is a directory for it. -/
def write (f : Files) (path : String) (n : Node) : Files :=
  match f.target path with
  | .ok place => f.put place n
  | .error _ => f

/-- Removes what is at a place. A directory goes without what is in it, which can no longer be
reached then. -/
def erase (f : Files) (place : Place) : Files :=
  { f with nodes := f.nodes.filter (·.1 != place) }

/-- Removes the file that a path leads to. -/
def remove (f : Files) (path : String) : Files :=
  match f.canonical path with
  | .ok place => f.erase place
  | .error _ => f

/-! ### Places of databases -/

/-- The place that components of a simplified path lead to from a place. Directories on the way may
be missing, but a file cannot be on the way. -/
def simplified (f : Files) (start : Place) : List String → Option Place
  | [] => some start
  | c :: rest =>
    if c == "" || c == "." then f.simplified start rest
    else if c == ".." then f.simplified start.dropLast rest
    else if (f.node? start).isSome && !f.isDirectory start then none
    else if f.isDirectory start && isTooLong c then none
    else f.simplified (start ++ [c]) rest

/-- The greatest number of bytes in the path of a database, so that there is room for the endings of
the files beside it. -/
def longestDatabasePath : Nat := 480

/-- The place of a database, if there is a directory for it and nothing but a file is there. -/
def databasePlace (f : Files) (path : String) : Option Place := do
  let place ← f.simplified [] (components path)
  if f.isDirectory place || !f.isDirectory place.dropLast then none
  else if longestDatabasePath < ("/".intercalate place).utf8ByteSize then none
  else some place

/-! ### Files beside a database -/

/-- The place of a file beside another one, with a name that goes on with an ending. -/
def beside (place : Place) (ending : String) : Place :=
  place.dropLast ++ [place.getLast?.getD "" ++ ending]

/-- The endings of the files that stand beside a database: one for the journal of changes to be
undone, two for a write-ahead log. -/
def endings (k : Sql.Companions) : List String :=
  (if k.journal then ["-journal"] else []) ++ if k.log then ["-wal", "-shm"] else []

/-- The files that stand beside the file of an open database. -/
def companions (c : Sql.Connection) : List Place :=
  match c.storage with
  | .file place _ => (endings c.companions).map (beside place)
  | _ => []

/-! ### Databases -/

/-- What there is to know about the file of a location, before anything is done with it: whether it
may have a log, whether the names of its companions fit, and whether changes get to it early. -/
def traits (l : Sql.Location) (place : Place) (spills : Bool) : Sql.FileTraits :=
  ⟨l.allowsLog, !isTooLong ((place.getLast?.getD "") ++ "-journal"), spills⟩

/-- The connection to a database in a file. A journal that was left beside the file belongs to the
connection, and so does a log, which is there as long as the database is kept with one. A database
that is kept with a log cannot be used without one. -/
def connect (f : Files) (l : Sql.Location) (place : Place) (journal : Sql.JournalMode)
    (spills : Bool) (d : Sql.Database) : Sql.Connection × Files :=
  let usesLog := journal == .wal && !l.immutable
  if usesLog && !l.allowsLog then (.toDatabase (.unusable .cannotOpen) .delete .empty, f)
  else
    let left := (f.node? (beside place "-journal")).isSome
    let c := Sql.Connection.toDatabase (.file place (traits l place spills))
      (if usesLog then .wal else .delete) d
    ({ c with companions := ⟨left, usesLog⟩ }, f.erase (beside place "-journal"))

/-- Opens the database at a place, which is created if it is not there. Whether a file holds a
database is found out only when the database is used. -/
def openAt (f : Files) (l : Sql.Location) (place : Place) : Option (Sql.Connection × Files) :=
  match f.node? place with
  | some .directory => none
  | some (.database d journal spills) => some (f.connect l place journal spills d)
  | some (.bytes (_ :: _)) => some (.toDatabase (.unusable .notADatabase) .delete .empty, f)
  | some (.bytes []) => create
  | none => if l.mode = .create then create else none
where
  /-- The connection to a new database at the place. -/
  create : Option (Sql.Connection × Files) :=
    some ((f.put place (.database .empty .delete false)).connect l place .delete false .empty)

/-- Opens the database of a location, if that is possible. A file that is not there is made, if the
location allows that. -/
def openDatabase (f : Files) (l : Sql.Location) : Option (Sql.Connection × Files) :=
  let opened :=
    if l.isMemory then some (.inMemory, f)
    else if l.isTemporary then
      some (.toDatabase .temporary (if l.path.isEmpty then .delete else .memory) .empty, f)
    else (f.databasePlace l.path).bind (f.openAt l)
  opened.map fun (c, f) => ({ c with readOnly := l.isReadOnly }, f)

/-- Closes a connection, which gives an open transaction up: what it has committed is what its file
holds, if that is still there. A journal that would stay behind after a transaction stays, and so
does a log that cannot be given up. -/
def store (f : Files) (c : Sql.Connection) : Files :=
  match c.storage with
  | .file place traits =>
    let k := c.companions.ended c.journal
    let left := endings { k with log := k.log && c.readOnly }
    let f := ["-wal", "-shm"].foldl (fun f ending => f.erase (beside place ending)) f
    let f := left.foldl (fun f ending => f.put (beside place ending) (.bytes [])) f
    match f.node? place with
    | some (.database ..) =>
      f.put place
        (.database c.abandoned (if c.journal = .wal then .wal else .delete) traits.spills)
    | _ => f
  | _ => f

/-! ### Writing -/

theorem node?_put_self (f : Files) {place : Place} (h : place ≠ []) (n : Node) :
    (f.put place n).node? place = some n := by
  simp [node?, put, h]

theorem node?_put_of_ne (f : Files) {place other : Place} (n : Node) (h : other ≠ place) :
    (f.put place n).node? other = f.node? other := by
  have hb : (other == place) = false := by simp [h]
  obtain ⟨base, nodes⟩ := f
  simp only [node?, put, List.lookup_cons, hb]
  congr 1
  induction nodes with
  | nil => rfl
  | cons e rest ih =>
    obtain ⟨p, m⟩ := e
    by_cases hp : p = place
    · have ho : (other == p) = false := by simp [hp, h]
      simp [hp, List.lookup_cons, hb, ih]
    · by_cases ho : other = p
      · simp [hp, ho]
      · have ho' : (other == p) = false := by simp [ho]
        simp [hp, List.lookup_cons, ho', ih]

end Files

end NamedSql
