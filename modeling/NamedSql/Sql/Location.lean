import NamedSql.Sql.Switch
import NamedSql.Text.Blank

/-!
# Locations

Where a database is to be opened, and in what way. A location is a path, or an address that starts
with a scheme: a path with options, in which any byte can be written by its two hexadecimal digits.

## Scope

An address is taken apart before it is decoded, so a written byte never separates anything. A byte
zero ends the part in which it is written. An option without a name is passed over, an option of
another name has no effect, and of an option that is given several times the last one counts, or
the first one where it is a switch.

## Main definitions

* `OpenMode`, `Location` — in what way a database is opened, and where
* `Location.Fault`, `Location.Fault.message` — why there is no such location, and wording
* `Address.decoded` — a part of an address as it is meant
* `Address.options` — the options of an address
* `Location.read` — the location that a text stands for

## Main results

* `Address.decoded_of_plain` — a part without an escape is meant as it is written
* `Location.read_of_plain` — a text without the scheme is a path
-/

namespace NamedSql.Sql

/-- What may be done with a file that is opened, and whether it may be made. -/
inductive OpenMode where
  | readOnly
  | readWrite
  /-- The file is created if it is not there, and can be read and written. -/
  | create
  /-- There is no file; the database goes with the connection. -/
  | memory
deriving DecidableEq, Repr, Inhabited

namespace OpenMode

/-- The mode of that name, as the value of an option names it. -/
def ofName? (name : String) : Option OpenMode :=
  match name with
  | "ro" => some .readOnly
  | "rw" => some .readWrite
  | "rwc" => some .create
  | "memory" => some .memory
  | _ => none

/-- How much a mode allows: to read, to write as well, or to create too. -/
def rank : OpenMode → Nat
  | .readOnly => 1
  | .readWrite => 2
  | .create | .memory => 3

/-- Whether a mode can be asked for where another one is in force. An option may take something
away, but allow nothing more. -/
def permits (current : OpenMode) (m : OpenMode) : Bool := m == .memory || m.rank ≤ current.rank

end OpenMode

/-- Where a database is opened, and in what way, with all options taken into account. -/
structure Location where
  path : String
  mode : OpenMode
  /-- The name of the way in which files are reached, of those that there are. -/
  system : String
  /-- Whether the file is used without locks, so that others are not kept from it. -/
  unlocked : Bool
  /-- Whether the file is taken for one that nobody changes, so that nothing can be written either.
  -/
  immutable : Bool
deriving DecidableEq, Repr, Inhabited

/-- Why there is no such location. Whether there is a file at a location is found out later. -/
inductive Location.Fault where
  /-- A character that ends the text early, with the number of bytes before it. -/
  | nul (position : Nat)
  /-- A host that is not this one, for files of other hosts cannot be reached. -/
  | authority (host : String)
  /-- An option has a value that it cannot have; the fault tells both. -/
  | noSuchMode (option value : String)
  /-- More is asked for than is allowed, as far as the mode goes. -/
  | modeNotAllowed (value : String)
  | noSuchSystem (name : String)
deriving DecidableEq, Repr

namespace Location.Fault

/-- The wording of a fault, which tells what of the location is wrong. -/
def message : Location.Fault → String
  | .nul position => "nul byte found in provided data at position: " ++ toString position
  | .authority host => "invalid uri authority: " ++ host
  | .noSuchMode option value => "no such " ++ option ++ " mode: " ++ value
  | .modeNotAllowed value => "access mode not allowed: " ++ value
  | .noSuchSystem name => "no such vfs: " ++ name

end Location.Fault

/-! ### Addresses -/

namespace Address

/-- The bytes of a part of an address, up to a byte zero that is written in it. -/
def bytes : List Char → List UInt8
  | '%' :: a :: b :: rest =>
    if Token.isHexDigit a && Token.isHexDigit b then
      let n := Token.hexValue [a, b]
      if n = 0 then [] else UInt8.ofNat n :: bytes rest
    else (String.ofList ['%']).toUTF8.data.toList ++ bytes (a :: b :: rest)
  | c :: rest => (String.ofList [c]).toUTF8.data.toList ++ bytes rest
  | [] => []

/-- A part of an address as it is meant. A part that is no text stays as it is written. -/
def decoded (part : List Char) : String :=
  if part.contains '%' then
    (String.fromUTF8? ⟨(bytes part).toArray⟩).getD (String.ofList part)
  else String.ofList part

/-- The options behind the path, with their values, in the order in which they are written. -/
def options (text : List Char) : List (String × String) :=
  ((Text.split '&' text).map fun part =>
    (decoded (part.takeWhile (· != '=')), decoded ((part.dropWhile (· != '=')).drop 1))).filter
      fun o => !o.1.isEmpty

/-- What stands behind the scheme and the host, if the host is this one. -/
def local? (text : List Char) : Except Location.Fault (List Char) :=
  match text with
  | '/' :: '/' :: rest =>
    let host := String.ofList (rest.takeWhile (· != '/'))
    if ["", "localhost"].contains host then .ok (rest.dropWhile (· != '/'))
    else .error (.authority host)
  | _ => .ok text

theorem decoded_of_plain {part : List Char} (h : '%' ∉ part) :
    decoded part = String.ofList part := by
  simp [decoded, h]

end Address

namespace Location

/-- The names of the ways in which files are reached, of which the first is taken unless another one
is asked for. -/
def systems : List String := ["unix", "unix-none", "unix-dotfile", "unix-excl", "memdb"]

/-- The location of a path: a file that is created if need be, reached in the usual way. -/
def ofPath (path : String) : Location := ⟨path, .create, "unix", false, false⟩

/-- Takes an option into account. An option of an unknown name changes nothing. -/
def withOption (l : Location) (name value : String) : Except Fault Location :=
  match name with
  | "vfs" => .ok { l with system := value }
  | "cache" =>
    if ["shared", "private"].contains value then .ok l else .error (.noSuchMode name value)
  | "mode" =>
    match OpenMode.ofName? value with
    | none => .error (.noSuchMode "access" value)
    | some m =>
      if l.mode.permits m then .ok { l with mode := m } else .error (.modeNotAllowed value)
  | _ => .ok l

/-- Whether the first option of that name is switched on. An option that is not given is off. -/
def isSwitchedOn (options : List (String × String)) (name : String) : Bool :=
  (options.lookup name).any Switch.isOn

/-- The location of an address, without its scheme. What follows a hash mark is no part of it. -/
def ofAddress (text : List Char) : Except Fault Location := do
  let here := (← Address.local? text).takeWhile (· != '#')
  let path := here.takeWhile (· != '?')
  let options := Address.options ((here.dropWhile (· != '?')).drop 1)
  let l ← options.foldlM (fun l o => l.withOption o.1 o.2) (ofPath (Address.decoded path))
  if !systems.contains l.system then throw (.noSuchSystem l.system)
  return { l with
    unlocked := isSwitchedOn options "nolock"
    immutable := isSwitchedOn options "immutable" }

/-- The mark of an address, without which a text is a path. -/
def scheme : List Char := "file:".toList

/-- The location that a text stands for: an address if it has the scheme, and otherwise a path. -/
def read (text : String) : Except Fault Location :=
  match Text.nulPosition? text.toList with
  | some position => .error (.nul position)
  | none =>
    if scheme.isPrefixOf text.toList then ofAddress (text.toList.drop scheme.length)
    else .ok (ofPath text)

/-- Whether the database is kept in memory, by its path or by its mode. -/
def isMemory (l : Location) : Bool := l.path == ":memory:" || l.mode == .memory

/-- Whether the database has no file of its own, although it is not kept in memory. -/
def isTemporary (l : Location) : Bool := l.path.isEmpty || l.system == "memdb"

/-- Whether a write-ahead log may stand beside the file, which needs locks and a file that changes.
-/
def allowsLog (l : Location) : Bool :=
  ["unix", "unix-excl"].contains l.system && !l.unlocked && !l.immutable

/-- Whether nothing can be written, since it was asked for so or since nobody changes the file. -/
def isReadOnly (l : Location) : Bool :=
  l.mode == .readOnly || (l.immutable && !l.isMemory && !l.path.isEmpty)

theorem read_of_plain {text : String} (h : '\x00' ∉ text.toList)
    (hs : scheme.isPrefixOf text.toList = false) : read text = .ok (ofPath text) := by
  simp [read, Text.nulPosition?_eq_none_iff.2 h, hs]

end Location

end NamedSql.Sql
