import NamedSql.Error
import NamedSql.Text.Visible
import NamedSql.Toml.Document

/-!
# Configuration

What a caller may choose when a registry is opened: where the database is, what to run on it
first, and whether every statement is logged. A configuration can be read from a TOML document
with these four fields.

## Main definitions

* `Config` — the choices
* `Config.isMemory` — whether the database lives in memory only
* `Config.ofToml` — a configuration from a document, or what is wrong with it

## Main results

* `Config.isMemory_memory` — the configuration without choices lives in memory
-/

namespace NamedSql

/-- What a caller chooses when a registry is opened: where its database is, what is run to set it
up, and whether calls are logged. -/
structure Config where
  /-- The file of the database, or the location that stands for memory. -/
  location : String
  /-- A file with SQL that is run when the registry is opened. -/
  schemaPath : Option String
  /-- SQL that is run after that. -/
  schemaSql : Option String
  /-- Whether every statement is logged. -/
  verbose : Bool
deriving DecidableEq, Repr, Inhabited

namespace Config

/-- The location that stands for a database in memory. It is compared as it is written: other
spellings of it are paths. -/
def memoryLocation : String := ":memory:"

/-- A database in memory, and nothing to run. -/
def memory : Config := ⟨memoryLocation, none, none, false⟩

/-- A database at a location, and nothing to run. -/
def ofLocation (location : String) : Config := { memory with location }

/-- Whether the database lives in memory only, and is gone when the registry is closed. -/
def isMemory (c : Config) : Bool := c.location == memoryLocation

@[simp] theorem isMemory_memory : memory.isMemory = true := by decide

@[simp] theorem isMemory_ofLocation (location : String) :
    (ofLocation location).isMemory = (location == memoryLocation) := rfl

/-! ### Reading -/

/-- The fields of a configuration as documents name them. A document may leave out any of them,
which then keep their defaults, but it may hold no others. -/
inductive Field where
  | location
  | schemaPath
  | schemaSql
  | verbose
deriving DecidableEq, Repr

namespace Field

/-- The key of a field in a document. -/
def key : Field → String
  | .location => "location"
  | .schemaPath => "schema_path"
  | .schemaSql => "schema_sql"
  | .verbose => "verbose"

/-- Every field, in the order in which messages list them, which is also that of the fields
themselves. -/
def values : List Field := [.location, .schemaPath, .schemaSql, .verbose]

/-- The field of a key, if it is spelled exactly so. -/
def ofKey? (key : String) : Option Field := values.find? (·.key == key)

/-- What a field wants for its value, in the words of the message about a value of another type. -/
def wanted : Field → String
  | .location | .schemaPath => "path string"
  | .schemaSql => "a string"
  | .verbose => "a boolean"

end Field

open Toml in
/-- What is wrong with one field of a document, and which part of the text it concerns. -/
inductive Fault where
  /-- There is no such field. -/
  | unknownField (key : String) (span : Span)
  /-- The value of a field is of another type. -/
  | wrongType (field : Field) (item : Item) (span : Span)
deriving Repr

namespace Fault

open Toml

/-- Reals are written positionally whatever their size: messages show them without an exponent. -/
def plainStyle : NumberStyle where
  plainFrom := -400
  plainBelow := 400
  pointed := false
  signed := false
  exponentWidth := 1

/-- A real as a message shows it. -/
def showReal (x : Binary64) : String :=
  if x.isNaN then "NaN"
  else
    let magnitude :=
      if x.isFinite then String.ofList (plainStyle.layout (Decimal.shortest .awayFromZero x))
      else "inf"
    if x.isNegative then "-" ++ magnitude else magnitude

/-- The type of a value, and the value itself if it is a scalar, as a message says what was found
instead of what was wanted. -/
def found : Item → String
  | .scalar (.text s) _ => "string " ++ Text.quoted s
  | .scalar (.integer n) _ => "integer `" ++ toString n ++ "`"
  | .scalar (.real x) _ => "floating point `" ++ showReal x ++ "`"
  | .scalar (.bool b) _ => "boolean `" ++ (if b then "true" else "false") ++ "`"
  | .scalar .date _ => "map"
  | .array _ | .tables .. => "sequence"
  | .inline _ | .table .. => "map"

/-- Words in backquotes, separated by commas. -/
def listed (words : List String) : String :=
  ", ".intercalate (words.map fun w => "`" ++ w ++ "`")

/-- What is wrong. -/
def reason : Fault → String
  | .unknownField key _ =>
    "unknown field `" ++ key ++ "`, expected one of " ++ listed (Field.values.map Field.key)
  | .wrongType field item _ =>
    "invalid type: " ++ found item ++ ", expected " ++ field.wanted

/-- Where it is wrong: the part of the text that the message underlines. -/
def span : Fault → Span
  | .unknownField _ span | .wrongType _ _ span => span

/-- The line on which a byte stands, counted from zero, the column on that line in characters, and
the text of the line. -/
def locate : List Char → Nat → Nat × Nat × List Char
  | [], n => (0, n, [])
  | c :: r, n =>
    if n = 0 then (0, 0, (c :: r).takeWhile (· != '\n'))
    else
      let (line, column, text) := locate r (n - c.utf8Size)
      if c = '\n' then (line + 1, column, text)
      else if line = 0 then (0, column + 1, c :: text)
      else (line, column, text)

/-- A fault with the line where it is, marked with a caret for every byte that lies on this line. -/
def message (document : List Char) (fault : Fault) : String :=
  let (line, column, text) := locate document fault.span.start
  let number := toString (line + 1)
  let margin := String.ofList (List.replicate (number.length + 1) ' ')
  let width := min (fault.span.stop - fault.span.start) (Text.byteLength text - column)
  let carets := String.ofList (List.replicate (max width 1) '^')
  "TOML parse error at line " ++ number ++ ", column " ++ toString (column + 1) ++ "\n" ++
    margin ++ "|\n" ++ number ++ " | " ++ String.ofList text ++ "\n" ++ margin ++ "|" ++
    String.ofList (List.replicate (column + 1) ' ') ++ carets ++ "\n" ++ fault.reason ++ "\n"

end Fault

open Toml in
/-- The place of a value; that of its key if the value has none of its own. -/
def itemSpan (keySpan : Span) : Item → Span
  | .scalar _ span | .array span | .inline span | .tables span _ => span
  | .table _ span _ => span.getD keySpan

open Toml in
/-- The configuration with one more field set. A field that is there twice has been refused by the
document before. -/
def setField (c : Config) (m : Member) : Except Fault Config :=
  match Field.ofKey? m.1 with
  | none => .error (.unknownField m.1 m.2.1)
  | some field =>
    match field, m.2.2 with
    | .location, .scalar (.text s) _ => .ok { c with location := s }
    | .schemaPath, .scalar (.text s) _ => .ok { c with schemaPath := some s }
    | .schemaSql, .scalar (.text s) _ => .ok { c with schemaSql := some s }
    | .verbose, .scalar (.bool b) _ => .ok { c with verbose := b }
    | field, item => .error (.wrongType field item (itemSpan m.2.1 item))

/-- Why a document gives no configuration. That it is malformed is told without saying where,
whereas a field is shown in its line. -/
inductive ReadError where
  /-- The document is malformed. -/
  | malformed
  /-- A field is wrong; the message shows where. -/
  | badField (message : String)
deriving DecidableEq, Repr

/-- The configuration that a TOML document describes. Fields that are not there keep their
defaults; the first wrong field counts. -/
def ofToml (document : String) : Except ReadError Config :=
  match Toml.read? document.toList with
  | none => .error .malformed
  | some members =>
    match members.foldlM setField memory with
    | .ok c => .ok c
    | .error fault => .error (.badField (fault.message document.toList))

/-- The error of a registry whose configuration cannot be read, which takes the wording over as it
is. -/
def ReadError.toError : ReadError → Error
  | .malformed => .invalidConfig "TOML parse error"
  | .badField message => .invalidConfig message

end Config

end NamedSql
