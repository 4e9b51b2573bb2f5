import NamedSql.Error
import NamedSql.Json

/-!
# Log events

What is logged: the start of every operation and its end, and notes in between. An operation that
starts ends exactly once, either well or with an error.

## Scope

No clock is kept here. An event that says how long something took carries the time that its
builder is given.

## Main definitions

* `Level` — how urgent an event is
* `Event` — a level and named fields
* `Event.opStart`, `Event.opEnd`, `Event.opError` — the events at the bounds of an operation
* `Event.note` — a message with fields
-/

namespace NamedSql.Log

/-- How urgent an event is, the most urgent first. Filters let through the first few of these. -/
inductive Level where
  | error
  | warn
  | info
  | debug
  | trace
deriving DecidableEq, Repr, Inhabited

namespace Level

/-- The name of a level as it is written before an event. -/
def name : Level → String
  | .error => "ERROR"
  | .warn => "WARN"
  | .info => "INFO"
  | .debug => "DEBUG"
  | .trace => "TRACE"

/-- The number of levels that are at least as urgent, by which filters compare them. -/
def verbosity : Level → Nat
  | .error => 1
  | .warn => 2
  | .info => 3
  | .debug => 4
  | .trace => 5

end Level

/-! ### Names -/

/-- The names of the fields that events carry, so that whoever reads the log can rely on their
spelling. -/
inductive FieldName where
  | component
  | op
  | event
  | durationMs
  | queryName
  | queryKind
  | functionName
  | source
  | queryCount
  | batchLen
  | errKind
  | errCode
deriving DecidableEq, Repr

namespace FieldName

/-- The name of a field as it is logged, in lower case with underscores. -/
def key : FieldName → String
  | .component => "component"
  | .op => "op"
  | .event => "event"
  | .durationMs => "duration_ms"
  | .queryName => "query_name"
  | .queryKind => "query_kind"
  | .functionName => "function_name"
  | .source => "source"
  | .queryCount => "query_count"
  | .batchLen => "batch_len"
  | .errKind => "err.kind"
  | .errCode => "err.code"

/-- Every name that events share. Some events carry more fields under names of their own. -/
def values : List FieldName :=
  [.component, .op, .event, .durationMs, .queryName, .queryKind, .functionName, .source,
    .queryCount, .batchLen, .errKind, .errCode]

end FieldName

/-- The bounds of an operation: it starts, and it ends well or with an error. -/
inductive Phase where
  | start
  | done
  | failed
deriving DecidableEq, Repr

namespace Phase

/-- The name of a bound as it is logged. -/
def name : Phase → String
  | .start => "start"
  | .done => "end"
  | .failed => "end_error"

/-- Every bound. -/
def values : List Phase := [.start, .done, .failed]

end Phase

/-! ### Events -/

/-- The value of a field, which is written differently for readers and for programs. -/
inductive FieldValue where
  /-- A text, which a line for readers quotes. -/
  | text (s : String)
  /-- A text that is shown as it is. -/
  | shown (s : String)
  | integer (n : Int)
  | flag (b : Bool)
deriving DecidableEq, Repr

namespace FieldValue

/-- The plain text of a field, without quotes. -/
def toText : FieldValue → String
  | .text s | .shown s => s
  | .integer n => toString n
  | .flag b => if b then "true" else "false"

/-- The field in a line for readers, where texts are quoted and everything else is shown as it is.
-/
def toLine : FieldValue → String
  | .text s => Text.quoted s
  | v => v.toText

/-- The field as JSON: numbers and flags stay what they are, and everything else is a text. -/
def toJson : FieldValue → Json
  | .text s | .shown s => .text s
  | .integer n => .integer n
  | .flag b => .bool b

end FieldValue

/-- A logged event: how urgent it is, and its fields in order. Two fields may have one name; then
the first counts. -/
structure Event where
  level : Level
  fields : List (String × FieldValue)
deriving DecidableEq, Repr

namespace Event

/-- The plain text of a field, if the event has it. -/
def field? (e : Event) (key : String) : Option String := (e.fields.lookup key).map FieldValue.toText

/-- The operation that an event belongs to, if any. Notes have no such field. -/
def op? (e : Event) : Option String := e.field? FieldName.op.key

/-- The bound of an operation that an event marks, if any. -/
def phase? (e : Event) : Option String := e.field? FieldName.event.key

/-- The fields that every event at the bound of an operation starts with. -/
def opFields (component op : String) (phase : Phase) : List (String × FieldValue) :=
  [(FieldName.component.key, .text component), (FieldName.op.key, .text op),
    (FieldName.event.key, .text phase.name)]

/-- An operation starts. What it is about to do stands in further fields. -/
def opStart (component op : String) (extra : List (String × FieldValue)) : Event :=
  ⟨.info, opFields component op .start ++ extra⟩

/-- An operation has ended well, after so many milliseconds, with what has come of it in further
fields. -/
def opEnd (component op : String) (duration : Nat) (extra : List (String × FieldValue)) : Event :=
  ⟨.info, opFields component op .done ++ (FieldName.durationMs.key, .integer duration) :: extra⟩

/-- An operation has ended with an error, whose class, code and wording stand in fields behind the
duration. -/
def opError (component op : String) (err : Error) (duration : Nat)
    (extra : List (String × FieldValue)) : Event :=
  ⟨.error, opFields component op .failed ++
    [(FieldName.durationMs.key, .integer duration), (FieldName.errKind.key, .shown err.kind.name),
      (FieldName.errCode.key, .text err.code), ("error", .shown err.message)] ++ extra⟩

/-- The name of the field that holds the message of a note. -/
def messageKey : String := "message"

/-- A message with fields, which belongs to no operation. -/
def note (level : Level) (message : String) (extra : List (String × FieldValue)) : Event :=
  ⟨level, (messageKey, .shown message) :: extra⟩

@[simp] theorem op?_opStart (component op : String) (extra : List (String × FieldValue)) :
    (opStart component op extra).op? = some op := rfl

@[simp] theorem op?_opEnd (component op : String) (n : Nat) (extra : List (String × FieldValue)) :
    (opEnd component op n extra).op? = some op := rfl

@[simp] theorem op?_opError (component op : String) (err : Error) (n : Nat)
    (extra : List (String × FieldValue)) : (opError component op err n extra).op? = some op := rfl

end Event

end NamedSql.Log
