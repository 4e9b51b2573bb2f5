import NamedSql.Log.Event
import NamedSql.Log.Pattern
import NamedSql.Text.Blank

/-!
# Event filters

Which events are let through. A filter is a list of directives. Each names the events that it is
about, by a prefix of the target they come from and by a field that they have, and the levels that
pass; of the directives about an event the most specific one decides.

## Scope

A directive may also name a span, or ask for the value of a field in a span. No event here lies in
a span, so such a directive lets nothing through; it only keeps the filter from being empty.

## Main definitions

* `Directive`, `Filter` — one rule, and all of them
* `Filter.read?` — a filter from its text
* `Filter.allows` — whether an event passes

## Main results

* `Directive.isAbout_any` — a directive without a target and a field is about every event
-/

namespace NamedSql.Log

/-- Lets through those events of a target with a field that are urgent enough. -/
structure Directive where
  /-- The start of the target; without it the directive is about every target. -/
  target : Option String
  /-- The field that an event has to have, if one is asked for. -/
  field : Option String
  /-- The number of levels that pass. -/
  verbosity : Nat
deriving DecidableEq, Repr

/-- The directives of a filter. Of two about the same events the later counts. -/
structure Filter where
  directives : List Directive
deriving DecidableEq, Repr

namespace Directive

/-- Whether a directive is about an event of a target. -/
def isAbout (d : Directive) (target : String) (e : Event) : Bool :=
  d.target.all (fun start => start.toList.isPrefixOf target.toList) &&
    d.field.all fun name => e.fields.any (·.1 == name)

theorem isAbout_any (n : Nat) (target : String) (e : Event) :
    isAbout ⟨none, none, n⟩ target e = true := rfl

/-- Whether a directive is at least as specific as another about the same event: its target is
longer, or it asks for a field that the other does not ask for or that comes later in the
alphabet. -/
def isAsSpecific (d other : Directive) : Bool :=
  let length := fun (d : Directive) => match d.target with | some t => t.length + 1 | none => 0
  if length d ≠ length other then length other < length d
  else
    match d.field, other.field with
    | _, none => true
    | none, some _ => false
    | some a, some b => b ≤ a

end Directive

namespace Filter

/-- Digits as a number, after a plus that may stand before them. -/
def number? (word : List Char) : Option Nat :=
  let digits := match word with | '+' :: r => r | r => r
  if digits.isEmpty || !digits.all Char.isDigit then none
  else some (digits.foldl (fun n d => 10 * n + (d.toNat - 48)) 0)

/-- The number of levels that a name or a number lets through. -/
def verbosity? (word : List Char) : Option Nat :=
  match number? word with
  | some n => if n ≤ 5 then some n else none
  | none =>
    match String.ofList (word.map Char.toLower) with
    | "off" => some 0
    | "error" => some 1
    | "warn" => some 2
    | "info" => some 3
    | "debug" => some 4
    | "trace" => some 5
    | _ => none

/-- The levels that pass under a directive; all of them, if none are given. -/
def verbosityOr? (word : List Char) : Option Nat := if word.isEmpty then some 5 else verbosity? word

/-- The text from a byte on; nothing, if that byte lies inside of a character. -/
def fromByte? : Nat → List Char → Option (List Char)
  | 0, s => some s
  | _ + 1, [] => none
  | n + 1, c :: r => if c.utf8Size ≤ n + 1 then fromByte? (n + 1 - c.utf8Size) r else none

/-- The text up to a byte; nothing, if that byte lies inside of a character. -/
def upToByte? (n : Nat) (s : List Char) : Option (List Char) :=
  (fromByte? n s).map fun rest => s.take (s.length - rest.length)

/-- The stretch of a text between two bytes. -/
def stretch? (s : List Char) (start stop : Nat) : Option (List Char) :=
  (fromByte? start s).bind (upToByte? (stop - start))

/-- Whether a text is a decimal number that may have a fraction and an exponent, or stands for an
infinity or no number. -/
def isReal (s : List Char) : Bool :=
  let whole := s.takeWhile Char.isDigit
  let r := s.dropWhile Char.isDigit
  let (fraction, r) :=
    match r with
    | '.' :: t => (t.takeWhile Char.isDigit, t.dropWhile Char.isDigit)
    | r => ([], r)
  let exponent :=
    match r with
    | [] => true
    | m :: t =>
      let t := match t with | '+' :: t | '-' :: t => t | t => t
      (m == 'e' || m == 'E') && !t.isEmpty && t.all Char.isDigit
  ((!whole.isEmpty || !fraction.isEmpty) && exponent) ||
    ["inf", "infinity", "nan"].contains (String.ofList (s.map Char.toLower))

/-- Whether a text is a value that a field may be compared with: a number or a pattern. -/
def isValue (s : List Char) : Bool :=
  match s with
  | '+' :: r => isReal r
  | s => Pattern.isWellFormed s

/-- What a directive says between its braces: the name of a field, and the value asked for. -/
def readField? (s : List Char) : Option (String × Bool) :=
  if s.isEmpty then none
  else
    let name := String.ofList (s.takeWhile (· != '='))
    match s.dropWhile (· != '=') with
    | [] => some (name, false)
    | _ :: value => if isValue (value.takeWhile (· != '=')) then some (name, true) else none

/-- The end of a directive: a level behind an equals sign, or nothing. The second argument is what
is left to read, and the number is where it starts. -/
def readLevel? (whole : List Char) (pos : Nat) : List Char → Option Nat
  | [] => some 5
  | '=' :: _ => (fromByte? (pos + 1) whole).bind verbosityOr?
  | _ => none

/-- A directive from its target on, which may be followed by a span and by a field in braces, all
between brackets. What is about spans gives no directive. -/
def readSpan? (whole : List Char) (target : Option String) (pos : Nat) (s : List Char) :
    Option (Option Directive) := do
  let isEnd := fun c => c == ']' || c == '\x7b'
  let name := s.takeWhile fun c => !isEnd c
  let pos := pos + Text.byteLength name
  match s.dropWhile fun c => !isEnd c with
  | '\x7b' :: r =>
    let inner := r.takeWhile (· != '\x7d')
    let stop := pos + 1 + Text.byteLength inner
    let (field, valued) ← readField? (← stretch? whole (pos + 1) stop)
    match r.dropWhile (· != '\x7d') with
    | _ :: ']' :: r =>
      let n ← readLevel? whole (stop + 2) r
      return if valued || !name.isEmpty then none else some ⟨target, some field, n⟩
    | _ => none
  | _ :: r => do
    let _ ← readLevel? whole (pos + 1) r
    return none
  | [] => none

/-- One directive: a level, a target, or a target with what follows it. Blanks around it do not
count for its form, yet its parts are taken from the text with the blanks. -/
def readOne? (whole : List Char) : Option (Option Directive) :=
  match Text.trim whole with
  | [] => none
  | '[' :: r => readSpan? whole none 1 r
  | c :: r => do
    if !(Text.isAlphanumeric c || c == '-' || c == ':' || c == '_') then none
    let isEnd := fun c => c == '=' || c == '['
    let word := c :: r.takeWhile fun c => !isEnd c
    let pos := Text.byteLength word
    match r.dropWhile fun c => !isEnd c with
    | [] =>
      match verbosity? whole with
      | some n => return some ⟨none, none, n⟩
      | none => return some ⟨some (String.ofList whole), none, 5⟩
    | x :: rest =>
      let target := String.ofList (← upToByte? pos whole)
      if x = '[' then readSpan? whole (some target) (pos + 1) rest
      else
        let n ← readLevel? whole pos (x :: rest)
        return some ⟨some target, none, n⟩

/-- A filter from directives separated by commas. -/
def read? (s : String) : Option Filter := do
  let parts ← ((Text.split ',' s.toList).filter (!·.isEmpty)).mapM readOne?
  return ⟨parts.filterMap id⟩

/-- The most specific directive about an event, the last of several such. -/
def directiveFor? (f : Filter) (target : String) (e : Event) : Option Directive :=
  (f.directives.filter (·.isAbout target e)).foldl (fun best d =>
    match best with
    | some b => if d.isAsSpecific b then some d else some b
    | none => some d) none

/-- Whether an event of a target passes. What no directive is about does not pass. -/
def allows (f : Filter) (target : String) (e : Event) : Bool :=
  (f.directiveFor? target e).any fun d => e.level.verbosity ≤ d.verbosity

theorem allows_nil (target : String) (e : Event) : allows ⟨[]⟩ target e = false := rfl

end Filter

end NamedSql.Log
