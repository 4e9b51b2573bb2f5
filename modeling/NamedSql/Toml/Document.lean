import NamedSql.Toml.Scalar

/-!
# TOML documents

A document as the members of its outermost table, in order, each with the places where its key and
its value stand.

## Scope

What lies inside of arrays and inline tables is checked and not kept, since such a value cannot be
added to later. Tables are kept, because later headers and dotted keys may add to them; whether
they may is part of the syntax.

## Main definitions

* `Span` — a stretch of a document
* `Item`, `Member` — a value, and a key with its value
* `read?` — the members of a document, unless the document is malformed
-/

namespace NamedSql.Toml

/-- A stretch of a document, in bytes, from where it starts to where it stops. -/
structure Span where
  start : Nat
  stop : Nat
deriving DecidableEq, Repr

/-- How a table came about, which decides what may be added to it later. -/
inductive Origin where
  /-- By a header of its own. -/
  | header
  /-- As the parent of a table with a header. -/
  | implied
  /-- By a dotted key. -/
  | dotted
deriving DecidableEq, Repr

/-- The value of a key. Only what may be added to later is kept, and of scalars what a message
shows. -/
inductive Item where
  | scalar (s : Scalar) (span : Span)
  /-- An array. -/
  | array (span : Span)
  /-- An inline table. -/
  | inline (span : Span)
  /-- A table, with its keys, places of the keys and values. -/
  | table (origin : Origin) (span : Option Span) (members : List (String × Span × Item))
  /-- Tables under one repeated header, the last of them first. -/
  | tables (span : Span) (last : List (String × Span × Item))
deriving Repr

/-- A key, its place and its value. -/
abbrev Member := String × Span × Item

/-! ### Members of a table -/

/-- A key with its place, as one part of a dotted key or a header. -/
abbrev Key := String × Span

/-- The value of a key, if the table has it. -/
def find? (key : String) (members : List Member) : Option Item :=
  (members.find? (·.1 == key)).map (·.2.2)

/-- Puts another value where a key has one. -/
def replace (key : String) (item : Item) (members : List Member) : List Member :=
  members.map fun m => if m.1 = key then (m.1, m.2.1, item) else m

/-- Adds a value under a dotted key, whose last part is apart. No table on the way may have a header
of its own, save the last one under a repeated header, and the table that takes the value has to
come from a dotted key. -/
def addDotted (members : List Member) (path : List Key) (key : Key) (item : Item)
    (inDotted : Bool) : Option (List Member) :=
  match path with
  | [] =>
    if inDotted && (find? key.1 members).isNone then some (members ++ [(key.1, key.2, item)])
    else none
  | p :: rest =>
    match find? p.1 members with
    | none => do
      let inner ← addDotted [] rest key item true
      return members ++ [(p.1, p.2, .table .dotted none inner)]
    | some (.table .header _ _) => none
    | some (.table origin span inner) => do
      let inner ← addDotted inner rest key item (origin == .dotted)
      return replace p.1 (.table origin span inner) members
    | some (.tables span last) => do
      let last ← addDotted last rest key item false
      return replace p.1 (.tables span last) members
    | some _ => none

/-- Adds a value under a key, dotted or not, to a table. -/
def addMember (members : List Member) (path : List Key) (key : Key) (item : Item) :
    Option (List Member) := addDotted members path key item true

/-- Changes the members of the table that a path leads to. Missing tables on the way are
implied. -/
def modifyAt (members : List Member) (path : List Key)
    (change : List Member → Option (List Member)) : Option (List Member) :=
  match path with
  | [] => change members
  | p :: rest =>
    match find? p.1 members with
    | none => do
      let inner ← modifyAt [] rest change
      return members ++ [(p.1, p.2, .table .implied none inner)]
    | some (.table origin span inner) => do
      return replace p.1 (.table origin span (← modifyAt inner rest change)) members
    | some (.tables span last) => do
      return replace p.1 (.tables span (← modifyAt last rest change)) members
    | some _ => none

/-- Opens a table under a header, whose last part is apart. A table that is only implied so far
keeps what it holds. -/
def openTable (members : List Member) (path : List Key) (key : Key) (span : Span) :
    Option (List Member) :=
  modifyAt members path fun members =>
    match find? key.1 members with
    | none => some (members ++ [(key.1, key.2, .table .header (some span) [])])
    | some (.table .implied _ inner) =>
      some (members.filter (·.1 != key.1) ++ [(key.1, key.2, .table .header (some span) inner)])
    | some _ => none

/-- Opens one more table under a repeated header, behind those that the header has opened before. -/
def openNext (members : List Member) (path : List Key) (key : Key) (span : Span) :
    Option (List Member) :=
  modifyAt members path fun members =>
    match find? key.1 members with
    | none => some (members ++ [(key.1, key.2, .tables span [])])
    | some (.tables before _) => some (replace key.1 (.tables ⟨before.start, span.stop⟩ []) members)
    | some _ => none

/-- The stretch of a table, drawn out to the end of a value that is added to it. -/
def drawOut (span : Span) (stop : Nat) : Span := ⟨span.start, stop⟩

/-- Adds a value under a key to the table that a header has opened, and draws the table out to the
end of the value. -/
def addUnder (members : List Member) (header : List Key) (path : List Key) (key : Key)
    (item : Item) (stop : Nat) : Option (List Member) :=
  match header.getLast? with
  | none => addMember members path key item
  | some last =>
    modifyAt members header.dropLast fun members =>
      match find? last.1 members with
      | some (.table origin span inner) => do
        let inner ← addMember inner path key item
        return replace last.1 (.table origin (span.map (drawOut · stop)) inner) members
      | some (.tables span inner) => do
        let inner ← addMember inner path key item
        return replace last.1 (.tables (drawOut span stop) inner) members
      | _ => none

/-! ### Keys and values -/

/-- Whether a character may stand in a key without quotes. -/
def isKeyChar (x : Char) : Bool :=
  Scalar.isDigit x || ('a' ≤ x && x ≤ 'z') || ('A' ≤ x && x ≤ 'Z') || x == '_' || x == '-'

/-- One part of a key. -/
def part? (c : Cursor) : Option (Key × Cursor) :=
  match c.rest with
  | x :: _ =>
    if x == '"' || x == '\x27' then
      (Scalar.lineText? c).map fun r => ((r.1, ⟨c.pos, r.2.pos⟩), r.2)
    else
      let (word, after) := c.takeWhile isKeyChar
      if word.isEmpty then none else some ((String.ofList word, ⟨c.pos, after.pos⟩), after)
  | [] => none

/-- Keys have fewer parts than this, and values lie less deep in arrays and inline tables. -/
def depthLimit : Nat := 80

/-- The parts of a key. The first argument is more than their number. -/
def parts? : Nat → Cursor → Option (List Key × Cursor)
  | 0, _ => none
  | fuel + 1, c => do
    let (k, c) ← part? c.skipGap
    let c := c.skipGap
    match c.char? '.' with
    | some c =>
      let (ks, c) ← parts? fuel c
      return (k :: ks, c)
    | none => return ([k], c)

/-- A key, in its parts. -/
def key? (c : Cursor) : Option (List Key × Cursor) := parts? (depthLimit - 1) c

/-- The place behind a comment, if one stands here. -/
def skipComment (c : Cursor) : Option Cursor :=
  match c.char? '#' with
  | none => some c
  | some c =>
    let after := (c.takeWhile Scalar.isPrintable).2
    match after.rest with
    | [] | '\n' :: _ | '\r' :: '\n' :: _ => some after
    | _ => none

/-- The place behind blanks, comments and line ends. The first argument bounds the number of
lines. -/
def skipLines : Nat → Cursor → Option Cursor
  | 0, c => some c
  | fuel + 1, c => do
    let c ← skipComment c.skipGap
    match c.rest with
    | '\n' :: r => skipLines fuel (c.skip ['\n'] r)
    | '\r' :: '\n' :: r => skipLines fuel (c.skip ['\r', '\n'] r)
    | _ => return c

mutual

/-- A value and its place. The first argument bounds the number of its parts, the second is how
much deeper values may lie in this one. -/
def value? : Nat → Nat → Cursor → Option (Item × Cursor)
  | 0, _, _ => none
  | fuel + 1, depth, c =>
    match c.rest, depth with
    | '"' :: _, _ | '\x27' :: _, _ => do
      let (s, after) ← Scalar.text? c
      return (.scalar (.text s) ⟨c.pos, after.pos⟩, after)
    | '[' :: _, 0 | '\x7b' :: _, 0 => none
    | '[' :: r, depth + 1 => do
      let after ← items? fuel depth (c.skip ['['] r)
      return (.array ⟨c.pos, after.pos⟩, after)
    | '\x7b' :: r, depth + 1 => do
      let inner := (c.skip ['\x7b'] r).skipGap
      match inner.char? '\x7d' with
      | some after => return (.inline ⟨c.pos, after.pos⟩, after)
      | none =>
        let after ← inlineMembers? fuel depth [] inner
        return (.inline ⟨c.pos, after.pos⟩, after)
    | _, _ => do
      let (s, after) ← Scalar.plain? c
      return (.scalar s ⟨c.pos, after.pos⟩, after)

/-- The place behind the items of an array and its closing bracket. -/
def items? : Nat → Nat → Cursor → Option Cursor
  | 0, _, _ => none
  | fuel + 1, depth, c => do
    let c ← skipLines (c.rest.length + 1) c
    match c.char? ']' with
    | some c => return c
    | none =>
      let (_, c) ← value? fuel depth c
      let c ← skipLines (c.rest.length + 1) c
      match c.char? ',' with
      | some c => items? fuel depth c
      | none => c.char? ']'

/-- The place behind the members of an inline table and its closing brace. -/
def inlineMembers? : Nat → Nat → List Member → Cursor → Option Cursor
  | 0, _, _, _ => none
  | fuel + 1, depth, members, c => do
    let (keys, c) ← key? c
    let c ← c.char? '='
    let (item, c) ← value? fuel depth c.skipGap
    let members ← addMember members keys.dropLast (← keys.getLast?) item
    let c := c.skipGap
    match c.char? ',' with
    | some c => inlineMembers? fuel depth members c
    | none => c.char? '\x7d'

end

/-! ### Documents -/

/-- What has been read of a document: its members, and the header whose table is open. -/
structure Draft where
  members : List Member
  header : List Key
deriving Repr

/-- A header of a table, or a repeated one. -/
def header? (d : Draft) (c : Cursor) : Option (Draft × Cursor) := do
  let inner ← c.char? '['
  match inner.char? '[' with
  | some inner =>
    let (keys, after) ← key? inner
    let after ← (← after.char? ']').char? ']'
    let members ← openNext d.members keys.dropLast (← keys.getLast?) ⟨c.pos, after.pos⟩
    return (⟨members, keys⟩, after)
  | none =>
    let (keys, after) ← key? inner
    let after ← after.char? ']'
    let members ← openTable d.members keys.dropLast (← keys.getLast?) ⟨c.pos, after.pos⟩
    return (⟨members, keys⟩, after)

/-- A key with its value. -/
def keyValue? (d : Draft) (c : Cursor) : Option (Draft × Cursor) := do
  let (keys, c) ← key? c
  let c ← c.char? '='
  let (item, after) ← value? (c.rest.length + 1) (depthLimit - 1) c.skipGap
  let members ← addUnder d.members d.header keys.dropLast (← keys.getLast?) item after.pos
  return ({ d with members }, after)

/-- Reads statements, each on a line of its own, up to the end. The first argument bounds their
number. -/
def statements? : Nat → Draft → Cursor → Option Draft
  | 0, _, _ => none
  | fuel + 1, d, c => do
    let c ← skipLines (c.rest.length + 1) c
    match c.rest with
    | [] => return d
    | x :: _ =>
      let (d, c) ← if x = '[' then header? d c else keyValue? d c
      let c ← skipComment c.skipGap
      match c.rest with
      | [] => return d
      | '\n' :: _ | '\r' :: '\n' :: _ => statements? fuel d c
      | _ => none

/-- The members of a document's outermost table, unless the document is malformed. A byte order
mark may stand first. -/
def read? (text : List Char) : Option (List Member) :=
  let start : Cursor := ⟨0, text⟩
  let start := (start.char? '\uFEFF').getD start
  (statements? (text.length + 1) ⟨[], []⟩ start).map Draft.members

end NamedSql.Toml
