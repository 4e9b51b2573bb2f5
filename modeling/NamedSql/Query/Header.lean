import NamedSql.Text.Blank
import NamedSql.Text.Word

/-!
# Header lines

The grammar of the line that introduces a query: two hyphens, `:name`, the name, and the kind with
an optional argument, either between parentheses directly behind the kind or bare behind a gap.

## Scope

A header starts in column zero, and it is read after blanks at the end of the line are gone.
Whether a line is meant as a header is decided by its start alone (`isHeaderLike`); such a line
that does not follow the grammar is malformed.

## Main definitions

* `Header` — name, kind and argument as written
* `Header.isHeaderLike` — whether a line is meant as a header
* `Header.read?` — the header that a line holds, if it follows the grammar
-/

namespace NamedSql

open Text

/-- The content of a header line, with the kind and the argument as they are written: what they mean
is decided when the query is loaded. -/
structure Header where
  name : String
  /-- The identifier of the kind. -/
  kind : String
  arg : Option String
deriving DecidableEq, Repr, Inhabited

namespace Header

/-- What separates the parts of a header: spaces and tabs, and no other blanks. -/
def isGap (c : Char) : Bool := c == ' ' || c == '\t'

/-- An opening or closing parenthesis, neither of which may stand inside of an argument. -/
def isParen (c : Char) : Bool := c == '(' || c == ')'

/-- What follows a gap of one character or more, which is nothing at all if no gap stands here. -/
def afterGap? : List Char → Option (List Char)
  | [] => none
  | c :: r => if isGap c then some (r.dropWhile isGap) else none

/-- What follows the mark of a header: two hyphens, a gap and `:name`. A line with the mark is meant
as a header, whatever follows. -/
def afterMark? : List Char → Option (List Char)
  | '-' :: '-' :: r =>
    match afterGap? r with
    | some (':' :: 'n' :: 'a' :: 'm' :: 'e' :: t) => some t
    | _ => none
  | _ => none

/-- Whether a line is meant as a header: its mark ends where a word ends. -/
def isHeaderLike (line : List Char) : Bool :=
  match afterMark? line with
  | none => false
  | some [] => true
  | some (c :: _) => !isWord c

/-- An identifier at the start of a text, as long as it goes, and what follows it. -/
def identifier? : List Char → Option (List Char × List Char)
  | [] => none
  | c :: r =>
    if isIdentStart c then some (c :: r.takeWhile isIdentPart, r.dropWhile isIdentPart) else none

/-- The argument that follows a kind, as written: nothing, a text between parentheses, or a bare
text behind a gap. -/
def argument? : List Char → Option (List Char)
  | [] => some []
  | '(' :: r =>
    match r.dropWhile (fun c => !isParen c) with
    | ')' :: tail => if tail.all isGap then some (r.takeWhile fun c => !isParen c) else none
    | _ => none
  | r =>
    match afterGap? r with
    | none => none
    | some [] => some []
    | some (c :: t) => if isBlank c || (c :: t).any isParen then none else some (c :: t)

/-- The argument without blanks at its ends, unless nothing is left of it: empty parentheses are no
argument. -/
def argumentOf (raw : List Char) : Option String :=
  match trim raw with
  | [] => none
  | c :: t => some (String.ofList (c :: t))

/-- The header that a line holds, if the whole line follows the grammar and nothing is left of it.
-/
def read? (line : List Char) : Option Header := do
  let r ← afterMark? line
  let r ← afterGap? r
  let (name, r) ← identifier? r
  let r ← afterGap? r
  match r with
  | ':' :: r =>
    let (kind, r) ← identifier? r
    let raw ← argument? r
    some ⟨String.ofList name, String.ofList kind, argumentOf raw⟩
  | _ => none

end Header

end NamedSql
