import NamedSql.Query.Spec
import NamedSql.Query.Header

/-!
# Annotated texts

A text that holds any number of queries, each under a header line:

```text
-- :name get_user :get
select * from users where id = :id
```

Bodies are opaque. Blank lines are dropped; every other line of a body is trimmed and kept with a
line feed at its end.

## Main definitions

* `Line.of` — what a line is: blank, a header, a malformed header or part of a body
* `QuerySpec.readAll` — the queries of a text, in order

## Main results

* `QuerySpec.readLines_blank`, `QuerySpec.readLines_body` — how reading goes on over a line
-/

namespace NamedSql

open Text

/-- What a line of an annotated text is. Every line is exactly one of these, and which one does not
depend on the lines around it. -/
inductive Line where
  | blank
  /-- A header that follows the grammar, with what it says. -/
  | header (header : Header)
  /-- A line that is meant as a header and does not follow the grammar. It ends the reading of the
  text: it is not taken for a line of SQL. -/
  | malformed
  /-- A line of a body, without blanks at its ends. SQL comments are lines of bodies, too. -/
  | body (text : List Char)
deriving DecidableEq, Repr

/-- What a line is. Blanks in front make a line one of a body, even if it would be a header without
them; blanks at the end do not count. -/
def Line.of (line : List Char) : Line :=
  if trim line = [] then .blank
  else if Header.isHeaderLike (trimEnd line) then
    match Header.read? (trimEnd line) with
    | some h => .header h
    | none => .malformed
  else .body (trim line)

namespace QuerySpec

/-- The query that a header opens, with no body yet. Whether its kind exists is not looked at while
a text is read. -/
def opened (header : Header) (line : Nat) : QuerySpec :=
  ⟨header.name, header.kind, header.arg, "", line⟩

/-- The query with one more line of body. Every line ends with a line feed, whatever ended it in the
text. -/
def addLine (spec : QuerySpec) (text : List Char) : QuerySpec :=
  { spec with sql := spec.sql ++ String.ofList (text ++ ['\n']) }

/-- A query is finished once it has a body; a header without one is reported with its own line. -/
def finish (spec : QuerySpec) : Except Error QuerySpec :=
  if spec.sql = "" then
    .error (.parseStructure spec.line ("query '" ++ spec.name ++ "' has no SQL body"))
  else .ok spec

/-- Reads lines, the first of which has the given number, while a query is open or before the
first header. -/
def readLines : Option QuerySpec → Nat → List (List Char) → Except Error (List QuerySpec)
  | none, _, [] => .ok []
  | some spec, _, [] => do return [← spec.finish]
  | current, number, line :: rest =>
    match Line.of line with
    | .blank => readLines current (number + 1) rest
    | .malformed =>
      .error (.parseStructure number
        ("malformed header '" ++ String.ofList (trimEnd line) ++ "'"))
    | .header h =>
      match current with
      | none => readLines (some (opened h number)) (number + 1) rest
      | some spec => do
        let spec ← spec.finish
        return spec :: (← readLines (some (opened h number)) (number + 1) rest)
    | .body text =>
      match current with
      | none => .error (.parseStructure number "SQL before the first '-- :name' header")
      | some spec => readLines (some (spec.addLine text)) (number + 1) rest

/-- The queries of an annotated text, in order, or the first fault on the way through its lines. -/
def readAll (text : String) : Except Error (List QuerySpec) := readLines none 1 (lines text.toList)

theorem readLines_blank {line : List Char} (h : Line.of line = .blank) (current : Option QuerySpec)
    (number : Nat) (rest : List (List Char)) :
    readLines current number (line :: rest) = readLines current (number + 1) rest := by
  cases current <;> simp [readLines, h]

theorem readLines_body {line text : List Char} (h : Line.of line = .body text) (spec : QuerySpec)
    (number : Nat) (rest : List (List Char)) :
    readLines (some spec) number (line :: rest) =
      readLines (some (spec.addLine text)) (number + 1) rest := by
  simp [readLines, h]

end QuerySpec

end NamedSql
