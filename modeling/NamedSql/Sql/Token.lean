import NamedSql.Text.Blank
import NamedSql.Text.Word
import NamedSql.Value

/-!
# SQL tokens

How an SQL text falls into tokens. Blanks and comments separate tokens and are dropped; every
token remembers where it stands, in bytes.

## Main definitions

* `Token` — a token, its text and its place
* `Token.scan` — the tokens of a text, up to a NUL character or the end
* `Token.isKeyword` — whether a token is a given keyword, whatever the case of its letters
* `Token.name` — the name that a token stands for, without its quotes
-/

namespace NamedSql.Sql

/-- The sorts of tokens. What a token means beyond its sort is told by its text. -/
inductive TokenKind where
  /-- A keyword or a name without quotes; which of the two depends on where it stands. -/
  | word
  /-- A name between double quotes, backquotes or brackets, which is never a keyword. -/
  | quotedName
  | string
  | blob
  | integer
  | real
  | parameter
  | symbol
  /-- Characters that make no token. They are a fault as soon as they are reached. -/
  | illegal
deriving DecidableEq, Repr

/-- A token of an SQL text, which can be put back where it stood. -/
structure Token where
  kind : TokenKind
  /-- The characters of the token, as written, with the quotes if it has any. -/
  text : List Char
  /-- The number of bytes before the token, which faults tell as its place. -/
  offset : Nat
deriving DecidableEq, Repr

namespace Token

/-! ### Characters -/

/-- The blanks of SQL. Others are no blanks, even if they look like one. -/
def isSpace (c : Char) : Bool :=
  c == ' ' || c == '\t' || c == '\n' || c == '\x0b' || c == '\x0c' || c == '\r'

/-- A decimal digit, of the ten in ASCII. -/
def isDigit (c : Char) : Bool := '0' ≤ c && c ≤ '9'

/-- A hexadecimal digit, whose letters may be of either case. -/
def isHexDigit (c : Char) : Bool :=
  isDigit c || ('a' ≤ c && c ≤ 'f') || ('A' ≤ c && c ≤ 'F')

/-- The value of a hexadecimal digit, of which the letters count from ten on. -/
def hexDigit (c : Char) : Nat :=
  if isDigit c then c.toNat - 48 else c.toLower.toNat - 87

/-- The number that hexadecimal digits stand for, the first one counting most. -/
def hexValue (ds : List Char) : Nat := ds.foldl (fun n d => 16 * n + hexDigit d) 0

/-- The characters of names: letters, digits, the underscore, the dollar sign, and everything
beyond ASCII. -/
def isNameChar (c : Char) : Bool := Text.isIdentPart c || c == '$' || 0x80 ≤ c.toNat

/-- The characters that a name may start with: those of names but for digits and the dollar sign. -/
def isNameStart (c : Char) : Bool := Text.isIdentStart c || 0x80 ≤ c.toNat

/-! ### Lexemes

Each function looks at the characters behind the first one and tells how many of them belong to
the token. -/

/-- The length of a comment up to the end of its line, or to a NUL before that. -/
def lineCommentLength (r : List Char) : Nat :=
  (r.takeWhile fun c => c != '\n' && c != '\x00').length

/-- The length of a text up to the end of a comment over several lines, which may be the end of the
text. -/
def blockCommentLength : List Char → Nat
  | [] => 0
  | '*' :: '/' :: _ => 2
  | c :: r => if c = '\x00' then 0 else blockCommentLength r + 1

/-- The length of a quoted text behind its opening quote, the closing quote included, if it has
one. A doubled quote stands for one. -/
def quotedLength? (quote : Char) : List Char → Option Nat
  | [] => none
  | [c] => if c = quote then some 1 else none
  | c :: d :: r =>
    if c = '\x00' then none
    else if c = quote then if d = quote then (quotedLength? quote r).map (· + 2) else some 1
    else (quotedLength? quote (d :: r)).map (· + 1)

/-- The length of an exponent, if one stands here: a letter and digits, perhaps with a sign between
them. -/
def exponentLength : List Char → Nat
  | e :: r =>
    if e == 'e' || e == 'E' then
      match r with
      | s :: d :: t =>
        if isDigit s then 1 + (r.takeWhile isDigit).length
        else if (s == '+' || s == '-') && isDigit d then 2 + ((d :: t).takeWhile isDigit).length
        else 0
      | [d] => if isDigit d then 2 else 0
      | [] => 0
    else 0
  | [] => 0

/-- The kind and the length of a number. Characters of a name right behind it make the whole
illegal. -/
def number (s : List Char) : TokenKind × Nat :=
  let hex :=
    match s with
    | '0' :: x :: h :: r =>
      if (x == 'x' || x == 'X') && isHexDigit h then
        some (2 + ((h :: r).takeWhile isHexDigit).length)
      else none
    | _ => none
  match hex with
  | some n => (.integer, n)
  | none =>
    let whole := (s.takeWhile isDigit).length
    let fraction :=
      match s.drop whole with
      | '.' :: r => 1 + (r.takeWhile isDigit).length
      | _ => 0
    let exponent := exponentLength (s.drop (whole + fraction))
    let n := whole + fraction + exponent
    let junk := ((s.drop n).takeWhile isNameChar).length
    if junk ≠ 0 then (.illegal, n + junk)
    else if fraction = 0 ∧ exponent = 0 then (.integer, n)
    else (.real, n)

/-- The kind and the length of a named parameter behind its first character. The flag tells
whether a character of a name has been passed. -/
def parameterLength (named : Bool) : List Char → TokenKind × Nat
  | [] => (if named then .parameter else .illegal, 0)
  | ':' :: ':' :: r =>
    let (kind, n) := parameterLength named r
    (kind, n + 2)
  | c :: r =>
    if isNameChar c then
      let (kind, n) := parameterLength true r
      (kind, n + 1)
    else if c == '(' && named then
      let inner := (r.takeWhile fun c => !isSpace c && c != ')' && c != '\x00').length
      match r.drop inner with
      | ')' :: _ => (.parameter, inner + 2)
      | _ => (.illegal, inner + 1)
    else (if named then .parameter else .illegal, 0)

/-- The length of the symbol that a text starts with, if it starts with one. Longer symbols come
before their beginnings. -/
def symbolLength? : List Char → Option Nat
  | '-' :: '>' :: '>' :: _ => some 3
  | '-' :: '>' :: _ | '=' :: '=' :: _ | '<' :: '=' :: _ | '<' :: '>' :: _ | '<' :: '<' :: _
  | '>' :: '=' :: _ | '>' :: '>' :: _ | '!' :: '=' :: _ | '|' :: '|' :: _ => some 2
  | c :: _ =>
    if ['-', '/', '(', ')', ';', '+', '*', '%', ',', '&', '~', '=', '<', '>', '|', '.'].contains c
    then some 1
    else none
  | [] => none

/-- The kind and the length of the token that a text starts with; no kind for blanks and
comments. -/
def lexeme (s : List Char) : Option TokenKind × Nat :=
  match s with
  | [] => (none, 0)
  | '-' :: '-' :: r => (none, 2 + lineCommentLength r)
  | '/' :: '*' :: c :: r =>
    if c = '\x00' then (some .symbol, 1) else (none, 2 + blockCommentLength (c :: r))
  | c :: r =>
    -- A vertical tab is a blank among others, but no run of blanks starts with one.
    if isSpace c && c != '\x0b' then (none, 1 + (r.takeWhile isSpace).length)
    else if c == '\uFEFF' then (none, 1)
    else if c == '\x27' || c == '"' || c == '\x60' then
      match quotedLength? c r with
      | some n => (some (if c == '\x27' then .string else .quotedName), n + 1)
      | none => (some .illegal, (s.takeWhile (· != '\x00')).length)
    else if c == '[' then
      let n := (r.takeWhile fun c => c != ']' && c != '\x00').length
      if r[n]? == some ']' then (some .quotedName, n + 2) else (some .illegal, n + 1)
    else if isDigit c || (c == '.' && (r.head?.map isDigit).getD false) then
      let (kind, n) := number s
      (some kind, n)
    else if c == '?' then (some .parameter, 1 + (r.takeWhile isDigit).length)
    else if c == '$' || c == '@' || c == ':' || c == '#' then
      let (kind, n) := parameterLength false r
      (some kind, n + 1)
    else if (c == 'x' || c == 'X') && r.head? == some '\x27' then
      let digits := ((r.drop 1).takeWhile isHexDigit).length
      match r.drop (1 + digits) with
      | '\x27' :: _ => (some (if digits % 2 = 0 then .blob else .illegal), digits + 3)
      | rest =>
        let junk := (rest.takeWhile fun c => c != '\x27' && c != '\x00').length
        (some .illegal, digits + junk + if rest[junk]? == some '\x27' then 3 else 2)
    else if isNameStart c then (some .word, 1 + (r.takeWhile isNameChar).length)
    else
      match symbolLength? s with
      | some n => (some .symbol, n)
      | none => (some .illegal, 1)

/-- The tokens of a text that starts at a byte, with a bound on their number. Each takes at least
one character, so the bound can be met. -/
def scanFrom : Nat → Nat → List Char → List Token
  | 0, _, _ => []
  | _, _, [] => []
  | fuel + 1, offset, s =>
    if s.head? = some '\x00' then []
    else
      let (kind, n) := lexeme s
      let text := s.take n
      let rest := scanFrom fuel (offset + Text.byteLength text) (s.drop n)
      match kind with
      | some kind => ⟨kind, text, offset⟩ :: rest
      | none => rest

/-- The tokens of a text, up to a NUL character or the end. Whatever is behind a NUL does not count.
-/
def scan (s : List Char) : List Token := scanFrom (s.length + 1) 0 s

/-! ### Readings of a token -/

/-- The lower case of ASCII letters, by which names are compared. -/
def fold (s : String) : String := String.ofList (s.toList.map Char.toLower)

/-- Whether two names are the same, whatever the case of their ASCII letters. -/
def sameName (s t : String) : Bool := fold s == fold t

/-- The token in lower case, if it is a word. Keywords are compared in that form. -/
def word? (t : Token) : Option String :=
  if t.kind = .word then some (String.ofList (t.text.map Char.toLower)) else none

/-- Whether a token is the given symbol. -/
def isSymbol (t : Token) (s : String) : Bool := t.kind == .symbol && String.ofList t.text == s

/-- Whether a token is the given keyword, written here in lower case. -/
def isKeyword (t : Token) (s : String) : Bool := t.word? == some s

/-- The inside of a quoted text, where a doubled quote stands for one. -/
def unquoteWith (quote : Char) : List Char → List Char
  | [] => []
  | [c] => if c = quote then [] else [c]
  | c :: d :: r =>
    if c = quote then if d = quote then quote :: unquoteWith quote r else []
    else c :: unquoteWith quote (d :: r)

/-- The text of a quoted token without its quotes. A bracket has no way to stand for itself. -/
def unquoted (t : Token) : String :=
  match t.text with
  | '[' :: r => String.ofList (r.takeWhile (· != ']'))
  | quote :: r => String.ofList (unquoteWith quote r)
  | [] => ""

/-- The words that stand for something else than a name wherever they stand. -/
def reservedWords : List String :=
  ["add", "all", "alter", "and", "as", "autoincrement", "between", "case", "check", "collate",
    "commit", "constraint", "create", "default", "deferrable", "delete", "distinct", "drop",
    "else", "escape", "except", "exists", "foreign", "from", "group", "having", "in", "index",
    "insert", "intersect", "into", "is", "isnull", "join", "limit", "not", "nothing", "notnull",
    "null", "on", "or", "order", "primary", "references", "returning", "select", "set", "table",
    "then", "to", "transaction", "union", "unique", "update", "using", "values", "when", "where"]

/-- The words that join tables, which are names in some places only. -/
def joinWords : List String := ["cross", "full", "inner", "left", "natural", "outer", "right"]

/-- Whether a token may stand for a name. A text in single quotes may where nothing but a name is
wanted. -/
def isName (t : Token) : Bool :=
  match t.kind with
  | .quotedName => true
  | .string => true
  | .word => !(reservedWords.contains (t.word?.getD ""))
  | _ => false

/-- Whether a token is a name by itself, not a text in quotes. -/
def isIdentifier (t : Token) : Bool := t.isName && t.kind != .string

/-- The name that a token stands for: the word itself, or the inside of the quotes. -/
def name (t : Token) : String :=
  match t.kind with
  | .word => String.ofList t.text
  | _ => t.unquoted

/-- The place behind a token, in bytes, where the next one may start. -/
def stop (t : Token) : Nat := t.offset + Text.byteLength t.text

end Token

end NamedSql.Sql
