import NamedSql.Sql.Affinity
import NamedSql.Sql.Expr
import NamedSql.Sql.Fault
import NamedSql.Sql.Token

/-!
# The grammar

How tokens make statements. A text is read from left to right with one token of look-ahead, and
the first token that cannot continue what stands before it is the fault. A text that merely stops
too early is incomplete.

## Scope

Expressions are nested, so their reading is bounded by a number that is computed from the number
of tokens: every level of nesting and every operator takes a token of its own.

## Main definitions

* `Reader`, `Read` — the tokens that are left, with the parameters seen so far
* `Grammar.expr`, `Grammar.select`, `Grammar.statement` — the grammar
* `Statement.read` — the first statement of a text, and where it ends
-/

namespace NamedSql.Sql

/-- A text that is being read: what is left of it, and what has been learnt of its parameters. -/
structure Reader where
  source : List Char
  /-- The tokens that are left. The first of them is the one that reading looks at. -/
  rest : List Token
  /-- The names of the parameters seen so far, by number; one that is only numbered has none. -/
  parameters : List (Option String)

/-- Reads something off a text, or tells of the fault in it. There is no way back to tokens that
were taken. -/
abbrev Read := StateT Reader (Except Fault)

namespace Grammar

/-! ### Tokens -/

/-- The fault of a token that cannot stand here. A text that ends where a token is wanted is merely
incomplete. -/
def faultAt : List Token → Fault
  | [] => .incomplete
  | t :: _ =>
    let text := String.ofList t.text
    if t.kind = .illegal then .unrecognizedToken text t.offset else .syntaxError text t.offset

/-- The next token cannot stand here, so nothing that begins as the text does is a statement. -/
def fail {α : Type} : Read α := fun r => .error (faultAt r.rest)

/-- The next token, if there is one, which is left where it is. -/
def peek : Read (Option Token) := do return (← get).rest.head?

/-- Leaves tokens behind, which were looked at before. -/
def skip (n : Nat) : Read Unit := modify fun r => { r with rest := r.rest.drop n }

/-- Takes the next token if it satisfies a condition. Otherwise the token stays, and something else
may take it. -/
def take? (p : Token → Bool) : Read (Option Token) := do
  match ← peek with
  | some t => if p t then do skip 1; return some t else return none
  | none => return none

/-- Takes the next token, which must satisfy a condition. The text is at fault where the token does
not. -/
def take (p : Token → Bool) : Read Token := do
  match ← take? p with
  | some t => return t
  | none => fail

/-- Takes a keyword if it is there, in whichever case it is written. -/
def word? (s : String) : Read Bool := do return (← take? (·.isKeyword s)).isSome

/-- Takes a keyword, which must be there, in whichever case it is written. -/
def word (s : String) : Read Unit := do let _ ← take (·.isKeyword s)

/-- Takes a symbol if it is there, and tells whether it was. -/
def symbol? (s : String) : Read Bool := do return (← take? (·.isSymbol s)).isSome

/-- Takes a symbol, which must be there. -/
def symbol (s : String) : Read Unit := do let _ ← take (·.isSymbol s)

/-- Takes a name, which may be quoted, and drops the quotes. Many keywords are names where no
keyword is wanted. -/
def name : Read String := do return (← take Token.isName).name

/-- Where the next token starts, or the text ends. A text that is read ends at its first NUL. -/
def here : Read Nat := do
  let r ← get
  match r.rest with
  | t :: _ => return t.offset
  | [] => return Text.byteLength (r.source.takeWhile (· != '\x00'))

/-- The characters behind the first `n` bytes. Places in a text are counted in bytes, and its
characters may take several. -/
def dropBytes : Nat → List Char → List Char
  | _, [] => []
  | n, c :: r => if n = 0 then c :: r else dropBytes (n - c.utf8Size) r

/-- The characters of the first `n` bytes, and the whole of one that starts within them. -/
def takeBytes : Nat → List Char → List Char
  | _, [] => []
  | n, c :: r => if n = 0 then [] else c :: takeBytes (n - c.utf8Size) r

/-- The text between two places, without the blanks around it. Names of results and conditions are
told by what was written. -/
def between (start stop : Nat) : Read String := do
  let cs := takeBytes (stop - start) (dropBytes start (← get).source)
  let cs := cs.dropWhile Token.isSpace
  return String.ofList (cs.reverse.dropWhile Token.isSpace).reverse

/-- Items separated by commas, at least one; the bound is on their number. -/
def separated {α : Type} (item : Read α) : Nat → Read (List α)
  | 0 => fail
  | n + 1 => do
    let a ← item
    if ← symbol? "," then return a :: (← separated item n) else return [a]

/-! ### Parameters -/

/-- The greatest number that a parameter may have, whether it is written or counted. -/
def greatestParameter : Nat := 32766

/-- Sets the name of the parameter with an index, unless it has one. Parameters below it that have
not been seen get no name. -/
def nameParameter (names : List (Option String)) (i : Nat) (name : String) :
    List (Option String) :=
  let names := names ++ List.replicate (i + 1 - names.length) none
  names.modify i fun old => some (old.getD name)

/-- The number of a parameter. Without a number or a name it is the next one; a name keeps the
number that it was first given. -/
def parameter (t : Token) : Read Nat := do
  let r ← get
  let text := String.ofList t.text
  match t.text with
  | ['?'] => next r none
  | '?' :: digits =>
    let n := digitsValue digits 0
    if n = 0 ∨ greatestParameter < n then throw (.parameterNumber t.offset)
    set { r with parameters := nameParameter r.parameters (n - 1) text }
    return n
  | '#' :: d :: _ =>
    if Token.isDigit d then throw (.syntaxError text t.offset)
    named r text
  | _ => named r text
where
  /-- The number of a parameter with a name: the one that the name got first, or the next one if the
  name is new. -/
  named (r : Reader) (text : String) : Read Nat := do
    match r.parameters.findIdx? (· == some text) with
    | some i => return i + 1
    | none => next r (some text)
  /-- The number of the parameter after all others, up to the greatest that there may be. -/
  next (r : Reader) (name : Option String) : Read Nat := do
    if greatestParameter ≤ r.parameters.length then throw (.tooManyParameters t.offset)
    set { r with parameters := r.parameters ++ [name] }
    return r.parameters.length + 1

/-! ### Literals -/

/-- The bytes that pairs of hexadecimal digits stand for. The tokenizer sees to it that no digit is
left over. -/
def hexBytes : List Char → List UInt8
  | a :: b :: r => UInt8.ofNat (16 * Token.hexDigit a + Token.hexDigit b) :: hexBytes r
  | _ => []

/-- The literal that a token is, if it is one. A keyword is none but for the one that stands for
nothing. -/
def literal? (t : Token) : Option Literal :=
  match t.kind with
  | .string => some (.value (.text t.unquoted))
  | .blob => some (.value (.blob (hexBytes ((t.text.drop 2).takeWhile Token.isHexDigit))))
  | .integer =>
    match t.text with
    | '0' :: 'x' :: ds | '0' :: 'X' :: ds =>
      some (.hexadecimal (Token.hexValue ds) (String.ofList t.text))
    | ds =>
      if digitsValue ds 0 = 1 <<< 63 then some .leastMagnitude
      else (unsignedNumber false ds).map fun p => .value p.1
  | .real => (unsignedNumber false t.text).map fun p => .value p.1
  | .word => if t.isKeyword "null" then some (.value .null) else none
  | _ => none

/-! ### Expressions -/

/-- The operator that tokens start with, its precedence and its length in tokens. Operators of
greater precedence bind closer. -/
def operator? : List Token → Option (BinaryOp × Nat × Nat)
  | [] => none
  | t :: r =>
    if t.isKeyword "or" then some (.or, 1, 1)
    else if t.isKeyword "and" then some (.and, 2, 1)
    else if t.isSymbol "=" || t.isSymbol "==" then some (.eq, 4, 1)
    else if t.isSymbol "<>" || t.isSymbol "!=" then some (.ne, 4, 1)
    else if t.isKeyword "is" then
      if (r.head?.map (·.isKeyword "not")).getD false then some (.isNot, 4, 2)
      else some (.is, 4, 1)
    else if t.isSymbol "<" then some (.lt, 5, 1)
    else if t.isSymbol "<=" then some (.le, 5, 1)
    else if t.isSymbol ">" then some (.gt, 5, 1)
    else if t.isSymbol ">=" then some (.ge, 5, 1)
    else if t.isSymbol "+" then some (.add, 7, 1)
    else if t.isSymbol "-" then some (.subtract, 7, 1)
    else if t.isSymbol "||" then some (.join, 9, 1)
    else none

/-- The greatest number of arguments that a function may be given. It is checked once all of them
have been read. -/
def greatestArgumentCount : Nat := 127

/-- The precedence of what a negation reaches over: comparisons, but neither conjunctions nor
alternatives. -/
def notPrecedence : Nat := 3

/-- The name that another expression gets, if one is given. Without the word for it, a keyword that
may follow is not taken as a name. -/
def label? : Read (Option String) := do
  if ← word? "as" then return some (← name)
  let plain (t : Token) : Bool := t.isName && !(Token.joinWords.contains (t.word?.getD ""))
  return (← take? plain).map Token.name

/-- The table that a query reads, and the name that stands for it in the query, if there is one. -/
def source : Read Source := do
  let table ← name
  return ⟨table, ← label?⟩

/-! #### Nesting

The symbols that have been read and do not make a whole yet wait on top of each other. The functions
below know the place at which the first symbol of what they read comes to wait, less one. -/

/-- The last place at which a symbol may wait. A text that makes more symbols wait is nested too
deeply. -/
def lastPlace : Nat := 99

/-- Symbols wait up to a place, which must not be beyond the last one. -/
def wait (place : Nat) : Read Unit := do if lastPlace < place then throw .nestedTooDeeply

/-- An expression that does not have too many levels. Levels are counted in what was read, so
parentheses make none. -/
def levelled (e : Expr) : Read Expr := do
  if greatestHeight < e.height then throw .tooManyLevels
  return e

/-- Items separated by commas, the later ones at another place, since the items before wait as one
symbol. -/
def separatedAt {α : Type} (item : Nat → Read α) (first later : Nat) : Nat → Read (List α)
  | 0 => fail
  | n + 1 => do
    let a ← item first
    if ← symbol? "," then
      wait later
      return a :: (← separatedAt item later later n)
    else return [a]

mutual

/-- An expression whose operators have at least the given precedence. Operators of equal precedence
are taken from left to right. -/
def expr (place : Nat) : Nat → Nat → Read Expr
  | 0, _ => fail
  | n + 1, least => do
    let left ← operand place n
    extend place n least left

/-- An expression that starts with the given one, as far as operators of at least the given
precedence follow. -/
def extend (place : Nat) : Nat → Nat → Expr → Read Expr
  | 0, _, left => pure left
  | n + 1, least, left => do
    match operator? (← get).rest with
    | none => return left
    | some (op, precedence, length) =>
      if precedence < least then return left
      skip length
      wait (place + 1 + length)
      let right ← expr (place + 1 + length) n (precedence + 1)
      let e := if op = .and then left.both right else .binary op left right
      extend place n least (← levelled e)

/-- An operand: a literal, a parameter, a name, a call, or something in parentheses, perhaps behind
a sign or a negation. -/
def operand (place : Nat) : Nat → Read Expr
  | 0 => fail
  | n + 1 => do
    let some t ← peek | fail
    if t.kind = .parameter then
      skip 1
      wait (place + 1)
      return .parameter (← parameter t) t.offset
    if let some l := literal? t then
      skip 1
      wait (place + 1)
      return .literal l t.offset
    if t.isKeyword "not" then
      skip 1
      wait (place + 1)
      levelled (.not (← expr (place + 1) n notPrecedence))
    else if t.isSymbol "-" then
      skip 1
      wait (place + 1)
      levelled (.negate (← operand (place + 1) n))
    else if t.isSymbol "+" then
      skip 1
      wait (place + 1)
      levelled (.plus (← operand (place + 1) n))
    else if t.isSymbol "(" then
      skip 1
      wait (place + 1)
      match ← peek with
      | some s =>
        if s.isKeyword "select" then
          let e := Expr.scalar s.offset (← select (place + 2) n)
          symbol ")"
          levelled e
        else do
          let e ← expr (place + 1) n 0
          symbol ")"
          wait (place + 3)
          return e
      | none => fail
    else if t.isIdentifier then
      skip 1
      wait (place + 1)
      if ← symbol? "(" then call place n t
      else if ← symbol? "." then
        wait (place + 2)
        let column ← name
        wait (place + 3)
        return .column ⟨some t.name, column, false, t.offset⟩
      else return .column ⟨none, t.name, t.text.head? == some '"', t.offset⟩
    else fail

/-- The call of a function, from behind the opening parenthesis on. -/
def call (place : Nat) : Nat → Token → Read Expr
  | 0, _ => fail
  | n + 1, t => do
    wait (place + 2)
    if ← symbol? ")" then
      wait (place + 5)
      return .call t.name t.offset []
    if ← symbol? "*" then
      symbol ")"
      wait (place + 4)
      return .call t.name t.offset []
    wait (place + 3)
    let arguments ← separatedAt (fun place => expr place n 0) (place + 3) (place + 5) n
    symbol ")"
    wait (place + 5)
    if greatestArgumentCount < arguments.length then
      if ((← peek).map (·.kind == .illegal)).getD false then fail
      throw (.tooManyArguments t.name t.offset)
    levelled (.call t.name t.offset arguments)

/-- One of the things that a query returns: all columns, those of a table, or a value with the text
it was written as. -/
def resultColumn (place : Nat) : Nat → Read ResultColumn
  | 0 => fail
  | n + 1 => do
    if ← symbol? "*" then return .everything
    match (← get).rest with
    | t :: dot :: star :: _ =>
      if t.isName && dot.isSymbol "." && star.isSymbol "*" then
        skip 3
        return .allOf t.name
    | _ => pure ()
    let start ← here
    let e ← expr place n 0
    let written ← between start (← here)
    return .value e (← label?) written

/-- What rows are ordered by, in ascending order unless the text says otherwise. -/
def orderTerm (place : Nat) : Nat → Read OrderTerm
  | 0 => fail
  | n + 1 => do
    let e ← expr place n 0
    wait (place + 3)
    if ← word? "asc" then return ⟨e, false⟩
    return ⟨e, ← word? "desc"⟩

/-- A query, whose first symbol waits at the given place. A subquery waits behind what it is a part
of. -/
def select (place : Nat) : Nat → Read Select
  | 0 => fail
  | n + 1 => do
    word "select"
    let columns ← separatedAt (resultColumn · n) (place + 3) (place + 3) n
    let source ← if ← word? "from" then some <$> source else pure none
    let condition ← if ← word? "where" then some <$> expr (place + 4) n 0 else pure none
    let order ←
      if ← word? "order" then do
        wait (place + 7)
        word "by"
        separatedAt (orderTerm · n) (place + 8) (place + 10) n
      else pure []
    wait (place + 8)
    return .mk columns source condition order

end

/-! ### Statements -/

/-- A condition behind other symbols, if there is one. Without it every row is meant. -/
def condition? (place n : Nat) : Read (Option Expr) := do
  if ← word? "where" then return some (← expr place n 0) else return none

/-- What a change returns, if it returns something: the same things that a query may return. -/
def returning (place n : Nat) : Read (List ResultColumn) := do
  if ← word? "returning" then separatedAt (resultColumn · n) place place n else return []

/-- What happens on a conflict, if the statement says so. Otherwise the statement fails and is
undone. -/
def conflict : Read Conflict := do
  if ← word? "or" then
    if ← word? "rollback" then return .rollback
    if ← word? "abort" then return .abort
    if ← word? "fail" then return .fail
    if ← word? "ignore" then return .ignore
    word "replace"
    return .replace
  else return .abort

/-- The values of a row, in parentheses that open at the given place. -/
def row (n place : Nat) : Read (List Expr) := do
  symbol "("
  let values ← separatedAt (fun place => expr place n 0) place (place + 2) n
  symbol ")"
  return values

/-- An insertion, from its table on. Nothing but the given number of symbols waits before it. -/
def insertInto (before n : Nat) (conflict : Conflict) : Read Insert := do
  word "into"
  let table ← name
  let columns ←
    if ← symbol? "(" then do
      let columns ← separated name n
      symbol ")"
      pure (some columns)
    else pure none
  word "values"
  let rows ← separatedAt (row n) (before + 7) (before + 8) n
  return ⟨table, conflict, columns, rows, ← returning (before + 9) n⟩

/-- A column with its new value. That the table has such a column is looked at later. -/
def assignment (n place : Nat) : Read (String × Expr) := do
  let column ← name
  symbol "="
  return (column, ← expr place n 0)

/-- A change of rows, from behind its keyword on: the answer to a conflict, the table, new values,
and which rows are meant. -/
def update (before n : Nat) : Read Update := do
  let conflict ← conflict
  let table ← name
  word "set"
  let assignments ← separatedAt (assignment n) (before + 8) (before + 10) n
  let condition ← condition? (before + 9) n
  let returned ← returning (before + if condition.isSome then 13 else 11) n
  return ⟨table, conflict, assignments, condition, returned⟩

/-- A deletion of rows, from behind its keyword on. It has no answer to a conflict, since none can
arise. -/
def delete (before n : Nat) : Read Delete := do
  word "from"
  let table ← name
  let condition ← condition? (before + 6) n
  return ⟨table, condition, ← returning (before + if condition.isSome then 10 else 8) n⟩

/-- A number with an optional sign. A number that is too large for its digits counts as nothing
here. -/
def signedNumber : Read Value := do
  let negative ← symbol? "-"
  if !negative then let _ ← symbol? "+"
  let t ← take fun t => t.kind == .integer || t.kind == .real
  let value := (literal? t).bind fun l =>
    if negative then l.negated? t.offset else some (l.eval t.offset)
  return (value.bind Except.toOption).getD .null

/-- The words of a type, up to the bound, and whether there are any. The words themselves are told
by the text between their ends. -/
def typeWords : Nat → Read Bool
  | 0 => return false
  | n + 1 => do
    match ← take? Token.isName with
    | none => return false
    | some _ =>
      let _ ← typeWords n
      return true

/-- The declared type of a column, which may be empty. Numbers behind it in parentheses are a part
of its text and mean nothing. -/
def columnType (n : Nat) : Read String := do
  let start ← here
  if ← typeWords n then
    if ← symbol? "(" then
      let _ ← separated signedNumber 2
      symbol ")"
  between start (← here)

/-- A rule of a column, if one stands here. The name is that of the rule, which only the fault of a
condition tells. -/
def columnRule? (place n : Nat) (label : Option String) : Read (Option ColumnRule) := do
  if ← word? "primary" then
    word "key"
    if ← word? "asc" then return some (.primaryKey false)
    return some (.primaryKey (← word? "desc"))
  if ← word? "unique" then return some .unique
  if ← word? "not" then
    if ← word? "deferrable" then
      if ← word? "initially" then
        if !(← word? "deferred") then word "immediate"
      return some (.deferred false)
    word "null"
    return some .notNull
  if ← word? "default" then
    match (← peek).map fun t => t.kind == .symbol with
    | some true => return some (.default (← signedNumber))
    | _ =>
      let t ← take fun t => (literal? t).isSome || t.isIdentifier
      let value := (literal? t).bind fun l => (l.eval t.offset).toOption
      return some (.default (value.getD (.text t.name)))
  if ← word? "check" then
    symbol "("
    let start ← here
    let e ← expr place n 0
    let written ← between start (← here)
    symbol ")"
    return some (.check e (label.getD written))
  if ← word? "references" then
    let parent ← name
    if ← symbol? "(" then
      let column ← name
      symbol ")"
      return some (.references parent (some column))
    return some (.references parent none)
  if ← word? "deferrable" then
    if ← word? "initially" then
      if ← word? "deferred" then return some (.deferred true)
      word "immediate"
    return some (.deferred false)
  return none

/-- The rules of a column, up to the bound, in the order in which they are written. -/
def columnRules (place n : Nat) : Nat → Read (List ColumnRule)
  | 0 => return []
  | k + 1 => do
    let label ← if ← word? "constraint" then some <$> name else pure none
    match ← columnRule? place n label with
    | none => return []
    | some rule => return rule :: (← columnRules place n k)

/-- The definition of a column: its name, its declared type and its rules, of which the last two may
be missing. -/
def columnDefinition (n place : Nat) : Read ColumnDefinition := do
  let column ← name
  let type ← columnType n
  return ⟨column, type, ← columnRules place n n⟩

/-- The creation of a table, from the keyword for the table on. -/
def createTable (before n : Nat) : Read CreateTable := do
  word "table"
  let ifNotExists ← word? "if"
  if ifNotExists then
    word "not"
    word "exists"
  let t ← take Token.isName
  symbol "("
  let columns ← separatedAt (columnDefinition n) (before + 6) (before + 8) n
  symbol ")"
  return ⟨t.name, t.offset, ifNotExists, columns⟩

/-- The optional word for a transaction, with an optional name. Neither makes a difference. -/
def transactionName : Read Unit := do
  if ← word? "transaction" then
    let _ ← take? fun t => t.isName && !t.isKeyword "to"

/-- A pragma, from its name on. A value may be given behind an equals sign or in parentheses. -/
def pragma : Read Statement := do
  let key ← name
  if ← symbol? "=" then
    return .pragma key (some (← pragmaValue))
  if ← symbol? "(" then
    let value ← pragmaValue
    symbol ")"
    return .pragma key (some value)
  return .pragma key none
where
  /-- The value that a pragma is given, as it is written: a word or a number with its sign. -/
  pragmaValue : Read String := do
    let isNumber (t : Token) : Bool := t.kind == .integer || t.kind == .real
    if ← symbol? "-" then return "-" ++ String.ofList (← take isNumber).text
    if ← symbol? "+" then return String.ofList (← take isNumber).text
    let t ← take fun t =>
      t.isName || isNumber t || t.isKeyword "on" || t.isKeyword "delete" || t.isKeyword "default"
    return if t.isName then t.name else String.ofList t.text

/-- A statement, before which so many symbols wait. Its first word tells which kind of statement it
is. -/
def statement (before n : Nat) : Read Statement := do
  let some t ← peek | fail
  if t.isKeyword "select" then return .select (← select (before + 1) n)
  if ← word? "insert" then return .insert (← insertInto before n (← conflict))
  if ← word? "replace" then return .insert (← insertInto before n .replace)
  if ← word? "update" then return .update (← update before n)
  if ← word? "delete" then return .delete (← delete before n)
  if ← word? "create" then return .createTable (← createTable before n)
  if ← word? "drop" then
    word "table"
    let ifExists ← word? "if"
    if ifExists then word "exists"
    return .dropTable (← name) ifExists
  if ← word? "alter" then
    word "table"
    let table ← name
    word "add"
    let _ ← word? "column"
    return .addColumn table (← columnDefinition n (before + 9))
  if ← word? "begin" then
    if !(← word? "deferred") then
      if !(← word? "immediate") then let _ ← word? "exclusive"
    transactionName
    return .control .begin
  if t.isKeyword "commit" || t.isKeyword "end" then
    skip 1
    transactionName
    return .control .commit
  if ← word? "rollback" then
    transactionName
    if ← word? "to" then
      savepointWord
      return .control (.rollbackTo (← name))
    return .control .rollback
  if ← word? "savepoint" then return .control (.savepoint (← name))
  if ← word? "release" then
    savepointWord
    return .control (.release (← name))
  if ← word? "pragma" then pragma
  else fail
where
  /-- The optional word for a savepoint, unless it is itself the name, which it is where no name
  follows. -/
  savepointWord : Read Unit := do
    match (← get).rest with
    | t :: u :: _ => if t.isKeyword "savepoint" && u.isName then skip 1
    | _ => pure ()

end Grammar

/-! ### Texts -/

/-- What a text starts with: a statement or nothing, and the byte where the rest starts. -/
structure Statement.Reading where
  parsed : Option Statement.Parsed
  rest : Nat
deriving Inhabited

/-- Reads the first statement of a text, up to the semicolon behind it or to the end. Semicolons
before it are passed over. -/
def Statement.read (text : List Char) : Except Fault Statement.Reading := do
  let scanned := Token.scan text
  let tokens := scanned.dropWhile (·.isSymbol ";")
  let before := if tokens.length < scanned.length then 1 else 0
  let r : Reader := ⟨text, tokens, []⟩
  if tokens.isEmpty then
    let (stop, _) ← Grammar.here r
    return ⟨none, stop⟩
  else
    let (statement, r) ← Grammar.statement before (4 * tokens.length + 8) r
    match r.rest with
    | [] =>
      let (stop, _) ← Grammar.here r
      return ⟨some ⟨statement, r.parameters⟩, stop⟩
    | t :: _ =>
      if t.isSymbol ";" then return ⟨some ⟨statement, r.parameters⟩, t.stop⟩
      else throw (Grammar.faultAt r.rest)

end NamedSql.Sql
