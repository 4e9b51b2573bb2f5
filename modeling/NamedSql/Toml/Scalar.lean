import NamedSql.Number.Decimal
import NamedSql.Text.Blank

/-!
# TOML scalars

Texts, numbers, truth values and dates of a TOML document, and the cursor with which a document is
read.

## Scope

A date is only recognised, not kept. An integer outside of 64 bits is an error, as is a decimal
that rounds to the positive infinity.

## Main definitions

* `Cursor` — what is left of a document, and how many bytes lie behind
* `Scalar` — the scalars that are kept
* `Scalar.text?`, `Scalar.plain?` — a scalar with quotes and one without
-/

namespace NamedSql.Toml

/-- A place in a document. What was read before it is told by a number of bytes alone. -/
structure Cursor where
  /-- The number of bytes before this place, from which it is told where in the document a value
  stands. -/
  pos : Nat
  /-- The text from this place on, which is all that is still to be read. -/
  rest : List Char
deriving DecidableEq, Repr

namespace Cursor

/-- The place behind a text that stands here, given what is left behind it. -/
def skip (c : Cursor) (passed rest : List Char) : Cursor := ⟨c.pos + Text.byteLength passed, rest⟩

/-- The place behind the longest run of characters with a property, and the run. -/
def takeWhile (c : Cursor) (p : Char → Bool) : List Char × Cursor :=
  let run := c.rest.takeWhile p
  (run, c.skip run (c.rest.dropWhile p))

/-- The place behind one given character, if it stands here. Otherwise nothing is read. -/
def char? (c : Cursor) (x : Char) : Option Cursor :=
  match c.rest with
  | y :: r => if y = x then some (c.skip [x] r) else none
  | [] => none

/-- The place behind a given text, if it stands here as a whole. -/
def literal? (c : Cursor) : List Char → Option Cursor
  | [] => some c
  | x :: xs =>
    match c.char? x with
    | some c => literal? c xs
    | none => none

/-- Whether a character is a blank of a line: a space or a tab. -/
def isGap (x : Char) : Bool := x == ' ' || x == '\t'

/-- The place behind the blanks that stand here, which is this place if there are none. -/
def skipGap (c : Cursor) : Cursor := (c.takeWhile isGap).2

end Cursor

/-- A scalar of a document. A date carries nothing, since nothing that is read makes use of one. -/
inductive Scalar where
  | text (s : String)
  | integer (n : Int)
  | real (x : Binary64)
  | bool (b : Bool)
  | date
deriving DecidableEq, Repr

namespace Scalar

/-! ### Texts -/

/-- Whether a character may stand in a comment or a text: no control character but the tab. -/
def isPrintable (x : Char) : Bool := x == '\t' || (0x20 ≤ x.toNat && x.toNat != 0x7F)

/-- The value of a hexadecimal digit, whose letters may be of either case. -/
def hexValue? (x : Char) : Option Nat :=
  if '0' ≤ x && x ≤ '9' then some (x.toNat - 48)
  else if 'a' ≤ x && x ≤ 'f' then some (x.toNat - 87)
  else if 'A' ≤ x && x ≤ 'F' then some (x.toNat - 55)
  else none

/-- The character that hexadecimal digits stand for, if their number is that of a character. -/
def charOfHex? (digits : List Char) : Option Char := do
  let values ← digits.mapM hexValue?
  let n := values.foldl (fun n d => 16 * n + d) 0
  if n.isValidChar then some (Char.ofNat n) else none

/-- The character that an escape stands for, and what follows the escape. The backslash itself is
already passed. -/
def escape? : List Char → Option (Char × List Char)
  | 'b' :: r => some ('\x08', r)
  | 't' :: r => some ('\t', r)
  | 'n' :: r => some ('\n', r)
  | 'f' :: r => some ('\x0c', r)
  | 'r' :: r => some ('\r', r)
  | '"' :: r => some ('"', r)
  | '\\' :: r => some ('\\', r)
  | 'u' :: a :: b :: c :: d :: r => (charOfHex? [a, b, c, d]).map (·, r)
  | 'U' :: a :: b :: c :: d :: e :: f :: g :: h :: r =>
    (charOfHex? [a, b, c, d, e, f, g, h]).map (·, r)
  | _ => none

/-- What follows a line end. A carriage return is a part of it, but no line end by itself. -/
def afterNewline? : List Char → Option (List Char)
  | '\n' :: r => some r
  | '\r' :: '\n' :: r => some r
  | _ => none

/-- The text without blanks and line ends at its start, as it goes on behind a joined line. -/
def skipBlankLines : List Char → List Char
  | ' ' :: r => skipBlankLines r
  | '\t' :: r => skipBlankLines r
  | '\n' :: r => skipBlankLines r
  | '\r' :: '\n' :: r => skipBlankLines r
  | r => r

/-- The rest of a text on one line, up to its closing quote, and what follows the quote. The first
argument bounds the number of characters read. -/
def basicBody? : Nat → List Char → Option (List Char × List Char)
  | 0, _ => none
  | _, [] => none
  | fuel + 1, x :: r =>
    if x = '"' then some ([], r)
    else if x = '\\' then do
      let (y, r) ← escape? r
      let (ys, r) ← basicBody? fuel r
      return (y :: ys, r)
    else if isPrintable x then do
      let (ys, r) ← basicBody? fuel r
      return (x :: ys, r)
    else none

/-- The rest of a raw text on one line, up to its closing quote, and what follows the quote. Nothing
is escaped in it. -/
def rawBody? : List Char → Option (List Char × List Char)
  | [] => none
  | x :: r =>
    if x = '\x27' then some ([], r)
    else if isPrintable x then do
      let (ys, r) ← rawBody? r
      return (x :: ys, r)
    else none

/-- The rest of a text over several lines, up to its three closing quotes. Up to two quotes more
belong to the text. A backslash at the end of a line joins the line to the next that is not
blank. -/
def blockBody? : Nat → List Char → Option (List Char × List Char)
  | 0, _ => none
  | _, [] => none
  | fuel + 1, x :: r =>
    if x = '"' then
      match r with
      | '"' :: '"' :: '"' :: '"' :: r => some (['"', '"'], r)
      | '"' :: '"' :: '"' :: r => some (['"'], r)
      | '"' :: '"' :: r => some ([], r)
      | _ => do
        let (ys, r) ← blockBody? fuel r
        return ('"' :: ys, r)
    else if x = '\\' then
      match afterNewline? (r.dropWhile Cursor.isGap) with
      | some r => blockBody? fuel (skipBlankLines r)
      | none => do
        let (y, r) ← escape? r
        let (ys, r) ← blockBody? fuel r
        return (y :: ys, r)
    else
      match afterNewline? (x :: r) with
      | some r => do
        let (ys, r) ← blockBody? fuel r
        return ('\n' :: ys, r)
      | none =>
        if isPrintable x then do
          let (ys, r) ← blockBody? fuel r
          return (x :: ys, r)
        else none

/-- The rest of a raw text over several lines, up to its three closing quotes. Nothing is escaped in
it, and no lines are joined. -/
def rawBlockBody? : Nat → List Char → Option (List Char × List Char)
  | 0, _ => none
  | _, [] => none
  | fuel + 1, x :: r =>
    if x = '\x27' then
      match r with
      | '\x27' :: '\x27' :: '\x27' :: '\x27' :: r => some (['\x27', '\x27'], r)
      | '\x27' :: '\x27' :: '\x27' :: r => some (['\x27'], r)
      | '\x27' :: '\x27' :: r => some ([], r)
      | _ => do
        let (ys, r) ← rawBlockBody? fuel r
        return ('\x27' :: ys, r)
    else
      match afterNewline? (x :: r) with
      | some r => do
        let (ys, r) ← rawBlockBody? fuel r
        return ('\n' :: ys, r)
      | none =>
        if isPrintable x then do
          let (ys, r) ← rawBlockBody? fuel r
          return (x :: ys, r)
        else none

/-- The characters of a text that lie before what is left of it, which is one of its ends. -/
def passed (whole rest : List Char) : List Char := whole.take (whole.length - rest.length)

/-- A line end that stands here is passed over, as the one right behind three opening quotes is. -/
def dropNewline (r : List Char) : List Char := (afterNewline? r).getD r

/-- A text on one line, with quotes of either sort. Which sort opens it decides whether escapes
count. -/
def lineText? (c : Cursor) : Option (String × Cursor) := do
  let (body, rest) ←
    match c.rest with
    | '"' :: r => basicBody? (r.length + 1) r
    | '\x27' :: r => rawBody? r
    | _ => none
  return (String.ofList body, c.skip (passed c.rest rest) rest)

/-- A text with quotes: over several lines if there are three of them, and on one line otherwise. -/
def text? (c : Cursor) : Option (String × Cursor) :=
  match c.rest with
  | '"' :: '"' :: '"' :: r => do
    let (body, rest) ← blockBody? (r.length + 1) (dropNewline r)
    return (String.ofList body, c.skip (passed c.rest rest) rest)
  | '\x27' :: '\x27' :: '\x27' :: r => do
    let (body, rest) ← rawBlockBody? (r.length + 1) (dropNewline r)
    return (String.ofList body, c.skip (passed c.rest rest) rest)
  | _ => lineText? c

/-! ### Scalars without quotes -/

/-- Digits with single underscores between them, as a run without the underscores. An underscore has
a digit on either side. -/
def digits? (ok : Char → Bool) : List Char → Option (List Char)
  | [] => none
  | [x] => if ok x then some [x] else none
  | x :: '_' :: r => if ok x then (digits? ok r).map (x :: ·) else none
  | x :: y :: r => if ok x then (digits? ok (y :: r)).map (x :: ·) else none

/-- The number that digits stand for in a base, the first digit counting most. -/
def natOf (base : Nat) (digits : List Char) : Nat :=
  digits.foldl (fun n d => base * n + (hexValue? d).getD 0) 0

/-- A decimal digit, of the ten that every number is written with. -/
def isDigit (x : Char) : Bool := '0' ≤ x && x ≤ '9'

/-- Decimal digits that make an integer: no zero stands before other digits. -/
def decimal? (word : List Char) : Option (List Char) :=
  match digits? isDigit word with
  | some ('0' :: _ :: _) => none
  | digits => digits

/-- An integer, if it fits into 64 bits. A document with a larger one is wrong. -/
def inRange? (n : Int) : Option Int :=
  if Int64.minValue.toInt ≤ n ∧ n ≤ Int64.maxValue.toInt then some n else none

/-- The sign of a word, and the word without it. A word without a sign counts as positive. -/
def signed : List Char → Bool × List Char
  | '-' :: r => (true, r)
  | '+' :: r => (false, r)
  | r => (false, r)

/-- An integer in one of the four bases. Only one in base ten may have a sign. -/
def integer? (word : List Char) : Option Int :=
  match word with
  | '0' :: 'x' :: r =>
    (digits? (fun x => (hexValue? x).isSome) r).bind fun ds => inRange? (natOf 16 ds)
  | '0' :: 'o' :: r =>
    (digits? (fun x => '0' ≤ x && x ≤ '7') r).bind fun ds => inRange? (natOf 8 ds)
  | '0' :: 'b' :: r =>
    (digits? (fun x => '0' ≤ x && x ≤ '1') r).bind fun ds => inRange? (natOf 2 ds)
  | word => do
    let (negative, word) := signed word
    let n : Int := natOf 10 (← decimal? word)
    inRange? (if negative then -n else n)

/-- A decimal number with a fraction, an exponent or both, or one of the words for an infinity and
for no number. -/
def real? (word : List Char) : Option Binary64 := do
  let (negative, word) := signed word
  let magnitude ←
    match word with
    | ['i', 'n', 'f'] => some ⟨0x7FF0000000000000⟩
    | ['n', 'a', 'n'] => some ⟨0x7FF8000000000000⟩
    | word => do
      let isMark := fun x => x == 'e' || x == 'E'
      let mantissa := word.takeWhile fun x => !isMark x
      let whole ← decimal? (mantissa.takeWhile (· != '.'))
      let (point, fraction) ←
        match mantissa.dropWhile (· != '.') with
        | [] => some (false, [])
        | _ :: r => (digits? isDigit r).map (true, ·)
      let (marked, exponent) ←
        match word.dropWhile (fun x => !isMark x) with
        | [] => some (false, (0 : Int))
        | _ :: r => do
          let (down, r) := signed r
          let n : Int := natOf 10 (← digits? isDigit r)
          some (true, if down then -n else n)
      if !point && !marked then none
      let digits := natOf 10 (whole ++ fraction)
      let x := if digits = 0 then ⟨0⟩ else
        if exponent < -100000 then ⟨0⟩
        else if 100000 < exponent then ⟨0x7FF0000000000000⟩
        else Binary64.ofDecimal digits (exponent - fraction.length)
      if x.isFinite || negative then some x else none
  return if negative then magnitude.neg else magnitude

/-- Exactly two digits, as a number, and what follows. Times and dates are made of such pairs. -/
def twoDigits? : List Char → Option (Nat × List Char)
  | a :: b :: r => if isDigit a && isDigit b then some (natOf 10 [a, b], r) else none
  | _ => none

/-- What follows a time of day: hours, minutes and seconds within their bounds, perhaps with a
fraction of a second. -/
def afterTime? (r : List Char) : Option (List Char) := do
  let (hour, r) ← twoDigits? r
  let r ← match r with | ':' :: r => some r | _ => none
  let (minute, r) ← twoDigits? r
  let r ← match r with | ':' :: r => some r | _ => none
  let (second, r) ← twoDigits? r
  if 23 < hour || 59 < minute || 60 < second then none
  match r with
  | '.' :: r => if (r.takeWhile isDigit).isEmpty then none else some (r.dropWhile isDigit)
  | r => some r

/-- What follows the offset of a time, if there is one: a letter for none, or hours and minutes with
a sign. -/
def afterOffset? (r : List Char) : Option (List Char) :=
  match r with
  | 'Z' :: r | 'z' :: r => some r
  | '+' :: r | '-' :: r => do
    let (hour, r) ← twoDigits? r
    let r ← match r with | ':' :: r => some r | _ => none
    let (minute, r) ← twoDigits? r
    if 23 < hour || 59 < minute then none else some r
  | r => some r

/-- The number of days in a month, of which the second one has a day more in leap years. -/
def daysIn (year month : Nat) : Nat :=
  if month = 2 then if (year % 4 = 0 ∧ year % 100 ≠ 0) ∨ year % 400 = 0 then 29 else 28
  else if month ∈ [4, 6, 9, 11] then 30
  else 31

/-- What follows a date, a date with a time, or a time. A blank between them joins them only if a
time follows. -/
def afterDate? (word : List Char) : Option (List Char) :=
  match afterTime? word with
  | some r => some r
  | none => do
    let (century, r) ← twoDigits? word
    let (years, r) ← twoDigits? r
    let r ← match r with | '-' :: r => some r | _ => none
    let (month, r) ← twoDigits? r
    let r ← match r with | '-' :: r => some r | _ => none
    let (day, r) ← twoDigits? r
    if month < 1 || 12 < month || day < 1 || daysIn (100 * century + years) month < day then none
    match r with
    | x :: t =>
      if x == 'T' || x == 't' then afterTime? t >>= afterOffset?
      else if x == ' ' then
        match afterTime? t with
        | some t => afterOffset? t
        | none => some r
      else some r
    | [] => some []

/-- Whether a character may stand in a number or a word. Dates are looked for before words are. -/
def isWordChar (x : Char) : Bool :=
  isDigit x || ('a' ≤ x && x ≤ 'z') || ('A' ≤ x && x ≤ 'Z') || x == '_' || x == '+' || x == '-' ||
    x == '.' || x == ':'

/-- A scalar without quotes: a truth value, a number or a date, tried in turn. -/
def plain? (c : Cursor) : Option (Scalar × Cursor) :=
  let (word, after) := c.takeWhile isWordChar
  match word with
  | ['t', 'r', 'u', 'e'] => some (.bool true, after)
  | ['f', 'a', 'l', 's', 'e'] => some (.bool false, after)
  | _ =>
    match afterDate? c.rest with
    | some rest => some (.date, c.skip (passed c.rest rest) rest)
    | none =>
      match integer? word with
      | some n => some (.integer n, after)
      | none => (real? word).map fun x => (.real x, after)

end Scalar

end NamedSql.Toml
