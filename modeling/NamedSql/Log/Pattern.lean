import NamedSql.Text.Alphanumeric

/-!
# Patterns of field values

Whether a text is a pattern with which the value of a field may be compared: alternatives of
sequences of characters, sets of characters, groups and repetitions.

## Scope

Only the form of a pattern is looked at. Nothing here is ever compared with one. Repetitions with a
count and characters given in braces do not occur, because a brace ends the pattern; word boundaries
are refused, since they would depend on the characters around the value.

## Main definitions

* `Pattern.isWellFormed` — whether a text is a pattern
-/

namespace NamedSql.Log.Pattern

/-- The number that hexadecimal digits stand for. -/
def ofHex? (digits : List Char) : Option Nat :=
  digits.foldlM (fun n d =>
    if d.isDigit then some (16 * n + (d.toNat - 48))
    else if 'a' ≤ d.toLower && d.toLower ≤ 'f' then some (16 * n + (d.toLower.toNat - 87))
    else none) 0

/-- What stands for one element: a single character, a class of them, or a place. -/
inductive Element where
  | char (code : Nat)
  | anyOf
  | place
deriving DecidableEq, Repr

/-- A character given by its number in so many hexadecimal digits, and what follows. -/
def numbered? (width : Nat) (s : List Char) : Option (Element × List Char) :=
  if s.length < width then none
  else (ofHex? (s.take width)).bind fun n =>
    if n.isValidChar then some (.char n, s.drop width) else none

/-- The element behind a backslash, and what follows. -/
def escape? : List Char → Option (Element × List Char)
  | [] => none
  | 'x' :: r => numbered? 2 r
  | 'u' :: r => numbered? 4 r
  | 'U' :: r => numbered? 8 r
  | 'a' :: r => some (.char 7, r)
  | 'f' :: r => some (.char 12, r)
  | 't' :: r => some (.char 9, r)
  | 'n' :: r => some (.char 10, r)
  | 'r' :: r => some (.char 13, r)
  | 'v' :: r => some (.char 11, r)
  | 'A' :: r | 'z' :: r => some (.place, r)
  | 'p' :: c :: r | 'P' :: c :: r =>
    if c ∈ ['L', 'M', 'N', 'P', 'S', 'Z', 'C'] then some (.anyOf, r) else none
  | c :: r =>
    if c ∈ ['d', 's', 'w', 'D', 'S', 'W'] then some (.anyOf, r)
    else if c.isAlphanum || c == '<' || c == '>' || 0x7F < c.toNat then none
    else some (.char c.toNat, r)

/-- One element of a set, and what follows. -/
def element? : List Char → Option (Element × List Char)
  | [] => none
  | '\\' :: r => escape? r
  | c :: r => some (.char c.toNat, r)

/-- The names of the sets that stand between colons. -/
def setNames : List String :=
  ["alnum", "alpha", "ascii", "blank", "cntrl", "digit", "graph", "lower", "print", "punct",
    "space", "upper", "word", "xdigit"]

/-- What follows a named set, if one stands here. -/
def namedSet? : List Char → Option (List Char)
  | ':' :: r =>
    let r := match r with | '^' :: r => r | r => r
    let name := r.takeWhile (· != ':')
    match r.dropWhile (· != ':') with
    | ':' :: ']' :: rest => if setNames.contains (String.ofList name) then some rest else none
    | _ => none
  | _ => none

/-- What follows the start of a set: hyphens and a bracket may stand there for themselves. -/
def afterSetStart (s : List Char) : List Char :=
  let r := match s with | '^' :: r => r | r => r
  let t := r.dropWhile (· == '-')
  match t with
  | ']' :: u => if t.length = r.length then u else t
  | t => t

/-- What follows a set and the sets that it lies in. The first argument bounds the number of
elements, the second is how many sets are open. -/
def set? : Nat → Nat → List Char → Option (List Char)
  | 0, _, _ => none
  | _, 0, s => some s
  | fuel + 1, depth + 1, s =>
    match s with
    | [] => none
    | ']' :: r => set? fuel depth r
    | '[' :: r =>
      match namedSet? r with
      | some r => set? fuel (depth + 1) r
      | none => set? fuel (depth + 2) (afterSetStart r)
    | '&' :: '&' :: r | '-' :: '-' :: r | '~' :: '~' :: r => set? fuel (depth + 1) r
    | s => do
      let (low, r) ← element? s
      if low = .place then none
      match r with
      | '-' :: ']' :: _ | '-' :: '-' :: _ => set? fuel (depth + 1) r
      | '-' :: r =>
        let (high, r) ← element? r
        match low, high with
        | .char a, .char b => if a ≤ b then set? fuel (depth + 1) r else none
        | _, _ => none
      | r => set? fuel (depth + 1) r

/-- The letters of the options that a group may switch. -/
def optionLetters : List Char := ['i', 'm', 's', 'U', 'u', 'R', 'x']

/-- Whether options are well formed: each at most once, with at most one hyphen, before an option
that is switched off. -/
def areOptions (s : List Char) : Bool :=
  s.all (fun c => optionLetters.contains c || c == '-') && s.eraseDups.length == s.length &&
    s.getLast? != some '-'

/-- Whether a text may name a group. -/
def isGroupName : List Char → Bool
  | [] => false
  | c :: r =>
    (c == '_' || (Text.isAlphanumeric c && !c.isDigit)) &&
      r.all fun c => c == '_' || c == '.' || c == '[' || c == ']' || Text.isAlphanumeric c

/-- What follows the start of a group, and whether the group holds something. -/
def afterGroupStart? : List Char → Option (Bool × List Char)
  | '?' :: 'P' :: '<' :: r | '?' :: '<' :: r =>
    match r.dropWhile (· != '>') with
    | _ :: rest => if isGroupName (r.takeWhile (· != '>')) then some (true, rest) else none
    | [] => none
  | '?' :: r =>
    let isEnd := fun c => c == ':' || c == ')'
    let options := r.takeWhile fun c => !isEnd c
    match r.dropWhile fun c => !isEnd c with
    | ':' :: rest => if areOptions options then some (true, rest) else none
    | ')' :: rest => if areOptions options && !options.isEmpty then some (false, rest) else none
    | _ => none
  | r => some (true, r)

/-- Whether the rest of a pattern is well formed. The first argument bounds its length, the second
is how many groups are open, and the third is whether something stands before that can be
repeated. -/
def continues : Nat → Nat → Bool → List Char → Bool
  | 0, _, _, _ => false
  | fuel + 1, depth, operand, s =>
    match s with
    | [] => depth == 0
    | ')' :: r => depth != 0 && continues fuel (depth - 1) true r
    | '|' :: r => continues fuel depth false r
    | '*' :: r | '+' :: r | '?' :: r => operand && continues fuel depth true r
    | '\x7b' :: _ => false
    | '(' :: r =>
      match afterGroupStart? r with
      | some (opens, r) => continues fuel (if opens then depth + 1 else depth) false r
      | none => false
    | '[' :: r =>
      match set? (s.length + 1) 1 (afterSetStart r) with
      | some r => continues fuel depth true r
      | none => false
    | '\\' :: r =>
      match escape? r with
      | some (_, r) => continues fuel depth true r
      | none => false
    | _ :: r => continues fuel depth true r

/-- Whether a text is a pattern. -/
def isWellFormed (s : List Char) : Bool := continues (s.length + 1) 0 false s

end NamedSql.Log.Pattern
