import NamedSql.Value

/-!
# JSON

JSON values and their compact text, and the JSON form of a value.

## Main definitions

* `Json`, `Json.render` — a JSON value and its text, without blanks
* `Json.ofMembers` — the object of a list of members, sorted by name, the last of a name winning
* `Value.toJson` — the JSON form of a value
-/

namespace NamedSql

/-- A JSON value. The numbers are integers and finite reals, which are kept apart, since they are
written differently. -/
inductive Json where
  | null
  | bool (b : Bool)
  | integer (n : Int)
  | real (x : Binary64)
  | text (s : String)
  | array (items : List Json)
  | object (members : List (String × Json))
deriving Repr, Inhabited

namespace Json

/-! ### Text -/

/-- Reals from `1e-5` up to below `1e16` are written positionally. -/
def numberStyle : NumberStyle where
  plainFrom := -5
  plainBelow := 16
  pointed := false
  signed := true
  exponentWidth := 1

/-- A finite real, by the fewest digits that read back. -/
def renderReal (x : Binary64) : List Char :=
  let magnitude := numberStyle.layout (Decimal.shortest .toEven x)
  if x.isNegative then '-' :: magnitude else magnitude

/-- The two hexadecimal digits of a number below 256, lower case. -/
def twoHex (n : Nat) : List Char := [Nat.digitChar (n / 16), Nat.digitChar (n % 16)]

/-- A character inside a JSON text. Only quotes, backslashes and control characters are escaped;
everything else stands for itself. -/
def escaped (c : Char) : List Char :=
  if c = '"' then ['\\', '"']
  else if c = '\\' then ['\\', '\\']
  else if c = '\x08' then ['\\', 'b']
  else if c = '\x0c' then ['\\', 'f']
  else if c = '\n' then ['\\', 'n']
  else if c = '\r' then ['\\', 'r']
  else if c = '\t' then ['\\', 't']
  else if c.toNat < 0x20 then ['\\', 'u', '0', '0'] ++ twoHex c.toNat
  else [c]

/-- A text between double quotes. -/
def renderText (s : String) : List Char := '"' :: (s.toList.flatMap escaped ++ ['"'])

mutual

/-- The characters of a JSON value, without any blanks between them. -/
def chars : Json → List Char
  | .null => ['n', 'u', 'l', 'l']
  | .bool b => if b then ['t', 'r', 'u', 'e'] else ['f', 'a', 'l', 's', 'e']
  | .integer n => (toString n).toList
  | .real x => renderReal x
  | .text s => renderText s
  | .array items => '[' :: (charsOfItems items ++ [']'])
  | .object members => '\x7b' :: (charsOfMembers members ++ ['\x7d'])

/-- The items of an array, separated by commas. -/
def charsOfItems : List Json → List Char
  | [] => []
  | [j] => j.chars
  | j :: k :: rest => j.chars ++ ',' :: charsOfItems (k :: rest)

/-- The members of an object, separated by commas. -/
def charsOfMembers : List (String × Json) → List Char
  | [] => []
  | [(name, j)] => renderText name ++ ':' :: j.chars
  | (name, j) :: m :: rest =>
    renderText name ++ ':' :: (j.chars ++ ',' :: charsOfMembers (m :: rest))

end

/-- The compact text of a JSON value. -/
def render (j : Json) : String := String.ofList j.chars

/-! ### Objects -/

/-- Puts a member into members that are sorted by name, replacing one of the same name. -/
def insertMember (name : String) (j : Json) : List (String × Json) → List (String × Json)
  | [] => [(name, j)]
  | (n, k) :: rest =>
    if name = n then (name, j) :: rest
    else if name < n then (name, j) :: (n, k) :: rest
    else (n, k) :: insertMember name j rest

/-- The members sorted by name; of members with one name the last stays. -/
def sortMembers (members : List (String × Json)) : List (String × Json) :=
  members.foldl (fun acc m => insertMember m.1 m.2 acc) []

/-- The object of a list of members, in which names do not repeat: the last member of a name is the
one that counts. -/
def ofMembers (members : List (String × Json)) : Json := .object (sortMembers members)

end Json

/-- The JSON form of a value: a blob is an array of its bytes, and a real that is not finite is
null. -/
def Value.toJson : Value → Json
  | .null => .null
  | .integer n => .integer n.toInt
  | .real x => if x.isFinite then .real x else .null
  | .text s => .text s
  | .blob bytes => .array (bytes.map fun b => .integer b.toNat)

end NamedSql
