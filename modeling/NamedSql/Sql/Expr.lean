import NamedSql.Sql.Fault
import NamedSql.Value

/-!
# Statements as they are written

What an SQL statement says before its names are looked up. Names keep their place in the text,
since a fault about a name tells where it stands.

## Scope

The fragment has one table in a query, scalar subqueries, the operators of comparison, of logic
and of addition, and function calls. It has the statements that change rows and tables, those
that control transactions, and pragmas.

## Main definitions

* `Literal`, `Expr`, `Select` — literals, expressions and queries
* `Expr.height` — how many levels an expression has
* `Statement` — statements
* `Statement.Parsed` — a statement with its parameters
-/

namespace NamedSql.Sql

/-- The operators between two expressions: those of logic, of comparison, of addition, and the
joining of texts. -/
inductive BinaryOp where
  | or
  | and
  | eq
  | ne
  | lt
  | le
  | gt
  | ge
  | is
  | isNot
  | add
  | subtract
  | join
deriving DecidableEq, Repr, Inhabited

/-- The name of a column, perhaps of a table. It keeps its place, which the fault of an unknown name
tells. -/
structure ColumnName where
  table : Option String
  name : String
  /-- Whether the name stands in double quotes, and so may turn out to be a text. -/
  quoted : Bool
  offset : Nat
deriving DecidableEq, Repr, Inhabited

/-- The table that a query reads, and the name by which the query calls it, if that is another one.
-/
structure Source where
  table : String
  label : Option String
deriving DecidableEq, Repr, Inhabited

/-- A literal, which stands for a value once it is known whether a minus sign stands before it. -/
inductive Literal where
  | value (v : Value)
  /-- The integer `2 ^ 63` in decimal digits, which is an integer only behind a minus sign, and a
  real otherwise. -/
  | leastMagnitude
  /-- An integer in hexadecimal digits, with its text, which the fault of too many digits tells. -/
  | hexadecimal (number : Nat) (written : String)
deriving DecidableEq, Repr, Inhabited

namespace Literal

/-- The real nearest to `2 ^ 63`, which is that number itself. -/
def leastMagnitudeReal : Binary64 := .ofInt (-Int64.minValue.toInt)

/-- The integer of a literal, if it takes less than thirty-two bits. Small integers may stand for
columns in an ordering. -/
def small? : Literal → Option Int
  | .value (.integer n) => if n.toInt ≤ Int32.maxValue.toInt then some n.toInt else none
  | .hexadecimal number _ => if number < 1 <<< 31 then some number else none
  | _ => none

/-- The value of a literal that stands at an offset. Hexadecimal digits stand for the bits of an
integer, and must not be too many. -/
def eval (offset : Nat) : Literal → Except Fault Value
  | .value v => .ok v
  | .leastMagnitude => .ok (.real leastMagnitudeReal)
  | .hexadecimal number written =>
    if number < UInt64.size then .ok (.integer (UInt64.ofNat number).toInt64)
    else .error (.hexTooBig written offset)

/-- The value of a literal behind a minus sign, if it is a number. The bits of the least integer do
not have a negative. -/
def negated? (offset : Nat) : Literal → Option (Except Fault Value)
  | .value (.integer n) => some (.ok (.integer (-n)))
  | .value (.real x) => some (.ok (.real x.neg))
  | .value _ => none
  | .leastMagnitude => some (.ok (.integer Int64.minValue))
  | .hexadecimal number written =>
    if number < UInt64.size ∧ number ≠ 1 <<< 63 then
      some (.ok (.integer (-(UInt64.ofNat number).toInt64)))
    else some (.error (.hexTooBig ("-" ++ written) offset))

end Literal

mutual

/-- An expression as it is written. Names in it have not been looked up, and calls have not been
checked. -/
inductive Expr where
  | literal (l : Literal) (offset : Nat)
  /-- A parameter, by its number counted from one. -/
  | parameter (number offset : Nat)
  | column (name : ColumnName)
  | not (e : Expr)
  | negate (e : Expr)
  /-- A value behind a plus sign, which hides what the value is. -/
  | plus (e : Expr)
  | binary (op : BinaryOp) (left right : Expr)
  | call (function : String) (offset : Nat) (arguments : List Expr)
  /-- The first value of the first row of a query that starts at an offset. -/
  | scalar (offset : Nat) (query : Select)

/-- What a query returns: one of the values of its rows, or several columns at once. -/
inductive ResultColumn where
  /-- Every column of the table that the query reads; a query without a table cannot ask for them.
  -/
  | everything
  /-- Every column of the table of that name, which has to be the one that the query reads. -/
  | allOf (table : String)
  /-- A value, with the name given to it and the text that it is written as, which is its name
  otherwise. -/
  | value (e : Expr) (label : Option String) (written : String)

/-- By what rows are ordered, and whether the greatest comes first. Later terms decide where earlier
ones do not. -/
inductive OrderTerm where
  | mk (e : Expr) (descending : Bool)

/-- A query: what it returns, the table that it reads if it reads one, which rows are meant, and in
what order. -/
inductive Select where
  | mk (columns : List ResultColumn) (source : Option Source) (condition : Option Expr)
    (order : List OrderTerm)

end

instance : Inhabited Expr := ⟨.literal (.value .null) 0⟩

instance : Inhabited Select := ⟨.mk [] none none []⟩

mutual

/-- The number of levels of an expression. A name with its table has two, and a call has one more
than its arguments. -/
def Expr.height : Expr → Nat
  | .literal .. | .parameter .. => 1
  | .column name => if name.table.isSome then 2 else 1
  | .not e | .negate e | .plus e => e.height + 1
  | .binary _ l r => max l.height r.height + 1
  | .call _ _ arguments => heightOfAll arguments + 1
  | .scalar _ q => q.height + 1

/-- The greatest number of levels among some expressions, such as the arguments of a call. -/
def heightOfAll : List Expr → Nat
  | [] => 0
  | e :: rest => max e.height (heightOfAll rest)

/-- The greatest number of levels among what a query returns. All columns of a table count as one
level. -/
def heightOfResults : List ResultColumn → Nat
  | [] => 0
  | .value e _ _ :: rest => max e.height (heightOfResults rest)
  | _ :: rest => max 1 (heightOfResults rest)

/-- The greatest number of levels in an ordering. Whether the order is descending makes no
difference. -/
def heightOfOrder : List OrderTerm → Nat
  | [] => 0
  | .mk e _ :: rest => max e.height (heightOfOrder rest)

/-- The number of levels of a condition, if there is one. No condition has no levels. -/
def heightOfCondition : Option Expr → Nat
  | none => 0
  | some e => e.height

/-- The greatest number of levels in a query, whatever the part of the query in which it occurs. -/
def Select.height : Select → Nat
  | .mk columns _ condition order =>
    max (heightOfResults columns) (max (heightOfCondition condition) (heightOfOrder order))

end

/-- The greatest number of levels that an expression may have. What has more is refused as it is
read. -/
def greatestHeight : Nat := 1000

/-- The integer that an expression is in so many words, and the place of its digits, if it takes
less than thirty-two bits. -/
def Expr.small? : Expr → Option (Int × Nat)
  | .literal l offset => l.small?.map fun n => (n, offset)
  | .plus e => e.small?
  | .negate e => e.small?.map fun (n, offset) => (-n, offset)
  | _ => none

/-- The value of an expression behind a minus sign, if the expression is a number. Anything else is
negated when it is evaluated. -/
def Expr.negated? : Expr → Option (Except Fault Value)
  | .literal l offset => l.negated? offset
  | _ => none

/-- Whether an expression is the literal zero, which as a condition is plainly false. -/
def Expr.isZero : Expr → Bool
  | .literal l _ => l.small? == some 0
  | _ => false

/-- Both conditions hold; what is plainly false makes the whole false, whatever stands beside
it. -/
def Expr.both (l r : Expr) : Expr :=
  if l.isZero || r.isZero then .literal (.value (.integer 0)) 0 else .binary .and l r

/-- What happens to a row that would violate a constraint, and to what the statement and the
transaction have done before. -/
inductive Conflict where
  /-- The statement fails and what it changed is undone; the transaction goes on as it was before.
  -/
  | abort
  /-- The statement fails and what it changed is kept, up to the row that would violate the
  constraint. -/
  | fail
  /-- The row is left out, and the statement goes on with the next one. -/
  | ignore
  /-- The rows in the way are deleted, and the new row is stored in their place. -/
  | replace
  /-- The statement fails and the whole transaction is rolled back, which ends it. -/
  | rollback
deriving DecidableEq, Repr, Inhabited

/-- A statement that inserts rows. Without a list of columns, the values are those of all columns in
order. -/
structure Insert where
  table : String
  conflict : Conflict
  columns : Option (List String)
  rows : List (List Expr)
  returning : List ResultColumn
deriving Inhabited

/-- A statement that changes rows. The new values of a row are computed from the row as it was. -/
structure Update where
  table : String
  conflict : Conflict
  assignments : List (String × Expr)
  condition : Option Expr
  returning : List ResultColumn
deriving Inhabited

/-- A statement that deletes rows, all of them if it has no condition. -/
structure Delete where
  table : String
  condition : Option Expr
  returning : List ResultColumn
deriving Inhabited

/-- What the definition of a column demands of its values, one rule for each phrase of the
definition. -/
inductive ColumnRule where
  | primaryKey (descending : Bool)
  | unique
  | notNull
  | default (v : Value)
  /-- A condition, with its name if it has one, and the text that it is written as. -/
  | check (condition : Expr) (written : String)
  /-- A key of another table; without a column it is that table's primary key. -/
  | references (parent : String) (column : Option String)
  /-- Whether the key of another table is looked for only when the transaction is committed. It is
  about the key named before it. -/
  | deferred (b : Bool)

/-- The definition of a column as it is written. The declared type is a text that may be anything.
-/
structure ColumnDefinition where
  name : String
  type : String
  rules : List ColumnRule

/-- A statement that creates a table. It may say that a table of that name is fine as it is. -/
structure CreateTable where
  table : String
  offset : Nat
  ifNotExists : Bool
  columns : List ColumnDefinition

/-- The statements that control transactions: they begin and end the whole of one or a part that has
a name. -/
inductive Control where
  | begin
  | commit
  | rollback
  | savepoint (name : String)
  | release (name : String)
  | rollbackTo (name : String)
deriving DecidableEq, Repr, Inhabited

/-- A statement as it is written, before any name in it has been looked up. -/
inductive Statement where
  | select (s : Select)
  | insert (s : Insert)
  | update (s : Update)
  | delete (s : Delete)
  | createTable (s : CreateTable)
  | dropTable (table : String) (ifExists : Bool)
  | addColumn (table : String) (column : ColumnDefinition)
  | control (c : Control)
  | pragma (name : String) (value : Option String)

instance : Inhabited Statement := ⟨.control .commit⟩

/-- A statement with its parameters: their names, if they have names, in the order of their numbers.
Values are bound to them by number. -/
structure Statement.Parsed where
  statement : Statement
  parameters : List (Option String)
deriving Inhabited

end NamedSql.Sql
