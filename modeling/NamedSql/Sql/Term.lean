import NamedSql.Sql.Function
import NamedSql.Sql.Table

/-!
# Terms

What expressions and queries are after their names have been looked up. A term says where a value
comes from by position: a column of the row of the innermost query, of the query around it, and so
on outwards. Terms need no look-up of names, so their evaluation cannot fail for a missing name.

## Main definitions

* `Term`, `Selection`, `QueryPlan` — resolved expressions, selections of rows, and queries
* `Term.affinity` — what a term asks of a comparison
* `Term.references` — what a term reads of the queries around it
* `Term.queried` — the tables of the queries in a term
* `Term.lifted` — a term some queries further in
* `Term.conjuncts` — the conditions that all have to hold

## Main results

* `Term.conjuncts_ne_nil` — there is always a condition to hold
-/

namespace NamedSql.Sql

/-- An aggregate: which rows it counts, and where it is written, which the fault of one in the wrong
place tells. -/
structure Aggregate where
  /-- The query whose rows are counted, counted outwards from the innermost one, which is the query
  at zero. -/
  level : Nat
  name : String
  offset : Nat
deriving DecidableEq, Repr, Inhabited

/-- The same aggregate `count` queries further in, unless it counts the rows of one of the innermost
`depth` queries. -/
def Aggregate.lifted (count depth : Nat) (a : Aggregate) : Aggregate :=
  if depth ≤ a.level then { a with level := a.level + count } else a

/-- How the rows of a table are enumerated. Which rows come at all is up to the selection. -/
structure Scan where
  /-- The key by which the rows are enumerated; without one it is the rowid. -/
  key : Option Key
  /-- Whether the last row comes first, by the rowid or by the key. -/
  backward : Bool
  /-- How many terms of an ordering the rows are already ordered by. The others are left to be
  ordered by. -/
  sorted : Nat
deriving DecidableEq, Repr, Inhabited

namespace Scan

/-- The enumeration by rowid, in ascending order, which every table has. -/
def byRowid : Scan := ⟨none, false, 0⟩

end Scan

mutual

/-- A resolved expression. It needs the rows of the queries around it and the parameters, and no
names. -/
inductive Term where
  | literal (v : Value)
  | parameter (number : Nat)
  /-- A column of the row of a query, counted outwards from the innermost one. Without a column it
  is the rowid. -/
  | field (level : Nat) (column : Option Nat) (affinity : Affinity)
  | not (t : Term)
  | negate (t : Term)
  | plus (t : Term)
  | binary (op : BinaryOp) (left right : Term)
  | typeOf (t : Term)
  | call (f : Function) (arguments : List Term)
  /-- The number of the rows that a query selects, whatever is in them. -/
  | countRows (a : Aggregate)
  /-- The number of the rows that a query selects and in which a term is something. -/
  | count (a : Aggregate) (t : Term)
  /-- The first value of the first row of a query. A query that reads nothing of the queries around
  it has a number by which its value is remembered. -/
  | scalar (once : Option Nat) (q : QueryPlan)

/-- Rows of a table, or a single row without columns. The terms to seek are evaluated before the
first row is looked at, and the filters are conditions that all have to hold. -/
inductive Selection where
  | mk (table : Option String) (scan : Scan) (seek filters : List Term)

/-- A resolved query. With `grouped` all selected rows make a single row of the result. -/
inductive QueryPlan where
  | mk (rows : Selection) (columns : List Term) (order : List OrderKey) (grouped : Bool)

/-- By what rows are ordered, and whether the greatest comes first. The next key decides between
rows that agree in this one. -/
inductive OrderKey where
  | mk (t : Term) (descending : Bool)

end

instance : Inhabited Term := ⟨.literal .null⟩

instance : Inhabited Selection := ⟨.mk none .byRowid [] []⟩

instance : Inhabited QueryPlan := ⟨.mk default [] [] false⟩

instance : Inhabited OrderKey := ⟨.mk default false⟩

/-- How a selection enumerates the rows of its table. A selection without a table has a single row
to enumerate. -/
def Selection.scan : Selection → Scan
  | .mk _ scan _ _ => scan

mutual

/-- What a term asks of a comparison: a column asks for its own affinity, a query for that of its
first column, and other terms for nothing. -/
def Term.affinity : Term → Option Affinity
  | .field _ _ affinity => some affinity
  | .scalar _ q => q.affinity
  | _ => none

/-- What the first column of a query asks of a comparison, which is what the query itself asks for
where it stands for a value. -/
def QueryPlan.affinity : QueryPlan → Option Affinity
  | .mk _ (t :: _) _ _ => t.affinity
  | .mk _ [] _ _ => none

end

/-! ### Reading outwards -/

/-- What a term reads of the queries around it; the level is counted from the innermost one. -/
inductive Reference where
  | field (level : Nat) (column : Option Nat)
  | group (a : Aggregate)
deriving DecidableEq, Repr

namespace Reference

/-- A column of the queries from the given one outwards. What is further in belongs to what is read,
and is no reference. -/
def field? (depth level : Nat) (column : Option Nat) : List Reference :=
  if depth ≤ level then [.field (level - depth) column] else []

/-- An aggregate over the rows of one of the queries from the given one outwards. -/
def group? (depth : Nat) (a : Aggregate) : List Reference :=
  if depth ≤ a.level then [.group { a with level := a.level - depth }] else []

/-- The level of a column. An aggregate does not read a row of its own. -/
def fieldLevel? : Reference → Option Nat
  | .field level _ => some level
  | .group _ => none

/-- The column, if it is one of the innermost row; nothing within stands for its rowid. -/
def innermost? : Reference → Option (Option Nat)
  | .field 0 column => some column
  | _ => none

/-- The aggregate, if it counts the rows of the innermost query, and so makes a single row of them.
-/
def ownGroup? : Reference → Option Aggregate
  | .group a => if a.level = 0 then some a else none
  | .field .. => none

end Reference

mutual

/-- What a term reads of the queries from the one `depth` queries out on. What it reads of those
further in is its own affair. -/
def Term.references (depth : Nat) : Term → List Reference
  | .field level column _ => Reference.field? depth level column
  | .countRows a => Reference.group? depth a
  | .count a t => Reference.group? depth a ++ t.references depth
  | .not t | .negate t | .plus t | .typeOf t => t.references depth
  | .binary _ l r => l.references depth ++ r.references depth
  | .call _ arguments => referencesOfAll depth arguments
  | .scalar _ q => q.references (depth + 1)
  | .literal _ | .parameter _ => []

/-- What some terms read, in the order of the terms. -/
def referencesOfAll (depth : Nat) : List Term → List Reference
  | [] => []
  | t :: rest => t.references depth ++ referencesOfAll depth rest

/-- What an ordering reads. Whether it is descending makes no difference. -/
def referencesOfOrder (depth : Nat) : List OrderKey → List Reference
  | [] => []
  | .mk t _ :: rest => t.references depth ++ referencesOfOrder depth rest

/-- What a selection of rows reads: first where it starts, and then its conditions. -/
def Selection.references (depth : Nat) : Selection → List Reference
  | .mk _ _ seek filters => referencesOfAll depth seek ++ referencesOfAll depth filters

/-- What a query reads of the queries around it. Within the query its own rows are the innermost
ones. -/
def QueryPlan.references (depth : Nat) : QueryPlan → List Reference
  | .mk rows columns order _ =>
    rows.references depth ++ referencesOfAll depth columns ++ referencesOfOrder depth order

end

/-! ### Queries within -/

mutual

/-- The tables of the queries in a term, among which a change of rows looks for its own table. -/
def Term.queried : Term → List (Option String)
  | .count _ t | .not t | .negate t | .plus t | .typeOf t => t.queried
  | .binary _ l r => l.queried ++ r.queried
  | .call _ arguments => queriedByAll arguments
  | .scalar _ q => q.queried
  | .literal _ | .parameter _ | .field .. | .countRows _ => []

/-- The tables of the queries in some terms, in the order of the terms. -/
def queriedByAll : List Term → List (Option String)
  | [] => []
  | t :: rest => t.queried ++ queriedByAll rest

/-- The tables of the queries in an ordering, in the order of its terms. -/
def queriedByOrder : List OrderKey → List (Option String)
  | [] => []
  | .mk t _ :: rest => t.queried ++ queriedByOrder rest

/-- The tables of a selection and of the queries in it, its own table first. -/
def Selection.queried : Selection → List (Option String)
  | .mk table _ seek filters => table :: (queriedByAll seek ++ queriedByAll filters)

/-- The tables of a query and of the queries in it. A query without a table reads none of its own.
-/
def QueryPlan.queried : QueryPlan → List (Option String)
  | .mk rows columns order _ => rows.queried ++ queriedByAll columns ++ queriedByOrder order

end

/-! ### Moving inwards -/

mutual

/-- The same term `count` queries further in; what it reads of the innermost `depth` queries is a
part of the term and moves with it. -/
def Term.lifted (count depth : Nat) : Term → Term
  | .field level column a => .field (if depth ≤ level then level + count else level) column a
  | .countRows a => .countRows (a.lifted count depth)
  | .count a t => .count (a.lifted count depth) (t.lifted count depth)
  | .not t => .not (t.lifted count depth)
  | .negate t => .negate (t.lifted count depth)
  | .plus t => .plus (t.lifted count depth)
  | .typeOf t => .typeOf (t.lifted count depth)
  | .binary op l r => .binary op (l.lifted count depth) (r.lifted count depth)
  | .call f arguments => .call f (liftedAll count depth arguments)
  | .scalar once q => .scalar once (q.lifted count (depth + 1))
  | .literal v => .literal v
  | .parameter number => .parameter number

/-- The same terms some queries further in, each by itself. -/
def liftedAll (count depth : Nat) : List Term → List Term
  | [] => []
  | t :: rest => t.lifted count depth :: liftedAll count depth rest

/-- The same ordering some queries further in. The direction of each term is kept. -/
def liftedOrder (count depth : Nat) : List OrderKey → List OrderKey
  | [] => []
  | .mk t descending :: rest =>
    .mk (t.lifted count depth) descending :: liftedOrder count depth rest

/-- The same selection some queries further in. How it enumerates its rows stays as it was. -/
def Selection.lifted (count depth : Nat) : Selection → Selection
  | .mk table scan seek filters =>
    .mk table scan (liftedAll count depth seek) (liftedAll count depth filters)

/-- The same query some queries further in. Whether its rows are grouped does not change by that. -/
def QueryPlan.lifted (count depth : Nat) : QueryPlan → QueryPlan
  | .mk rows columns order grouped =>
    .mk (rows.lifted count depth) (liftedAll count depth columns) (liftedOrder count depth order)
      grouped

end

namespace Term

/-! ### Conditions -/

/-- The conditions that all have to hold. Looking at each by itself shows which of them bound the
rows. -/
def conjuncts : Term → List Term
  | .binary .and l r => l.conjuncts ++ r.conjuncts
  | t => [t]

theorem conjuncts_ne_nil (t : Term) : t.conjuncts ≠ [] := by
  fun_induction conjuncts t with
  | case1 l r hl hr => simp [hl]
  | case2 t _ => simp

/-! ### Aggregates -/

/-- The query whose rows an aggregate with some arguments counts: the innermost one whose columns
the arguments read, or the innermost one of all. -/
def owner (arguments : List Term) : Nat :=
  (((referencesOfAll 0 arguments).filterMap Reference.fieldLevel?).min?).getD 0

/-- The aggregates over the rows of the innermost query, by which it is known whether that query has
a single row. -/
def groups (t : Term) : List Aggregate := (t.references 0).filterMap Reference.ownGroup?

/-- The columns of the innermost row that some references read, the rowid among them as no column.
-/
def columnsRead (references : List Reference) : List (Option Nat) :=
  references.filterMap Reference.innermost?

end Term

end NamedSql.Sql
