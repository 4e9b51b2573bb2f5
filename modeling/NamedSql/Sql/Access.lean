import NamedSql.Sql.Estimate
import NamedSql.Sql.Term

/-!
# Access to the rows of a table

In what order a statement takes the rows of its table. A condition that fixes the rowid or a key
leaves one row. Otherwise rows are enumerated by rowid or by one of the keys, as a whole or within
the bounds that conditions put on the rowid or on the key, whichever is estimated to cost least;
the estimate includes what it costs to bring the rows into the order that is asked for.

## Scope

Nothing is known of the rows themselves. Every table counts as one of a million rows, an equation
as met by one row in four, and a bound as met by a quarter of the rows. All keys have one column.

## Main definitions

* `Comparison` — a condition that compares a column with something that does not depend on the row
* `Demand` — what a statement asks of the rows of its table
* `Path` — a way to enumerate rows, with its estimates
* `Path.ordered` — how much of an ordering a path satisfies
* `Table.selection` — the selection of the rows that a statement asks for

## Main results

* `Path.best?_mem` — the path that is chosen is one of those that there are
-/

namespace NamedSql.Sql

/-! ### Conditions on columns -/

/-- A column of a table by its position, or the rowid. The column that stands for the rowid is
nothing but another name of it, so both are treated as one. -/
def Table.canonicalColumn (t : Table) (column : Option Nat) : Option Nat :=
  if column == t.rowidColumn then none else column

/-- A condition that compares a column of the row with something else. Only such conditions can
narrow down which rows are looked at. -/
structure Comparison where
  /-- Which of the conditions it is, so that it need not be looked at again when the path has met
  it. -/
  place : Nat
  /-- The column by its position, or nothing for the rowid. -/
  column : Option Nat
  op : BinaryOp
  /-- The affinity by which the operands are compared, which depends on both of them. -/
  affinity : Affinity
  other : Term

namespace Comparison

/-- An operator with its operands exchanged, if it compares. A condition may have the column on
either side; it is brought to the left. -/
def exchanged? : BinaryOp → Option BinaryOp
  | .eq => some .eq
  | .is => some .is
  | .lt => some .gt
  | .le => some .ge
  | .gt => some .lt
  | .ge => some .le
  | _ => none

/-- The comparisons that a condition makes with a column of the row: none or one, or two where a
column stands on either side. -/
def ofTerm (t : Table) (place : Nat) : Term → List Comparison
  | .binary op l r =>
    let affinity := Affinity.ofComparison l.affinity r.affinity
    let side (op : Option BinaryOp) (l r : Term) : List Comparison :=
      match op, l with
      | some op, .field 0 column _ => [⟨place, t.canonicalColumn column, op, affinity, r⟩]
      | _, _ => []
    side ((exchanged? op).bind exchanged?) l r ++ side (exchanged? op) r l
  | _ => []

/-- Whether the column is compared with something that does not depend on the row. -/
def isFixed (c : Comparison) : Bool := (Term.columnsRead (c.other.references 0)).isEmpty

/-- Whether the comparison is an equation, so that its column has a single value in all the rows
that are left. -/
def isEquation (c : Comparison) : Bool := c.op == .eq || c.op == .is

/-- Whether the comparison bounds the column from below. Rows in ascending order start from there.
-/
def isLower (c : Comparison) : Bool := c.op == .gt || c.op == .ge

/-- Whether the comparison bounds the column from above. Rows in ascending order stop there. -/
def isUpper (c : Comparison) : Bool := c.op == .lt || c.op == .le

/-- Whether values are compared as they are ordered in a key of their column. -/
def agreesWith (c : Comparison) (column : Affinity) : Bool :=
  match c.affinity with
  | .none => true
  | .text => column == .text
  | .numeric | .real => column.isNumeric

/-- Whether the column is compared with one of the most common integers, -1, 0 and 1. More rows are
expected to have such a value than another one. -/
def isCommon (c : Comparison) : Bool :=
  match c.other with
  | .literal (.integer n) | .plus (.literal (.integer n)) => -1 ≤ n.toInt && n.toInt ≤ 1
  | _ => false

end Comparison

/-! ### Demands -/

/-- What the rows are selected for. It bears on the costs: whoever wants one row need not have all
of them in order. -/
inductive Purpose where
  | rows
  /-- No row is wanted but the first, as where a query is asked whether it has any. -/
  | firstRow
  /-- The rows are changed or deleted, so each has to be found in the table itself. -/
  | change
deriving DecidableEq, Repr

/-- What a statement asks of the rows of its table: which it wants, what of them it reads and in
what order they are to come. -/
structure Demand where
  /-- Conditions that all have to hold: what the condition of the statement is a conjunction of. -/
  conditions : List Term
  /-- The columns that are read, by which it is known whether a key alone tells all that is needed.
  -/
  needed : List (Option Nat)
  order : List OrderKey
  /-- How many values a row of the result has. Wide rows cost more to bring into order. -/
  width : Nat
  purpose : Purpose

namespace Demand

/-- The comparisons that the conditions make, in the order of the conditions, whatever it is that
they compare with. -/
def comparisons (d : Demand) (t : Table) : List Comparison :=
  (d.conditions.zipIdx.map fun (c, place) => Comparison.ofTerm t place c).flatten

/-- The comparisons with something that does not depend on the row. Their values are known before
the first row is looked at. -/
def fixed (d : Demand) (t : Table) : List Comparison :=
  (d.comparisons t).filter Comparison.isFixed

/-- Whether a term of the ordering is the given column itself. Rows that come by that column are
then in order already. -/
def orderIs (t : Table) (column : Option Nat) : OrderKey → Bool
  | .mk (.field 0 c _) _ => t.canonicalColumn c == column
  | _ => false

end Demand

/-! ### Paths -/

/-- A way to enumerate the rows of a table, with what it is estimated to cost. The estimates are
logarithms, as in `Estimate`. -/
structure Path where
  /-- The key by which rows are enumerated; without one it is the rowid, in the table itself. -/
  key : Option Key
  /-- The comparisons that are met by all the rows that are enumerated, and that bound where the
  enumeration starts and stops. -/
  used : List Comparison
  /-- The estimated cost of enumerating the rows, and of looking each of them up where the key does
  not tell all that is needed. -/
  run : Int
  /-- The estimated number of rows that are left when all conditions have been looked at. -/
  out : Int

namespace Path

/-- The estimated number of rows in a table. It is the logarithm of about a million, for nothing is
known of how many there are. -/
def tableRows : Int := 200

/-- The estimated cost of finding a place among the rows of a table, to begin the enumeration there.
-/
def seekCost : Int := 43

/-- What it costs to go through some rows and to look each of them up. -/
def lookUpCost (rows : Int) : Int := rows + 16

/-- The number of rows that are left when the conditions that are not used have been looked at. -/
def remaining (t : Table) (d : Demand) (used : List Comparison) (out : Int) : Int :=
  let unused := (d.conditions.zipIdx.filter fun (c, place) =>
    !(used.any fun u => u.place == place) &&
      !(Term.columnsRead (c.references 0)).isEmpty).map Prod.snd
  let equations := (d.comparisons t).filter fun c => c.isEquation && unused.contains c.place
  let reduction : Int :=
    if equations.isEmpty then 0 else if equations.all Comparison.isCommon then 10 else 20
  min (out - unused.length) (tableRows - reduction)

/-- The room of the columns of a table in a row of the table, or of a key with its rowid. -/
def room (columns : List Column) (withRowid : Bool) : Int :=
  Estimate.ofNat (4 * columns.foldl (fun n c => n + c.width) (if withRowid then 1 else 0))

/-- The room of a row of a table. The rowid takes room of its own unless one of the columns stands
for it. -/
def tableRoom (t : Table) : Int := room t.columns t.rowidColumn.isNone

/-- The room of a row of a key, which has the columns of the key and, behind them, the rowid. -/
def keyRoom (t : Table) (key : Key) : Int := room (key.columns.filterMap (t.columns[·]?)) true

/-- What the rows of a key cost more than those of a table, by their room. -/
def keyCost (t : Table) (key : Key) : Int := 1 + 15 * keyRoom t key / tableRoom t

/-- Whether columns are all found in a key, so that the row itself need not be looked up. Every key
tells the rowid. -/
def covers (t : Table) (key : Key) (columns : List (Option Nat)) : Bool :=
  columns.all fun c => (t.canonicalColumn c).all key.columns.contains

/-- The path through all rows by rowid. There always is this one, so a path can be chosen in any
case. -/
def throughTable (t : Table) (d : Demand) : Path :=
  ⟨none, [], lookUpCost tableRows, remaining t d [] tableRows⟩

/-- The path through all rows by a key, if it may be worth while: it helps with the ordering, or it
holds all that is needed in less room. -/
def throughKey? (t : Table) (d : Demand) (key : Key) : Option Path :=
  let helps := d.order.any fun o =>
    Demand.orderIs t none o || key.columns.any fun c => Demand.orderIs t (some c) o
  let covering := covers t key d.needed
  if helps || (covering && keyRoom t key < tableRoom t && d.purpose != .change) then
    let known := (d.conditions.zipIdx.takeWhile fun (c, _) =>
      covers t key (Term.columnsRead (c.references 0))).map Prod.snd
    let equations := known.filter fun place =>
      (d.comparisons t).any fun c => c.isEquation && c.place == place
    let run := tableRows + keyCost t key
    let lookUps := lookUpCost tableRows - known.length - 19 * equations.length
    some ⟨some key, [], if covering then run else Estimate.add run lookUps,
      remaining t d [] tableRows⟩
  else none

/-- The number of rows within some bounds: about one for an equation with a key, and for other
bounds a quarter or less of the table. -/
def boundedRows (bounds : List Comparison) : Int :=
  match bounds with
  | [c] => if c.isEquation then 0 else tableRows - 20
  | _ => tableRows - 60

/-- The path through the rows within some bounds. The place where they start has to be found first,
which costs something too. -/
def within (t : Table) (d : Demand) (key : Option Key) (bounds : List Comparison) : Path :=
  let out := boundedRows bounds
  let run :=
    match key with
    | none => Estimate.add seekCost (lookUpCost out)
    | some key =>
      let run := Estimate.add seekCost (out + keyCost t key)
      if covers t key d.needed then run else Estimate.add run (lookUpCost out)
  ⟨key, bounds, run, remaining t d bounds out⟩

/-- The paths through the rows within the bounds that comparisons put on the rowid or a key. -/
def bounded (t : Table) (d : Demand) (key : Option Key) (comparisons : List Comparison) :
    List Path :=
  (comparisons.map fun c =>
    let both := if c.isLower then comparisons.filter Comparison.isUpper else []
    within t d key [c] :: both.map fun u => within t d key [c, u]).flatten

/-- The comparisons with the column of a key that follow its order. One that compares by another
affinity may be met anywhere in the key. -/
def onKey (t : Table) (key : Key) (comparisons : List Comparison) : List Comparison :=
  comparisons.filter fun c =>
    c.column.any fun column => key.columns == [column] && c.agreesWith (t.columnAffinity column)

/-- All paths, those by the keys declared last before the others. The place in the list decides
between paths that are equally cheap. -/
def all (t : Table) (d : Demand) : List Path :=
  let fixed := d.fixed t
  let byRowid := bounded t d none (fixed.filter (·.column.isNone))
  let byKey (key : Key) : List Path :=
    (throughKey? t d key).toList ++ bounded t d (some key) (onKey t key fixed)
  throughTable t d :: byRowid ++ (t.keys.reverse.map byKey).flatten

/-! ### Orderings -/

/-- A column by which a path enumerates rows: rows that agree in the legs before it come in the
order of this one. -/
structure Leg where
  column : Option Nat
  descending : Bool
  /-- Whether the column belongs to what the path is by, and not to the rowid behind a key. -/
  isOwn : Bool

/-- The columns by which a path enumerates rows: those of the key, if there is one, and the
rowid. -/
def legs (t : Table) (p : Path) : List Leg :=
  (p.key.elim [] fun key =>
    key.columns.map fun c => ⟨t.canonicalColumn (some c), key.descending, true⟩) ++
      [⟨none, false, p.key.isNone⟩]

/-- How far the terms of an ordering are satisfied by the legs of a path that have been looked at.
-/
structure Progress where
  satisfied : List Bool
  /-- Whether the path is followed backwards, if that is settled. The first term that a leg
  satisfies settles it for all. -/
  backward : Option Bool
  /-- Whether no two rows agree in what has been looked at. Whatever is asked for behind it is then
  satisfied as well. -/
  distinct : Bool

/-- What the columns of a path satisfy: each may satisfy the first term that is left. -/
def follow (t : Table) (order : List OrderKey) : List Leg → Progress → Progress
  | [], p => p
  | leg :: rest, p =>
    let distinct := p.distinct &&
      leg.column.all fun c => ((t.columns[c]?).map Column.notNull).getD false
    let first := p.satisfied.findIdx? (!·)
    match first.bind fun i => (order[i]?).map fun o => (i, o) with
    | some (i, .mk term backwards) =>
      let backward := leg.descending != backwards
      if Demand.orderIs t leg.column (.mk term backwards) && p.backward.all (· == backward) then
        follow t order rest
          ⟨p.satisfied.set i true, some backward, distinct || leg.column.isNone⟩
      else { p with distinct := distinct && !leg.isOwn }
    | none => { p with distinct := distinct && !leg.isOwn }

/-- Whether a term is settled when the row is: it reads a column of it, or has one value for all
rows. -/
def isSettled (t : Term) : Bool :=
  !(Term.columnsRead (t.references 0)).isEmpty ||
    match t with
    | .literal _ | .parameter _ => true
    | _ => false

/-- How many terms of an ordering a path satisfies, and whether it is followed backwards then. -/
def ordered (t : Table) (d : Demand) (p : Path) : Nat × Bool :=
  let fixed := d.fixed t
  let equal := d.order.map fun o =>
    fixed.any fun c => c.isEquation && Demand.orderIs t c.column o
  let point := p.used.any Comparison.isEquation
  let legs := if point then (p.legs t).drop 1 else p.legs t
  let progress := follow t d.order legs ⟨equal, none, !point⟩
  let satisfied :=
    if progress.distinct then
      (progress.satisfied.zip d.order).map fun | (b, .mk term _) => b || isSettled term
    else progress.satisfied
  let leading := (satisfied.takeWhile (·)).length
  (leading, progress.backward.getD false)

/-- What it costs to order some rows of which a part of the ordering is satisfied. -/
def sortingCost (d : Demand) (rows : Int) (sorted : Nat) : Int :=
  let terms := d.order.length
  let cost := rows + Estimate.ofNat ((d.width + 59) / 30) +
    if sorted = 0 then 0 else Estimate.ofNat ((terms - sorted) * 100 / terms) - 66
  if d.purpose == .firstRow then cost + if sorted = 0 then 10 else 16
  else cost + Estimate.log rows

/-- The estimated cost of a path with the cost of ordering its rows, where it does not bring them in
order already. -/
def totalCost (t : Table) (d : Demand) (rows : Int) (p : Path) : Int :=
  let sorted := (p.ordered t d).1
  if d.order.length ≤ sorted then p.run
  else Estimate.add p.run (sortingCost d rows sorted) + 3

/-! ### Choice -/

/-- Whether a cost with a number of rows is less than another one. Of equal costs the one with fewer
rows counts as less. -/
def cheaper (a b : Int × Int) : Bool := a.1 < b.1 || (a.1 == b.1 && a.2 < b.2)

/-- The path that costs least, the earliest if there are several. Nothing is chosen only where there
is nothing to choose from. -/
def best? (cost : Path → Int) : List Path → Option Path
  | [] => none
  | p :: rest =>
    match best? cost rest with
    | none => some p
    | some q => some (if cheaper (cost q, q.out) (cost p, p.out) then q else p)

theorem best?_mem {cost : Path → Int} {paths : List Path} {p : Path}
    (h : best? cost paths = some p) : p ∈ paths := by
  induction paths generalizing p with
  | nil => simp [best?] at h
  | cons q rest ih =>
    unfold best? at h
    split at h
    · simp_all
    · rename_i r hr
      have hm := ih hr
      split at h <;> simp_all

/-- The path that is chosen. Paths are first compared without the ordering, to estimate how many
rows have to be ordered; then the cost of ordering them is added. -/
def choose (t : Table) (d : Demand) : Path :=
  let paths := all t d
  let first := (best? Path.run paths).getD (throughTable t d)
  if d.order.isEmpty then first
  else (best? (totalCost t d (first.out + 1)) paths).getD first

end Path

/-! ### Selections -/

namespace Table

/-- The comparison that leaves one row, and the key that it fixes, if there is one. -/
def fixedRow? (t : Table) (d : Demand) : Option (Comparison × Option Key) :=
  let fixed := d.fixed t
  let rowid := fixed.find? fun c => c.column.isNone && c.isEquation
  match rowid with
  | some c => some (c, none)
  | none =>
    t.keys.reverse.findSome? fun key =>
      ((Path.onKey t key fixed).find? (·.op == .eq)).map fun c => (c, some key)

/-- The conditions with those of some comparisons in front, which are looked at before the others.
None is left out. -/
def arranged (d : Demand) (first : List Comparison) : List Term :=
  first.filterMap (fun c => d.conditions[c.place]?) ++
    (d.conditions.zipIdx.filter fun (_, place) =>
      !(first.any fun c => c.place == place)).map Prod.fst

/-- The selection of the rows that a statement asks for. A comparison that leaves one row is taken
before any path is compared. -/
def selection (t : Table) (d : Demand) : Selection :=
  match t.fixedRow? d with
  | some (c, key) =>
    .mk (some t.name) ⟨key, false, d.order.length⟩ [c.other] (arranged d [c])
  | none =>
    let p := Path.choose t d
    let (sorted, backward) := p.ordered t d
    let descending := (p.key.map Key.descending).getD false
    let isStart (c : Comparison) : Bool :=
      c.isEquation || if backward == descending then c.isLower else c.isUpper
    let (start, stop) := p.used.partition isStart
    .mk (some t.name) ⟨p.key, backward, sorted⟩ (start.map Comparison.other)
      (arranged d (start ++ stop))

end Table

end NamedSql.Sql
