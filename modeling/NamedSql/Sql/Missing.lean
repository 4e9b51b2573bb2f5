import NamedSql.Sql.Plan

/-!
# Missing keys

A row may refer to a key of another table. How many such keys are missing is not looked up but
counted, as rows come and go: a statement counts the keys that it must not leave missing, and a
transaction those that may be missing until its end.

## Scope

The counts say how many more keys are missing than there were. What was missing before the count
began is not part of it, so a count is lowered only while it is not zero.

## Main definitions

* `Missing` — the two counts
* `Database.lacksParent`, `Database.children` — whether a key is missing, and who refers to a row
* `Missing.leaving`, `Missing.entering` — the counts when a row goes and when one comes
* `Missing.dropping` — the counts when a row goes with its table

## Main results

* `Missing.leaving_none`, `Missing.entering_none` — without keys to look at nothing is counted
-/

namespace NamedSql.Sql

/-- How many more keys are missing than at some earlier point, which may be less than none. -/
structure Missing where
  /-- Of the keys that must be there when a statement ends; rows in between may miss them. -/
  immediate : Int
  /-- Of the keys that must be there when a transaction ends, which is when the statement ends if
  none is open. -/
  deferred : Int
deriving DecidableEq, Repr, Inhabited

/-- Whether the rows of a table have a value in a column that is a key of the table. -/
def Table.hasKey (parent : Table) (column : Nat) (v : Value) : Bool :=
  if parent.rowidColumn = some column then
    match Affinity.numeric.store v with
    | .integer n => (parent.row? n).isSome
    | _ => false
  else
    let v := (parent.columnAffinity column).store v
    parent.rows.any fun p => sameValue (p.value column) v

/-- Whether a row has itself the key that it refers to. -/
def Table.refersToItself (t : Table) (k : ForeignKey) (r : Row) : Bool :=
  Token.sameName k.parent t.name &&
    match Database.parentKey? t k with
    | none => false
    | some column =>
      if t.rowidColumn = some column then
        Affinity.numeric.store (r.value k.column) == .integer r.rowid
      else sameValue (r.value k.column) (r.value column)

namespace Database

/-- Whether the key that a row refers to is missing. A row that refers to nothing misses nothing. -/
def lacksParent (d : Database) (k : ForeignKey) (r : Row) : Bool :=
  r.value k.column != .null &&
    ((d.find? k.parent).bind fun parent => (parentKey? parent k).map fun column =>
      !parent.hasKey column (r.value k.column)).getD false

/-- How many rows of a table refer to a row of another one, which may be one of them and does not
count. -/
def children (d : Database) (parent : Table) (child : String) (k : ForeignKey) (r : Row) : Nat :=
  match d.find? child, parentKey? parent k with
  | some t, some column =>
    let v := if parent.rowidColumn = some column then .integer r.rowid else r.value column
    let a := Affinity.ofComparison (some (parent.columnAffinity column))
      (some (t.columnAffinity k.column))
    let refers (c : Row) : Bool :=
      let w := c.value k.column
      v != .null && w != .null && sameValue (a.compared v w) (a.compared w v) &&
        !(Token.sameName child parent.name && c.rowid == r.rowid)
    (t.rows.filter refers).length
  | _, _ => 0

end Database

namespace Missing

/-- Nothing is missing, or as much as before. -/
def none : Missing := ⟨0, 0⟩

/-- The count that a key belongs to, by when the key must be there. -/
def count (m : Missing) (k : ForeignKey) : Int := if k.deferred then m.deferred else m.immediate

/-- Adds to the count that a key belongs to, and leaves the other one alone. -/
def add (m : Missing) (k : ForeignKey) (n : Int) : Missing :=
  if k.deferred then { m with deferred := m.deferred + n }
  else { m with immediate := m.immediate + n }

/-- Lowers the count that a key belongs to, unless it is zero. -/
def lower (m : Missing) (k : ForeignKey) (n : Nat) : Missing :=
  if m.count k = 0 then m else m.add k (-n)

/-- The counts when a row is about to leave its table: what it missed is not missed any more, and
those that refer to it miss it. -/
def leaving (keys : KeyChecks) (d : Database) (t : Table) (r : Row) (m : Missing) : Missing :=
  let m := keys.own.foldl (fun m k => if d.lacksParent k r then m.lower k 1 else m) m
  keys.referring.foldl (fun m (child, k) => m.add k (d.children t child k r)) m

/-- The counts when a row is about to enter its table: it may miss what it refers to, and those that
refer to it miss it no more. -/
def entering (keys : KeyChecks) (d : Database) (t : Table) (r : Row) (m : Missing) : Missing :=
  let lacks (k : ForeignKey) : Bool := d.lacksParent k r && !t.refersToItself k r
  let m := keys.own.foldl (fun m k => if lacks k then m.add k 1 else m) m
  keys.referring.foldl (fun m (child, k) => m.lower k (d.children t child k r)) m

/-- The counts when a row leaves together with its table. A key whose table is not there counts as
one that was missed. -/
def dropping (keys : KeyChecks) (d : Database) (t : Table) (r : Row) (m : Missing) : Missing :=
  let orphaned := keys.own.filter fun k =>
    (d.find? k.parent).isNone && r.value k.column != .null
  leaving keys d t r (orphaned.foldl (fun m k => m.add k (-1)) m)

theorem leaving_none (d : Database) (t : Table) (r : Row) (m : Missing) :
    leaving .none d t r m = m := rfl

theorem entering_none (d : Database) (t : Table) (r : Row) (m : Missing) :
    entering .none d t r m = m := rfl

end Missing

end NamedSql.Sql
