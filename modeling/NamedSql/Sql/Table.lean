import NamedSql.Sql.Expr
import NamedSql.Sql.Fault
import NamedSql.Sql.Order
import NamedSql.Sql.Token

/-!
# Tables

A database holds tables, a table holds rows. Every row has a rowid that no other row of the table
has, and rows are kept by ascending rowid. A column may be the rowid under a name of its own.

## Main definitions

* `Column`, `Key`, `ForeignKey`, `Check` — what a table demands of its rows
* `Row`, `Table` — rows with their rowids
* `Table.insert`, `Table.erase`, `Table.freshRowid` — changes of rows
* `Database` — tables by name
* `Database.parentKey?` — the column that a key of another table refers to

## Main results

* `Table.mem_insert`, `Table.mem_erase` — what a change of rows does to their membership
* `Database.find?_put_self`, `Database.find?_put_of_ne` — what putting a table does to looking up
-/

namespace NamedSql.Sql

/-! ### Columns and their rules -/

/-- A column of a table. What else is demanded of its values is up to the keys and conditions of the
table. -/
structure Column where
  name : String
  /-- The declared type, which may be empty. It is a preference and excludes no values. -/
  type : String
  notNull : Bool
  /-- The value that the column has in rows that do not give it one. -/
  default : Value
deriving DecidableEq, Repr, Inhabited

namespace Column

/-- What the column makes of the values that it is given, by its declared type. -/
def affinity (c : Column) : Affinity := Affinity.ofType c.type

/-- The length in a declared type, for a type of characters; others count as if it were sixteen. -/
def declaredLength (type : String) : Nat :=
  let s := type.toList.map Char.toLower
  if Affinity.occursIn "char".toList s then
    digitsValue ((s.dropWhile fun c => !c.isDigit).takeWhile Char.isDigit) 0
  else 16

/-- The room that a value of the column is expected to take, in units of four bytes. -/
def width (c : Column) : Nat :=
  if c.type.isEmpty || c.affinity.isNumeric then 1 else min 255 (declaredLength c.type / 4 + 1)

end Column

/-- Columns whose values, taken together, do not repeat. Rows in which one of them is nothing are
exempt. -/
structure Key where
  kind : KeyKind
  columns : List Nat
  /-- Whether the greatest values come first where rows are enumerated by the key. -/
  descending : Bool
deriving DecidableEq, Repr

/-- A column that refers to a key of another table, which may be the same table. -/
structure ForeignKey where
  column : Nat
  parent : String
  /-- The column of the other table, if it is not the primary key. -/
  target : Option String
  /-- Whether the key may be missing until the transaction is committed, and not just while the
  statement runs. -/
  deferred : Bool
deriving DecidableEq, Repr, Inhabited

/-- A condition that rows satisfy. One that is unknown for a row is satisfied by it. -/
structure Check where
  condition : Expr
  /-- What the condition is called when it fails: its name, or its text if it has none. -/
  label : String

/-! ### Rows -/

/-- A row of a table, with a value for each column. It is known by its rowid. -/
structure Row where
  rowid : Int64
  values : List Value
deriving DecidableEq, Repr, Inhabited

namespace Row

/-- The value in a column. A column that the row does not have is nothing. -/
def value (r : Row) (column : Nat) : Value := r.values.getD column .null

/-- The values in some columns, in the order of the columns. -/
def key (r : Row) (columns : List Nat) : List Value := columns.map r.value

end Row

/-- A table: its columns, what is demanded of its rows, and the rows themselves by ascending rowid.
-/
structure Table where
  name : String
  columns : List Column
  /-- The column that is the rowid, if one was declared so. Its value is stored nowhere else. -/
  rowidColumn : Option Nat
  /-- The keys in the order in which they were declared, besides the rowid. -/
  keys : List Key
  checks : List Check
  foreignKeys : List ForeignKey
  rows : List Row
deriving Inhabited

namespace Table

/-- The position of the column of that name, in whichever case the name is written. -/
def column? (t : Table) (name : String) : Option Nat :=
  t.columns.findIdx? fun c => Token.sameName c.name name

/-- The name of a column, as it was written when the table was defined. -/
def columnName (t : Table) (i : Nat) : String := ((t.columns[i]?).map Column.name).getD ""

/-- The affinity of a column by its position. -/
def columnAffinity (t : Table) (i : Nat) : Affinity :=
  ((t.columns[i]?).map Column.affinity).getD .none

/-- The row with a rowid, of which there is at most one. -/
def row? (t : Table) (rowid : Int64) : Option Row := t.rows.find? (·.rowid == rowid)

/-- Puts a row among rows by ascending rowid, in the place of one with the same rowid. -/
def insertRow (r : Row) : List Row → List Row
  | [] => [r]
  | s :: rest =>
    if r.rowid < s.rowid then r :: s :: rest
    else if r.rowid = s.rowid then r :: rest
    else s :: insertRow r rest

/-- Puts a row into the table, in the place of the row with its rowid, if there is one. -/
def insert (t : Table) (r : Row) : Table := { t with rows := insertRow r t.rows }

/-- Takes the row with a rowid out of the table. The other rows keep their places. -/
def erase (t : Table) (rowid : Int64) : Table :=
  { t with rows := t.rows.filter (·.rowid != rowid) }

/-- The greatest rowid that there can be. Once it is taken, a free one has to be looked for. -/
def greatestRowid : Int64 := Int64.maxValue

/-- The least positive rowid, from a start, that no row has; the bound is on the tries. -/
def unusedRowid (t : Table) (start : Int64) : Nat → Int64
  | 0 => start
  | n + 1 => if (t.row? start).isSome then t.unusedRowid (start + 1) n else start

/-- The rowid of a row that does not ask for one: one more than the greatest. -/
def freshRowid (t : Table) : Int64 :=
  match t.rows.getLast? with
  | none => 1
  | some r => if r.rowid = greatestRowid then t.unusedRowid 1 t.rows.length else r.rowid + 1

/-- The first row, other than the one with the given rowid, that has the given values in the
columns of a key. Values of which one is nothing are in nobody's way. -/
def duplicate? (t : Table) (columns : List Nat) (values : List Value) (except? : Option Int64) :
    Option Row :=
  if values.any (· == .null) then none
  else
    t.rows.find? fun r =>
      some r.rowid != except? &&
        (r.key columns).length == values.length &&
        ((r.key columns).zip values).all fun p => sameValue p.1 p.2

/-! ### Membership -/

theorem mem_insertRow {r s : Row} {rows : List Row} (h : s ∈ insertRow r rows) :
    s = r ∨ s ∈ rows := by
  induction rows with
  | nil => simpa [insertRow] using h
  | cons x rest ih =>
    unfold insertRow at h
    split at h
    · simpa using h
    · split at h
      · rcases List.mem_cons.1 h with h | h
        · exact Or.inl h
        · exact Or.inr (List.mem_cons_of_mem _ h)
      · rcases List.mem_cons.1 h with h | h
        · exact Or.inr (h ▸ List.mem_cons_self)
        · exact (ih h).imp_right (List.mem_cons_of_mem _)

theorem self_mem_insertRow (r : Row) (rows : List Row) : r ∈ insertRow r rows := by
  induction rows with
  | nil => simp [insertRow]
  | cons x rest ih =>
    unfold insertRow
    split
    · simp
    · split
      · simp
      · exact List.mem_cons_of_mem _ ih

theorem mem_insert {t : Table} {r s : Row} (h : s ∈ (t.insert r).rows) : s = r ∨ s ∈ t.rows :=
  mem_insertRow h

theorem mem_erase {t : Table} {rowid : Int64} {s : Row} :
    s ∈ (t.erase rowid).rows ↔ s ∈ t.rows ∧ s.rowid ≠ rowid := by simp [erase]

end Table

/-! ### Databases -/

/-- The tables of a database, in the order of their creation. No two of them share a name. -/
structure Database where
  tables : List Table
deriving Inhabited

namespace Database

/-- The database without tables, as a new one is. -/
def empty : Database := ⟨[]⟩

/-- The table of that name, in whichever case the name is written. -/
def find? (d : Database) (name : String) : Option Table :=
  d.tables.find? fun t => Token.sameName t.name name

/-- Replaces the table of the same name among tables, or adds the table at the end. -/
def putTable (t : Table) : List Table → List Table
  | [] => [t]
  | u :: rest => if Token.sameName u.name t.name then t :: rest else u :: putTable t rest

/-- Puts a table into the database, in the place of the one of the same name. -/
def put (d : Database) (t : Table) : Database := ⟨putTable t d.tables⟩

/-- Takes the table of that name out of the database, with all its rows. -/
def erase (d : Database) (name : String) : Database :=
  ⟨d.tables.filter fun t => !Token.sameName t.name name⟩

/-! #### Foreign keys -/

/-- The column of a parent table that a foreign key refers to, if it is a key of that table. -/
def parentKey? (parent : Table) (k : ForeignKey) : Option Nat :=
  match k.target with
  | some target =>
    (parent.column? target).filter fun i =>
      parent.rowidColumn == some i || parent.keys.any fun key => key.columns == [i]
  | none =>
    parent.rowidColumn <|> (parent.keys.find? fun key => key.kind == .primary).bind fun key =>
      match key.columns with
      | [i] => some i
      | _ => none

/-! #### Looking up -/

theorem find?_put_self (d : Database) (t : Table) : (d.put t).find? t.name = some t := by
  obtain ⟨tables⟩ := d
  simp only [put, find?]
  induction tables with
  | nil => simp [putTable, Token.sameName]
  | cons u rest ih =>
    unfold putTable
    split
    · simp [Token.sameName]
    · rename_i h
      simp [h, ih]

theorem find?_put_of_ne (d : Database) (t : Table) {name : String}
    (h : Token.sameName t.name name = false) : (d.put t).find? name = d.find? name := by
  obtain ⟨tables⟩ := d
  simp only [put, find?]
  induction tables with
  | nil => simp [putTable, h]
  | cons u rest ih =>
    unfold putTable
    split
    · rename_i hu
      have hn : Token.sameName u.name name = false := by
        simp only [Token.sameName, beq_iff_eq, beq_eq_false_iff_ne] at *
        rw [hu]; exact h
      simp [h, hn]
    · simp [List.find?_cons, ih]

end Database

end NamedSql.Sql
