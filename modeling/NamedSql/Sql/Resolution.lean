import NamedSql.Sql.Plan

/-!
# Resolution

Looking up the names of a statement in a database and among the registered functions. A name that
is not there is a fault, and so is a function that does not take the number of arguments it is
given.

## Scope

The tables of a query, those of its subqueries included, come before everything else. Then names
are looked up from left to right, and the first that is missing is the fault, with two exceptions.
A missing function is reported only when something other than a column or a call follows it, so a
column that is missing right behind it takes precedence. What is wrong with a value, and not with
a name, is reported only when all names have been found.

## Main definitions

* `Names` — what names are looked up in
* `Resolve` — looking up, with faults that wait
* `Names.term`, `Names.query` — resolved expressions and queries
* `Names.insert`, `Names.update`, `Names.delete` — resolved changes of rows
* `Names.resolve` — a resolved statement

## Main results

* `Resolve.start_pure` — where nothing is looked up, nothing is missing
-/

namespace NamedSql.Sql

/-- What one query contributes to the meaning of names: the columns of its table, and the names that
it gives to what it returns. -/
structure Level where
  /-- The table of the query, and the name by which the query calls it, which hides the name of the
  table. -/
  table : Option (String × Table)
  /-- The names of what the query returns. They mean something only where no column has the name. -/
  labels : List (String × Term)
  /-- Whether rows may be counted here; what selects them must not depend on how many there are. -/
  aggregates : Bool

/-- What names are looked up in: the tables, the functions, and the queries around an expression. -/
structure Names where
  database : Database
  functions : List Function
  /-- Whether keys of other tables are enforced, so that a change has to look at them. -/
  foreignKeys : Bool
  /-- The queries around an expression, the innermost first. A name means what the first of them
  makes of it that knows it. -/
  levels : List Level
  /-- The number of levels of the expressions around an expression, for all of them together are
  bounded. -/
  height : Nat
  /-- Whether the expression is a condition of a table, which must be about a row alone. -/
  inCheck : Bool

/-- The faults that wait, since other faults that are found later take precedence over them. -/
structure Waiting where
  /-- The fault of a call, which waits until something other than a column or a call follows. -/
  call : Option Fault
  /-- The fault of a value, which waits until all names have been found. -/
  value : Option Fault

/-- Looks names up, and stops at the first fault that does not wait. -/
abbrev Resolve := StateT Waiting (Except Fault)

namespace Resolve

/-- Lets the fault of a call wait. Of several such faults the last one counts. -/
def remember (f : Fault) : Resolve Unit := modify ({ · with call := some f })

/-- Lets the fault of a value wait. It never takes precedence over a name that is missing. -/
def later (f : Fault) : Resolve Unit := modify ({ · with value := some f })

/-- Fails with the fault of a call, if one waits. Faults of values go on waiting. -/
def settle : Resolve Unit := do
  match (← get).call with
  | some f => throw f
  | none => return

/-- Fails with any fault that waits, now that nothing is left to be looked up. -/
def finish : Resolve Unit := do
  settle
  match (← get).value with
  | some f => throw f
  | none => return

/-- Looks names up from the start, when no fault waits, and to the end, when none may wait any
longer. -/
def start {α : Type} (r : Resolve α) : Except Fault α :=
  Prod.fst <$> (r <* finish).run ⟨none, none⟩

/-- A value as a term. If it has a fault, that waits, and nothing stands in its place for as long.
-/
def valueTerm : Except Fault Value → Resolve Term
  | .ok v => return .literal v
  | .error f => do
    later f
    return .literal .null

/-- Lets the faults of aggregates wait that count rows which are not known yet, as a condition on
those rows does. -/
def tooEarly (aggregates : List Aggregate) : Resolve Unit :=
  aggregates.forM fun a => later (.earlyAggregate a.name a.offset)

theorem start_pure {α : Type} (a : α) : start (pure a : Resolve α) = .ok a := rfl

end Resolve

namespace Names

/-! ### Columns -/

/-- The names of the rowid. A column of that name comes before it. -/
def isRowid (name : String) : Bool :=
  ["rowid", "oid", "_rowid_"].any fun s => Token.sameName s name

/-- A column of a table by its name, as a term, or its rowid by one of the names that every table
has for it. -/
def columnOf (level : Nat) (t : Table) (name : String) : Option Term :=
  match t.column? name with
  | some i => some (.field level (some i) (t.columnAffinity i))
  | none => if isRowid name then some (.field level none .numeric) else none

/-- What a name means in a query that is some queries out: a column of its table, or what it returns
under that name. -/
def lookUpIn (level : Nat) (l : Level) (c : ColumnName) : Except Fault (Option Term) :=
  let column := l.table.bind fun (called, t) =>
    if c.table.all (Token.sameName called) then columnOf level t c.name else none
  match column with
  | some t => .ok (some t)
  | none =>
    if c.table.isSome then .ok none
    else
      match l.labels.find? fun p => Token.sameName p.1 c.name with
      | none => .ok none
      | some (label, t) =>
        if !l.aggregates && !t.groups.isEmpty then .error (.aliasedAggregate label)
        else .ok (some (t.lifted level 0))

/-- What a name means in some queries, of which the first is some queries out. Inner queries come
before outer ones. -/
def lookUp (level : Nat) : List Level → ColumnName → Except Fault (Option Term)
  | [], _ => .ok none
  | l :: rest, c => do
    match ← lookUpIn level l c with
    | some t => return some t
    | none => lookUp (level + 1) rest c

/-- A truth value by its name, which stands alone and unquoted. It means that only where nothing
else has the name. -/
def truthName? (c : ColumnName) : Option Bool :=
  if c.table.isSome || c.quoted then none
  else if Token.sameName c.name "true" then some true
  else if Token.sameName c.name "false" then some false
  else none

/-- What the name of a column means. A name in double quotes that means nothing else is a text,
and two words stand for the truth values. -/
def column (n : Names) (c : ColumnName) : Except Fault Term := do
  match ← lookUp 0 n.levels c with
  | some t => return t
  | none =>
    if c.table.isNone && c.quoted then return .literal (.text c.name)
    match truthName? c with
    | some b => return .literal (Truth.ofBool b).toValue
    | none => throw (.noSuchColumn (c.table.elim "" (· ++ ".") ++ c.name) c.offset)

/-! ### Tables -/

/-- The table of that name, which may be written in another case than where it was defined. -/
def table (n : Names) (name : String) : Except Fault Table :=
  match n.database.find? name with
  | some t => .ok t
  | none => .error (.noSuchTable name)

/-- The table of a query, and the name by which the query calls it: its own, unless it is given
another one. -/
def source (n : Names) : Option Source → Except Fault (Option (String × Table))
  | none => .ok none
  | some s => do return some (s.label.getD s.table, ← n.table s.table)

/-- The greatest number of columns of a table or of a result. It is checked before the columns
themselves are. -/
def greatestWidth : Nat := 2000

/-- How many values are returned, if the columns are there that are returned as a whole. -/
def resultWidth (t : Option (String × Table)) : List ResultColumn → Except Fault Nat
  | [] => .ok 0
  | .value .. :: rest => do return (← resultWidth t rest) + 1
  | .everything :: rest =>
    match t with
    | none => .error .noTable
    | some (_, t) => do return (← resultWidth (some ("", t)) rest) + t.columns.length
  | .allOf name :: rest =>
    match t.filter fun p => Token.sameName p.1 name with
    | none => .error (.noSuchTable name)
    | some (_, t) => do return (← resultWidth (some (name, t)) rest) + t.columns.length

/-- Whether the columns that a query returns are there and not too many. Values count as one column
each. -/
def checkWidth (t : Option (String × Table)) (columns : List ResultColumn) : Except Fault Unit := do
  if greatestWidth < (← resultWidth t columns) then throw .tooManyResults

mutual

/-- Whether the tables of an expression are there, which only its subqueries read. -/
def checkTables (n : Names) : Expr → Except Fault Unit
  | .literal .. | .parameter .. | .column _ => .ok ()
  | .not e | .negate e | .plus e => n.checkTables e
  | .binary _ l r => do
    n.checkTables l
    n.checkTables r
  | .call _ _ arguments => n.checkTablesOfAll arguments
  | .scalar _ q => n.checkTablesOfQuery q

/-- Whether the tables of some expressions are there, looked for from left to right. -/
def checkTablesOfAll (n : Names) : List Expr → Except Fault Unit
  | [] => .ok ()
  | e :: rest => do
    n.checkTables e
    n.checkTablesOfAll rest

/-- Whether the tables of what a query returns are there. Columns returned as a whole have been
looked at before. -/
def checkTablesOfResults (n : Names) : List ResultColumn → Except Fault Unit
  | [] => .ok ()
  | .value e _ _ :: rest => do
    n.checkTables e
    n.checkTablesOfResults rest
  | _ :: rest => n.checkTablesOfResults rest

/-- Whether the tables of an ordering are there, looked for from the first term to the last. -/
def checkTablesOfOrder (n : Names) : List OrderTerm → Except Fault Unit
  | [] => .ok ()
  | .mk e _ :: rest => do
    n.checkTables e
    n.checkTablesOfOrder rest

/-- Whether the tables of a condition are there. Without a condition none is missing. -/
def checkTablesOfCondition (n : Names) : Option Expr → Except Fault Unit
  | none => .ok ()
  | some e => n.checkTables e

/-- Whether the tables of a query are there: its own, and then those of its subqueries. -/
def checkTablesOfQuery (n : Names) : Select → Except Fault Unit
  | .mk columns source condition order => do
    let t ← n.source source
    checkWidth t columns
    n.checkTablesOfResults columns
    n.checkTablesOfCondition condition
    n.checkTablesOfOrder order

end

/-! ### Expressions -/

/-- Something that a query returns, with the name that its column has in what is delivered. -/
structure Result where
  term : Term
  name : String
  /-- The name by which the rest of the query may refer to it, if it was given one. -/
  label : Option String

namespace Result

/-- The results that have a name for the rest of the query, in order, so that the first of a name is
found. -/
def labels (results : List Result) : List (String × Term) :=
  results.filterMap fun r => r.label.map fun label => (label, r.term)

end Result

/-- The columns of a table as results, in the order in which the table defines them. -/
def everyColumn (t : Table) : List Result :=
  (List.range t.columns.length).map fun i =>
    ⟨.field 0 (some i) (t.columnAffinity i), t.columnName i, some (t.columnName i)⟩

/-- The name of a result: the one given to it, or that of the column that it is, or else the text
that it is written as. -/
def resultName (t : Option (String × Table)) (label : Option String) (written : String) :
    Term → String
  | .field 0 column _ =>
    label.getD <| (t.elim written fun p =>
      (column <|> p.2.rowidColumn).elim "rowid" p.2.columnName)
  | _ => label.getD written

/-- The greatest position of a result that an ordering may name. A greater number is a fault
wherever it stands. -/
def greatestPosition : Int := 0xffff

/-- The result that a term of an ordering stands for, by its name or by its position. The first
argument is the number of the term. -/
def orderedResult? (number : Nat) (results : List Result) : Expr → Except Fault (Option Term)
  | .column c =>
    if c.table.isNone then
      .ok (((Result.labels results).find? fun p => Token.sameName p.1 c.name).map Prod.snd)
    else .ok none
  | e =>
    match e.small? with
    | none => .ok none
    | some (i, offset) =>
      if i < 1 || greatestPosition < i then
        .error (.orderTerm number results.length (some offset))
      else .ok (some (((results[i.toNat - 1]?).map Result.term).getD (.literal (.integer 0))))

/-- Whether the terms of an ordering that are positions are positions of results. Nothing else in an
ordering is looked at here. -/
def checkPositions (width : Nat) (order : List OrderTerm) : Except Fault Unit :=
  (order.zipIdx 1).forM fun (.mk e _, number) =>
    if e.small?.any fun p => (width : Int) < p.1 then .error (.orderTerm number width none)
    else .ok ()

/-- The names within another query, whose level is then the innermost. -/
def within (n : Names) (l : Level) : Names := { n with levels := l :: n.levels }

/-- The names within the arguments of an aggregate, in which no rows are counted. -/
def withinAggregate (n : Names) : Names :=
  { n with levels := n.levels.modifyHead ({ · with aggregates := false }) }

/-- Whether rows may be counted, which the innermost query decides. -/
def allowsAggregates (n : Names) : Bool := n.levels.head?.any Level.aggregates

/-- The names within an expression, which must not have too many levels, those around it
included. -/
def around (n : Names) (e : Expr) : Except Fault Names :=
  let height := n.height + e.height
  if greatestHeight < height then .error .tooManyLevels else .ok { n with height }

/-- A comparison. Whether something is one of the two words for the truth values asks for its
truth. -/
def compared (op : BinaryOp) (l r : Term) (written : Expr) : Term :=
  match written, r with
  | .column c, .literal _ =>
    if (op == .is || op == .isNot) && (truthName? c).isSome then .binary op (.not (.not l)) r
    else .binary op l r
  | _, _ => .binary op l r

mutual

/-- A resolved expression. Its parts are resolved from left to right, and whatever is no call or
column lets the fault of a call come out. -/
def term (n : Names) : Expr → Resolve Term
  | .literal l offset => do
    Resolve.settle
    Resolve.valueTerm (l.eval offset)
  | .parameter number offset => do
    if n.inCheck then throw (.prohibitedInCheck "parameters" (some offset))
    Resolve.settle
    return .parameter number
  | .column c => n.column c
  | .not e => do
    Resolve.settle
    return .not (← n.term e)
  | .negate e => do
    Resolve.settle
    match e.negated? with
    | some v => Resolve.valueTerm v
    | none => return .negate (← n.term e)
  | .plus e => do
    Resolve.settle
    return .plus (← n.term e)
  | .binary op l r => do
    Resolve.settle
    let l ← n.term l
    return compared op l (← n.term r) r
  | .call name offset arguments => do
    match Function.resolve n.functions name arguments.length with
    | .found (.registered f) => return .call f (← n.terms arguments)
    | .found .typeOf => return .typeOf ((← n.terms arguments).headD (.literal .null))
    | .found .count =>
      if !n.allowsAggregates then Resolve.remember (.misusedAggregate name offset)
      let arguments ← n.withinAggregate.terms arguments
      let a : Aggregate := ⟨Term.owner arguments, name, offset⟩
      return arguments.head?.elim (.countRows a) (.count a)
    | .wrongCount =>
      Resolve.remember (.argumentCount name offset)
      let _ ← n.terms arguments
      return .literal .null
    | .unknown =>
      Resolve.remember (.noSuchFunction name offset)
      let _ ← n.terms arguments
      return .literal .null
  | .scalar offset q => do
    if n.inCheck then throw (.prohibitedInCheck "subqueries" none)
    n.checkTablesOfQuery q
    let (plan, columns) ← n.query .firstRow q
    Resolve.settle
    if columns.length ≠ 1 then Resolve.later (.subqueryColumns columns.length)
    return .scalar (if (plan.references 1).isEmpty then some offset else none) plan

/-- Resolved expressions that belong together, such as the arguments of a call, from left to right.
-/
def terms (n : Names) : List Expr → Resolve (List Term)
  | [] => return []
  | e :: rest => do
    let t ← n.term e
    return t :: (← n.terms rest)

/-- What a query returns, with names. A column that is returned has its own name unless it is given
another one. -/
def results (n : Names) (t : Option (String × Table)) : List ResultColumn → Resolve (List Result)
  | [] => return []
  | .value e label written :: rest => do
    let v ← (← n.around e).term e
    Resolve.settle
    return ⟨v, resultName t label written v, label⟩ :: (← n.results t rest)
  | .everything :: rest | .allOf _ :: rest => do
    return (t.elim [] fun p => everyColumn p.2) ++ (← n.results t rest)

/-- The resolved conditions that all have to hold: what the condition is a conjunction of, and none
without a condition. -/
def conditions (n : Names) : Option Expr → Resolve (List Term)
  | none => return []
  | some e => do
    let t ← (← n.around e).term e
    Resolve.settle
    return t.conjuncts

/-- A resolved ordering. A name given to a result and the position of a result stand for it. -/
def orderKeys (n : Names) (results : List Result) (number : Nat) :
    List OrderTerm → Resolve (List OrderKey)
  | [] => return []
  | .mk e descending :: rest => do
    let t ←
      match ← orderedResult? number results e with
      | some t => pure t
      | none => (← n.around e).term e
    Resolve.settle
    return .mk t descending :: (← n.orderKeys results (number + 1) rest)

/-- A resolved query, and the names of its columns. Its rows are counted if it returns an aggregate
over them, and then they are in no order. -/
def query (n : Names) (purpose : Purpose) : Select → Resolve (QueryPlan × List String)
  | .mk columns source condition order => do
    let t ← n.source source
    let results ← (n.within ⟨t, [], true⟩).results t columns
    let values := results.map Result.term
    let labels := Result.labels results
    let grouped := values.any fun v => !v.groups.isEmpty
    let conditions ← (n.within ⟨t, labels, grouped⟩).conditions condition
    let keys ← ({ n with levels := [⟨t, labels, true⟩] } : Names).orderKeys results 1 order
    checkPositions results.length order
    Resolve.tooEarly (conditions.map Term.groups).flatten
    if !grouped then Resolve.tooEarly (keys.map fun | .mk t _ => t.groups).flatten
    let needed := Term.columnsRead
      (referencesOfAll 0 values ++ referencesOfAll 0 conditions ++ referencesOfOrder 0 keys)
    let keys := if grouped then [] else keys
    let rows :=
      match t with
      | none => .mk none ⟨none, false, keys.length⟩ [] conditions
      | some (_, t) => t.selection ⟨conditions, needed, keys, values.length, purpose⟩
    return (.mk rows values keys grouped, results.map Result.name)

end

/-! ### Changes of rows -/

/-- The names in the values of a single row, of which nothing is counted. Without a table no column
is known. -/
def forRow (n : Names) (t : Option Table) : Names :=
  n.within ⟨t.map fun t => (t.name, t), [], false⟩

/-- A value of a single row. Counting rows in it is a fault. -/
def rowTerm (n : Names) (e : Expr) : Resolve Term := do
  let t ← (← n.around e).term e
  Resolve.settle
  Resolve.tooEarly t.groups
  return t

/-- What a change returns. It is looked up twice, at first as if a query returned it. -/
def returning (n : Names) (t : Table) (columns : List ResultColumn) : Resolve (List Result) := do
  let named : ResultColumn → Bool
    | .allOf _ => true
    | _ => false
  if columns.any named then throw .returnedTable
  let source := some (t.name, t)
  checkWidth source columns
  n.checkTablesOfResults columns
  let _ ← (n.within ⟨source, [], true⟩).results source columns
  let results ← (n.forRow (some t)).results source columns
  Resolve.tooEarly (results.map fun r => r.term.groups).flatten
  return results

/-- The conditions of a table, resolved anew for each statement that changes its rows. -/
def checks (n : Names) (t : Table) : Resolve (List CheckPlan) :=
  t.checks.mapM fun c => do
    return ⟨← ({ n.forRow (some t) with inCheck := true } : Names).rowTerm c.condition, c.label⟩

/-- The resolved conditions on the rows of a single table, which is the one that is changed. -/
def rowConditions (n : Names) (t : Table) (e : Option Expr) : Resolve (List Term) := do
  let conditions ← (n.forRow (some t)).conditions e
  Resolve.tooEarly (conditions.map Term.groups).flatten
  return conditions

/-! #### Keys of other tables -/

/-- The keys that a table takes part in, those declared last first; none if keys are not
enforced. -/
def keyChecks (n : Names) (t : Table) : KeyChecks :=
  if n.foreignKeys then
    ⟨t.foreignKeys.reverse, (n.database.tables.map fun child =>
      (child.foreignKeys.filter fun k => Token.sameName k.parent t.name).map fun k =>
        (child.name, k)).flatten.reverse⟩
  else .none

/-- The keys that a change of some columns has to look at. A table that refers to itself looks at
those keys whenever it looks at any. -/
def changedKeys (k : KeyChecks) (t : Table) (changed : Nat → Bool) : KeyChecks :=
  let isPrimary (i : Nat) : Bool :=
    t.rowidColumn == some i ||
      t.keys.any fun key => key.kind == .primary && key.columns.contains i
  let isTarget (k : ForeignKey) (i : Nat) : Bool :=
    k.target.elim (isPrimary i) fun name => Token.sameName (t.columnName i) name
  let own := k.own.filter fun k => changed k.column
  let referring := k.referring.filter fun (_, k) =>
    (List.range t.columns.length).any fun i => changed i && isTarget k i
  if own.isEmpty && referring.isEmpty then .none
  else
    ⟨k.own.filter fun k => changed k.column || Token.sameName k.parent t.name, referring⟩

/-- Whether the keys that a change has to look at are keys: the other table is there, and what is
referred to tells its rows apart. -/
def checkKeys (n : Names) (t : Table) (k : KeyChecks) : Except Fault Unit := do
  k.own.forM fun k => do
    match n.database.find? k.parent with
    | none => throw (.noSuchTable ("main." ++ k.parent))
    | some parent =>
      if (Database.parentKey? parent k).isNone then throw (.keyMismatch t.name k.parent)
  k.referring.forM fun (child, k) =>
    if (Database.parentKey? t k).isNone then throw (.keyMismatch child k.parent) else pure ()

/-! #### Insertion -/

/-- The values of rows that are inserted, the last row first, for that is the order in which names
are looked up. All rows have as many values. -/
def insertedRows (n : Names) (width : Option Nat) : List (List Expr) → Resolve (List (List Term))
  | [] => return []
  | row :: above => do
    let values ← row.mapM n.rowTerm
    if width.any (· != row.length) then throw .unevenRows
    return (← n.insertedRows (some row.length) above) ++ [values]

/-- The values of the only row of an insertion in the order in which they are evaluated: for the
columns of the table, and then for the rowid. Values that nothing gets are left out. -/
def inTableOrder (p : InsertPlan) : InsertPlan :=
  let used := p.positions.filterMap id ++ p.rowid.toList
  let moved (i : Option Nat) : Option Nat := i.bind fun i => used.findIdx? (· == i)
  { p with
    positions := p.positions.map moved
    rowid := moved p.rowid
    rows := p.rows.map fun row => used.filterMap (row[·]?) }

/-- A resolved insertion: which of the given values goes to which column, what holds the rows up,
and what is returned. -/
def insert (n : Names) (s : Insert) : Resolve Resolved := do
  let t ← n.table s.table
  let targets ← (s.columns.getD []).mapM fun name =>
    match t.column? name with
    | some i => pure (some i)
    | none => if isRowid name then pure none else throw (.noSuchTarget t.name name)
  let several := decide (1 < s.rows.length)
  if several then s.rows.reverse.forM fun row => liftM (n.checkTablesOfAll row)
  let rows ← (n.within ⟨none, [], several⟩).insertedRows none s.rows.reverse
  let supplied := (rows.head?.map List.length).getD 0
  match s.columns with
  | none =>
    if supplied ≠ t.columns.length then
      throw (.tableValues t.name t.columns.length supplied)
  | some _ => if supplied ≠ targets.length then throw (.listedValues supplied targets.length)
  let isRowidTarget (target : Option Nat) : Bool := target.isNone || target == t.rowidColumn
  let rowid :=
    if s.columns.isNone then t.rowidColumn
    else (targets.zipIdx.reverse.find? fun p => isRowidTarget p.1).map Prod.snd
  let positions := (List.range t.columns.length).map fun i =>
    if t.rowidColumn == some i then none
    else if s.columns.isNone then some i
    else targets.findIdx? (· == some i)
  let keys := n.keyChecks t
  let replaces := s.conflict == .replace && !keys.isEmpty && (rowid.isSome || !t.keys.isEmpty)
  let atOnce := !several && s.returning.isEmpty && !replaces
  liftM <| n.checkKeys t <|
    if atOnce then { keys with referring := keys.referring.filter (·.2.deferred) } else keys
  let checks ← n.checks t
  let returned ← n.returning t s.returning
  let ahead := !s.returning.isEmpty || (queriedByAll rows.flatten).contains (some t.name)
  let plan : InsertPlan :=
    ⟨t.name, s.conflict, positions, rowid, rows, ahead, checks, keys, atOnce,
      returned.map Result.term⟩
  return ⟨.insert (if several then plan else inTableOrder plan), returned.map Result.name⟩

/-! #### Change and deletion -/

/-- New values for columns, in the order in which they are written. Of several for one column the
last counts. -/
def assignments (n : Names) (t : Table) :
    List (String × Expr) → Resolve (List (Option Nat × Term))
  | [] => return []
  | (name, e) :: rest => do
    let v ← (n.forRow (some t)).rowTerm e
    let target ←
      match t.column? name with
      | some i => pure (some i)
      | none => if isRowid name then pure none else throw (.noSuchColumn name none)
    return (target, v) :: (← n.assignments t rest)

/-- The selection of the rows of a table that are changed or deleted, in no order that was asked
for. -/
def changedRows (t : Table) (conditions : List Term) : Selection :=
  t.selection ⟨conditions, Term.columnsRead (referencesOfAll 0 conditions), [], 0, .change⟩

/-- A resolved change of rows. Rows are changed as soon as they are selected if that cannot disturb
the selection. -/
def update (n : Names) (s : Update) : Resolve Resolved := do
  let t ← n.table s.table
  let assignments ← n.assignments t s.assignments
  let conditions ← n.rowConditions t s.condition
  let isRowidTarget (target : Option Nat) : Bool := target.isNone || target == t.rowidColumn
  let assigned := assignments.reverse
  let rowid := (assigned.find? fun a => isRowidTarget a.1).map Prod.snd
  let values := (List.range t.columns.length).filterMap fun i =>
    if t.rowidColumn == some i then none
    else (assigned.find? fun a => a.1 == some i).map fun a => (i, a.2)
  let isChanged (i : Nat) : Bool :=
    values.any (·.1 == i) || (rowid.isSome && t.rowidColumn == some i)
  let every := n.keyChecks t
  let keys := changedKeys every t isChanged
  liftM (n.checkKeys t keys)
  let checks ← n.checks t
  let returned ← n.returning t s.returning
  let rows := changedRows t conditions
  let scanned := (rows.scan.key.map Key.columns).getD []
  let disturbing := !s.returning.isEmpty || !keys.isEmpty || rowid.isSome ||
    s.conflict == .replace || !(queriedByAll conditions).isEmpty || scanned.any isChanged
  return ⟨.update ⟨t.name, s.conflict, rows, disturbing, rowid, values, checks, keys, every,
    returned.map Result.term⟩, returned.map Result.name⟩

/-- A resolved deletion, with the keys that other tables may miss when its rows are gone. -/
def delete (n : Names) (s : Delete) : Resolve Resolved := do
  let t ← n.table s.table
  let conditions ← n.rowConditions t s.condition
  let keys := n.keyChecks t
  liftM (n.checkKeys t keys)
  let returned ← n.returning t s.returning
  return ⟨.delete ⟨t.name, changedRows t conditions, keys, returned.map Result.term⟩,
    returned.map Result.name⟩

/-! ### Definitions of tables -/

/-- A rule of a column, added to a table in which it is the last one. -/
def addRule (c : ColumnDefinition) (t : Table) : ColumnRule → Except Fault Table
  | .primaryKey descending =>
    if t.rowidColumn.isSome || t.keys.any (·.kind == .primary) then
      .error (.severalPrimaryKeys t.name)
    else if Token.sameName c.type "integer" && !descending then
      .ok { t with rowidColumn := some last }
    else if t.keys.any (·.columns == [last]) then
      .ok { t with keys := t.keys.map fun key =>
        if key.columns == [last] then { key with kind := .primary } else key }
    else .ok { t with keys := t.keys ++ [⟨.primary, [last], descending⟩] }
  | .unique =>
    if t.keys.any (·.columns == [last]) then .ok t
    else .ok { t with keys := t.keys ++ [⟨.unique, [last], false⟩] }
  | .notNull => .ok { t with columns := t.columns.modify last ({ · with notNull := true }) }
  | .default v => .ok { t with columns := t.columns.modify last ({ · with default := v }) }
  | .check e label => .ok { t with checks := t.checks ++ [⟨e, label⟩] }
  | .references parent target =>
    .ok { t with foreignKeys := t.foreignKeys ++ [⟨last, parent, target, false⟩] }
  | .deferred b =>
    .ok { t with
      foreignKeys := t.foreignKeys.modify (t.foreignKeys.length - 1) ({ · with deferred := b }) }
where
  /-- The position of the last column, which is the one that the rule is about. -/
  last : Nat := t.columns.length - 1

/-- Adds a column to a table, and then its rules one after the other. -/
def addColumn (t : Table) (c : ColumnDefinition) : Except Fault Table :=
  if greatestWidth ≤ t.columns.length then .error (.tooManyColumns t.name)
  else if (t.column? c.name).isSome then .error (.repeatedColumn c.name)
  else
    c.rules.foldlM (addRule c) { t with columns := t.columns ++ [⟨c.name, c.type, false, .null⟩] }

/-- Whether a name is kept for the tables of the engine, in whichever case it is written. -/
def isReserved (name : String) : Bool :=
  Token.sameName (String.ofList (name.toList.take 7)) "sqlite_"

/-- The creation of a table. One that is there already is a fault unless the statement allows for
it. -/
def createTable (n : Names) (s : CreateTable) : Resolve Resolved := do
  if isReserved s.table then throw (.reservedObjectName s.table)
  if (n.database.find? s.table).isSome then
    if s.ifNotExists then return ⟨.createTable none, []⟩
    throw (.tableExists s.table s.offset)
  let t ← liftM (s.columns.foldlM addColumn ⟨s.table, [], none, [], [], [], []⟩)
  let _ ← n.checks t
  return ⟨.createTable (some t), []⟩

/-- The addition of a column to a table. The new column cannot be a key, and what it demands must
not be plainly wrong for rows that are there. -/
def extendTable (n : Names) (table : String) (c : ColumnDefinition) : Resolve Resolved := do
  let t ← n.table table
  let extended ← addColumn { t with rowidColumn := none, keys := [], rows := [] } c
  if extended.rowidColumn.isSome || extended.keys.any (·.kind == .primary) then
    throw (.addedKey .primary)
  if !extended.keys.isEmpty then throw (.addedKey .unique)
  let column := (extended.columns.getLast?).getD ⟨c.name, c.type, false, .null⟩
  let checks ← n.checks { extended with name := t.name }
  let refers := t.foreignKeys.length < extended.foreignKeys.length
  let fault : Option Fault :=
    if n.foreignKeys && refers && column.default != .null then some .addedReference
    else if column.notNull && column.default == .null then some .addedNull
    else none
  let definition := { extended with rowidColumn := t.rowidColumn, keys := t.keys }
  return ⟨.addColumn ⟨definition, column, fault, checks.drop t.checks.length⟩, []⟩

/-! ### Pragmas -/

/-- What a pragma asks for. The setting that enforces keys of other tables is read when the pragma
is prepared. -/
def pragma (n : Names) (name : String) (value : Option String) : Resolved :=
  if Token.sameName name "journal_mode" then ⟨.journalMode value, ["journal_mode"]⟩
  else if Token.sameName name "foreign_keys" then
    if value.isSome then ⟨.expire, []⟩
    else
      let setting : Term := .literal (Truth.ofBool n.foreignKeys).toValue
      ⟨.query (.mk default [setting] [] false), ["foreign_keys"]⟩
  else ⟨.idle, []⟩

/-! ### Statements -/

/-- A statement ready to run, with faults that wait. Nothing in the database is changed by that. -/
def statement (n : Names) : Statement → Resolve Resolved
  | .select s => do
    n.checkTablesOfQuery s
    let (q, columns) ← n.query .rows s
    return ⟨.query q, columns⟩
  | .insert s => n.insert s
  | .update s => n.update s
  | .delete s => n.delete s
  | .createTable s => n.createTable s
  | .dropTable table ifExists =>
    match n.database.find? table with
    | some t => return ⟨.dropTable (some (t.name, n.keyChecks t)), []⟩
    | none => if ifExists then return ⟨.dropTable none, []⟩ else throw (.noSuchTable table)
  | .addColumn table column => n.extendTable table column
  | .control c => return ⟨.control c, []⟩
  | .pragma name value => return n.pragma name value

/-- A statement ready to run, or the fault that takes precedence over the others in it. -/
def resolve (n : Names) (s : Statement) : Except Fault Resolved := Resolve.start (n.statement s)

end Names

end NamedSql.Sql
