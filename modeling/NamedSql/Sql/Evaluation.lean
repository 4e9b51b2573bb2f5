import NamedSql.Sql.Term

/-!
# Evaluation

What terms and queries come out as. An evaluation reads a database and changes nothing, but it
remembers the values of queries that read nothing of the queries around them, so that such a query
is evaluated once in a statement, whatever the statement changes meanwhile.

## Scope

A query delivers its rows one after the other, so it may deliver some rows before it fails. A query
that orders its rows delivers those that no row to come can precede, and one that counts its rows
has to see all of them first.

## Main definitions

* `Scope` — the database, the parameters and the rows that a term may read
* `Eval` — an evaluation, which remembers values and may fail
* `Term.eval` — the value of a term
* `Selection.start`, `Selection.holds` — the rows to look at, and whether one of them is selected
* `QueryPlan.results` — the rows of a query, and how they end

## Main results

* `collect_of_forall_ok` — rows that can all be evaluated are all delivered
* `Use.finish_finish` — a decision is a decision about itself
-/

namespace NamedSql.Sql

/-- The row that a query has reached, and the rows that it has selected if it counts them. -/
structure Frame where
  row : Option Row
  group : List Row
deriving Inhabited

/-- What a term may read. Names have been looked up before, so nothing is missing in it. -/
structure Scope where
  database : Database
  parameters : List Value
  /-- The rows of the queries around the term, the innermost first. A term says how far out its row
  is. -/
  frames : List Frame
deriving Inhabited

namespace Scope

/-- The value of a parameter, whose numbers count from one. A parameter that is not bound is
nothing. -/
def parameter (s : Scope) (number : Nat) : Value := s.parameters.getD (number - 1) .null

/-- The value of a column of the row some queries out, or the rowid of that row. Where no row has
been reached it is nothing. -/
def field (s : Scope) (level : Nat) (column : Option Nat) : Value :=
  match (s.frames[level]?).bind Frame.row with
  | none => .null
  | some r => column.elim (.integer r.rowid) r.value

/-- The scope of a query that has not reached a row. Its columns are nothing so far. -/
def entered (s : Scope) : Scope := { s with frames := ⟨none, []⟩ :: s.frames }

/-- The scope of a query that has reached a row, which is then the innermost one. -/
def within (s : Scope) (r : Row) : Scope := { s with frames := ⟨some r, []⟩ :: s.frames }

/-- The scope of the single result of a query that counts the rows that it has selected. Where it
reads a row, it is the first one. -/
def withGroup (s : Scope) (rows : List Row) : Scope :=
  { s with frames := ⟨rows.head?, rows⟩ :: s.frames }

/-- The same scope with another row some queries out, as an aggregate goes through rows that are
selected already. -/
def atRow (s : Scope) (level : Nat) (r : Row) : Scope :=
  { s with frames := s.frames.set level ⟨some r, []⟩ }

/-- The rows that the query some queries out has selected; there are none unless it counts them. -/
def group (s : Scope) (level : Nat) : List Row := ((s.frames[level]?).map Frame.group).getD []

/-- The order of lists of values: the first place in which they differ decides. -/
def compareKeys : List Value → List Value → Ordering
  | u :: us, v :: vs => (compareValues u v).then (compareKeys us vs)
  | _, _ => .eq

/-- The rows of a table as a scan enumerates them; without a table there is a single row. -/
def rows (s : Scope) (table : Option String) (scan : Scan) : List Row :=
  match table with
  | none => [⟨0, []⟩]
  | some name =>
    let rows := ((s.database.find? name).map Table.rows).getD []
    let rows := scan.key.elim rows fun key =>
      rows.mergeSort fun r₁ r₂ =>
        compareKeys (r₁.key key.columns) (r₂.key key.columns) != if key.descending then .lt else .gt
    if scan.backward then rows.reverse else rows

end Scope

/-! ### Evaluations -/

/-- The values of queries that need not be evaluated again, by their numbers. -/
abbrev Memo := List (Nat × Value)

/-- An evaluation. It reads a scope, carries along the values that are remembered, and may end with
a fault. -/
abbrev Eval := StateT Memo (Except Fault)

/-- A value that is evaluated once, if it has a number. It is the same from then on, whatever
changes. -/
def remembered (once : Option Nat) (value : Eval Value) : Eval Value := do
  let memo ← get
  match once.bind fun n => memo.lookup n with
  | some v => return v
  | none =>
    let v ← value
    modify ((once.toList.map fun n => (n, v)) ++ ·)
    return v

/-- What items are evaluated to, and how they end: with a fault, or with what is remembered. -/
structure Delivery (β : Type) where
  items : List β
  ending : Except Fault Memo

namespace Delivery

variable {α β κ : Type}

/-- Nothing but a fault: no item came before it. -/
def failure (f : Fault) : Delivery β := ⟨[], .error f⟩

/-- What comes of an evaluation that delivers items. If it fails, none of them is delivered. -/
def ofEval (e : Eval (List β)) (m : Memo) : Delivery β :=
  match e m with
  | .ok (items, m) => ⟨items, .ok m⟩
  | .error f => .failure f

/-- The first value of the first item, and nothing where there is no item. A fault counts even
behind the first item. -/
def firstValue (d : Memo → Delivery (List Value)) : Eval Value := fun m =>
  match d m with
  | ⟨_, .error f⟩ => .error f
  | ⟨items, .ok m⟩ => .ok ((items.head?.bind List.head?).getD .null, m)

end Delivery

/-- What some items are evaluated to, up to the first fault, or up to the first result if a single
one is wanted. Items may be left out. -/
def collect {α β : Type} (single : Bool) (f : α → Eval (Option β)) : List α → Memo → Delivery β
  | [], m => ⟨[], .ok m⟩
  | a :: rest, m =>
    match f a m with
    | .error e => .failure e
    | .ok (none, m) => collect single f rest m
    | .ok (some b, m) =>
      let d := if single then ⟨[], .ok m⟩ else collect single f rest m
      ⟨b :: d.items, d.ending⟩

theorem collect_of_forall_ok {α β : Type} {f : α → Eval (Option β)} {g : α → Option β}
    {l : List α} (h : ∀ a ∈ l, ∀ m, f a m = .ok (g a, m)) (m : Memo) :
    collect false f l m = ⟨l.filterMap g, .ok m⟩ := by
  induction l with
  | nil => rfl
  | cons a rest ih =>
    have hr := ih fun b hb => h b (List.mem_cons_of_mem _ hb)
    simp only [collect, h a List.mem_cons_self m, List.filterMap_cons]
    cases g a <;> simp [hr]

/-- The item with the least key, which is alone evaluated to its end: an item with a key that does
not precede that of an earlier one is passed over, and nothing is looked at behind a key that
closes the search. -/
def least {α β κ : Type} (precedes closes : κ → κ → Bool) (key : α → Eval (Option κ))
    (value : α → Eval β) : Option (κ × β) → List α → Memo → Delivery β
  | best, [], m => ⟨(best.map Prod.snd).toList, .ok m⟩
  | best, a :: rest, m =>
    match key a m with
    | .error e => .failure e
    | .ok (none, m) => least precedes closes key value best rest m
    | .ok (some k, m) =>
      if best.any fun b => closes b.1 k then ⟨(best.map Prod.snd).toList, .ok m⟩
      else if best.all fun b => precedes k b.1 then
        match value a m with
        | .error e => .failure e
        | .ok (v, m) => least precedes closes key value (some (k, v)) rest m
      else least precedes closes key value best rest m

/-! ### Operators -/

/-- The outcome of a comparison of two values that are both something, from how they are ordered. -/
def holds (op : BinaryOp) (o : Ordering) : Bool :=
  match op with
  | .eq | .is => o == .eq
  | .ne | .isNot => o != .eq
  | .lt => o == .lt
  | .le => o != .gt
  | .gt => o == .gt
  | .ge => o != .lt
  | _ => false

/-- The value of an operator on two values, which are compared by an affinity. -/
def applyOp (op : BinaryOp) (a : Affinity) (u v : Value) : Value :=
  let compared :=
    (Truth.ofBool (holds op (compareValues (a.compared u v) (a.compared v u)))).toValue
  match op with
  | .or => ((Truth.ofValue u).or (Truth.ofValue v)).toValue
  | .and => ((Truth.ofValue u).and (Truth.ofValue v)).toValue
  | .add => addValues u v
  | .subtract => subtractValues u v
  | .join => joinValues u v
  | .is | .isNot => compared
  | _ => if u == .null || v == .null then .null else compared

/-- The name of a value's type, as the function for it tells. -/
def typeName : Value → String
  | .null => "null"
  | .integer _ => "integer"
  | .real _ => "real"
  | .text _ => "text"
  | .blob _ => "blob"

/-- What a value is wanted for: as it is, or to decide whether a condition holds, where the unknown
may count as true. -/
inductive Use where
  | value
  | condition (unknown : Bool)
deriving DecidableEq, Repr

namespace Use

/-- A value as it is wanted. A decision is one or zero, so finishing it once more changes nothing.
-/
def finish (use : Use) (v : Value) : Value :=
  match use, Truth.ofValue v with
  | .value, _ => v
  | .condition _, .no | .condition false, .unknown => .integer 0
  | .condition _, .yes | .condition true, .unknown => .integer 1

/-- What the opposite is wanted for. What counts as true in the one counts as false in the other. -/
def opposite : Use → Use
  | .value => .value
  | .condition unknown => .condition !unknown

/-- What the operands of an operator are wanted for. Conditions make a condition; everything else
needs their values. -/
def operand (use : Use) : BinaryOp → Use
  | .and | .or => use
  | _ => .value

/-- The decision that the left operand alone makes. Only conditions are decided so. -/
def decided? (use : Use) (op : BinaryOp) (left : Value) : Option Value :=
  match use, op, Truth.ofValue left with
  | .condition _, .and, .no => some (.integer 0)
  | .condition _, .or, .yes => some (.integer 1)
  | _, _, _ => none

theorem finish_finish (use : Use) (v : Value) : use.finish (use.finish v) = use.finish v := by
  have h0 : Truth.ofValue (.integer 0) = .no := by decide
  have h1 : Truth.ofValue (.integer 1) = .yes := by decide
  rcases use with _ | b
  · rfl
  · cases b <;> rcases h : Truth.ofValue v <;> simp [finish, h, h0, h1]

end Use

/-! ### Orderings -/

/-- Whether a row with some values to order by precedes, or may precede, another one. -/
def orderedBefore (tie : Bool) : List Bool → List Value → List Value → Bool
  | descending :: ds, u :: us, v :: vs =>
    match compareValues u v with
    | .eq => orderedBefore tie ds us vs
    | .lt => !descending
    | .gt => descending
  | _, _, _ => tie

/-- The directions of an ordering: for each key, whether it is descending. -/
def directions (order : List OrderKey) : List Bool := order.map fun | .mk _ descending => descending

/-- Whether two lists of values to order by differ in what the rows are already ordered by. -/
def inOtherBlock (sorted : Nat) (u v : List Value) : Bool :=
  Scope.compareKeys (u.take sorted) (v.take sorted) != .eq

/-- The found rows in order. If a fault ended them, those are left out that a row behind the fault
could have preceded. -/
def inOrder {β : Type} (sorted : Nat) (ds : List Bool) (d : Delivery (List Value × β)) :
    Delivery β :=
  let found : List (List Value × β) :=
    match d.ending, d.items.getLast? with
    | .error _, some last => d.items.filter fun a => inOtherBlock sorted a.1 last.1
    | _, _ => d.items
  ⟨(found.mergeSort fun a b => orderedBefore true ds a.1 b.1).map Prod.snd, d.ending⟩

/-! ### Terms and queries -/

mutual

/-- The value of a term, as it is wanted. Operands are evaluated from left to right, and none that
is not needed. -/
def Term.eval (s : Scope) (use : Use) : Term → Eval Value
  | .literal v => return use.finish v
  | .parameter number => return use.finish (s.parameter number)
  | .field level column _ => return use.finish (s.field level column)
  | .not t => do return (Truth.ofValue (← t.eval s use.opposite)).not.toValue
  | .negate t => do return use.finish (negateValue (← t.eval s .value))
  | .plus t => t.eval s use
  | .binary op l r => do
    let u ← l.eval s (use.operand op)
    match use.decided? op u with
    | some v => return v
    | none =>
      let v ← r.eval s (use.operand op)
      return use.finish (applyOp op (Affinity.ofComparison l.affinity r.affinity) u v)
  | .typeOf t => do return use.finish (.text (typeName (← t.eval s .value)))
  | .call f arguments => do
    match f.body (← evalAll s arguments) with
    | .ok (.real x) => return use.finish (notNaN x)
    | .ok v => return use.finish v
    | .error e => throw (.functionFailed e.message)
  | .countRows a => return use.finish (.integer (Int64.ofNat (s.group a.level).length))
  | .count a t => do
    let values ← (s.group a.level).mapM fun r => t.eval (s.atRow a.level r) .value
    return use.finish (.integer (Int64.ofNat (values.filter (· != .null)).length))
  | .scalar once q => do
    return use.finish (← remembered once (Delivery.firstValue (q.results s true)))

/-- The values of some terms, evaluated in order. The first fault ends them all. -/
def evalAll (s : Scope) : List Term → Eval (List Value)
  | [] => return []
  | t :: rest => do
    let v ← t.eval s .value
    return v :: (← evalAll s rest)

/-- Whether some conditions all hold; those behind the first that does not are not looked at. -/
def allHold (s : Scope) : List Term → Eval Bool
  | [] => return true
  | t :: rest => do
    match ← t.eval s (.condition false) with
    | .integer 0 => return false
    | _ => allHold s rest

/-- The values by which a row is ordered, one for each key of the ordering. -/
def orderValues (s : Scope) : List OrderKey → Eval (List Value)
  | [] => return []
  | .mk t _ :: rest => do
    let v ← t.eval s .value
    return v :: (← orderValues s rest)

/-- The rows that a selection has to look at. Where they start has to be evaluated, which may fail
before any row is reached. -/
def Selection.start (s : Scope) : Selection → Eval (List Row)
  | .mk table scan seek _ => do
    let _ ← evalAll s.entered seek
    return s.rows table scan

/-- Whether the row of the innermost query is selected, which is so if all its filters hold. -/
def Selection.holds (s : Scope) : Selection → Eval Bool
  | .mk _ _ _ filters => allHold s filters

/-- The rows of a query, or its first row alone, and how they end. -/
def QueryPlan.results (s : Scope) (single : Bool) : QueryPlan → Memo → Delivery (List Value)
  | .mk rows columns order grouped, m =>
    match rows.start s m with
    | .error e => .failure e
    | .ok (found, m) =>
      let selected {β : Type} (r : Row) (e : Eval β) : Eval (Option β) := do
        if ← rows.holds (s.within r) then some <$> e else return none
      if grouped then
        match collect false (fun r => selected r (pure r)) found m with
        | ⟨_, .error e⟩ => .failure e
        | ⟨group, .ok m⟩ =>
          Delivery.ofEval (do return [← evalAll (s.withGroup group) columns]) m
      else if order.length ≤ rows.scan.sorted then
        collect single (fun r => selected r (evalAll (s.within r) columns)) found m
      else if single then
        least (orderedBefore false (directions order)) (inOtherBlock rows.scan.sorted)
          (fun r => selected r (orderValues (s.within r) order))
          (fun r => evalAll (s.within r) columns) none found m
      else
        inOrder rows.scan.sorted (directions order) <|
          collect false (fun r => selected r (do
            let values ← evalAll (s.within r) columns
            return (← orderValues (s.within r) order, values))) found m

end

end NamedSql.Sql
