import Mathlib.Data.List.Forall2
import NamedSql.Sql.Resolution

/-!
# What a statement is prepared for

Names are looked up in the definitions of tables, not in their rows, and among the registered
functions. So two searches for the names of one statement have no reason to differ as long as the
tables have the same definitions; and if the statement mentions no table, they have none whatever
the tables are. Here it is said when two places for names are alike in this sense, and shown that
the checks of tables come to the same in both.

## Scope

Functions need not be the same. What counts is that every call that finds a function in the one
place finds the same function in the other.

## Main definitions

* `Table.definition`, `Database.definitions` — tables without their rows
* `Expr.mentions`, `Select.mentions`, `Statement.mentions` — whether a statement mentions a table
* `Statement.isSelect` — whether a statement is a query
* `Names.SameTables` — tables of the same names have the same definitions
* `Names.Like` — two places for names that are alike but for their tables

## Main results

* `Names.SameTables.source` — a query finds a table in both places or in none
* `Names.checkTables_of_sameTables`, `Names.checkTablesOfQuery_of_sameTables` — the checks of tables
  come to the same
-/

namespace NamedSql.Sql

/-! ### Definitions -/

/-- A table without its rows: what looking up names depends on. -/
def Table.definition (t : Table) : Table := { t with rows := [] }

theorem Table.eq_of_definition {t t' : Table} (h : t'.definition = t.definition) :
    t' = { t with rows := t'.rows } := by
  cases t
  cases t'
  simp only [definition, Table.mk.injEq, and_true] at h
  obtain ⟨rfl, rfl, rfl, rfl, rfl, rfl⟩ := h
  rfl

namespace Database

/-- The definitions of the tables of a database, in order. -/
def definitions (d : Database) : List Table := d.tables.map Table.definition

theorem map_definition_find? (d : Database) (name : String) :
    (d.find? name).map Table.definition =
      d.definitions.find? fun t => Token.sameName t.name name := by
  rw [find?, definitions, List.find?_map]
  rfl

end Database

/-! ### Access to rows

How the rows of a table are selected depends on what the table demands of them, and not on the rows
that there are. -/

namespace Path

theorem follow_of_rows (t : Table) (rows : List Row) (order : List OrderKey) (legs : List Leg)
    (p : Progress) : follow { t with rows } order legs p = follow t order legs p := by
  induction legs generalizing p with
  | nil => rfl
  | cons leg rest ih =>
    simp only [follow, ih]
    rfl

theorem ordered_of_rows (t : Table) (rows : List Row) (d : Demand) (p : Path) :
    ordered { t with rows } d p = ordered t d p := by
  simp only [ordered, follow_of_rows]
  rfl

theorem choose_of_rows (t : Table) (rows : List Row) (d : Demand) :
    choose { t with rows } d = choose t d := by
  have hc : ∀ n, totalCost { t with rows } d n = totalCost t d n := by
    intro n
    funext p
    rw [totalCost, totalCost, ordered_of_rows]
  simp only [choose, hc]
  rfl

end Path

theorem Table.column?_rows (t : Table) (rows : List Row) (name : String) :
    ({ t with rows } : Table).column? name = t.column? name := rfl

theorem Table.selection_of_rows (t : Table) (rows : List Row) (d : Demand) :
    ({ t with rows } : Table).selection d = t.selection d := by
  simp only [selection, Path.choose_of_rows, Path.ordered_of_rows]
  rfl

/-! ### Tables that are mentioned -/

mutual

/-- Whether an expression mentions a table, which only its subqueries can. -/
def Expr.mentions : Expr → Bool
  | .literal .. | .parameter .. | .column _ => false
  | .not e | .negate e | .plus e => e.mentions
  | .binary _ l r => l.mentions || r.mentions
  | .call _ _ arguments => mentionsInAll arguments
  | .scalar _ q => q.mentions

/-- Whether some expressions mention a table, any of them. -/
def mentionsInAll : List Expr → Bool
  | [] => false
  | e :: rest => e.mentions || mentionsInAll rest

/-- Whether what a query returns mentions a table. -/
def mentionsInResults : List ResultColumn → Bool
  | [] => false
  | .value e _ _ :: rest => e.mentions || mentionsInResults rest
  | _ :: rest => mentionsInResults rest

/-- Whether an ordering mentions a table. -/
def mentionsInOrder : List OrderTerm → Bool
  | [] => false
  | .mk e _ :: rest => e.mentions || mentionsInOrder rest

/-- Whether a condition mentions a table; no condition mentions none. -/
def mentionsInCondition : Option Expr → Bool
  | none => false
  | some e => e.mentions

/-- Whether a query mentions a table: its own, or one in any of its parts. -/
def Select.mentions : Select → Bool
  | .mk columns source condition order =>
    source.isSome || mentionsInResults columns || mentionsInCondition condition ||
      mentionsInOrder order

end

/-- Whether a statement mentions a table. -/
def Statement.mentions : Statement → Bool
  | .select q => q.mentions
  | .control _ | .pragma .. => false
  | _ => true

/-- Whether a statement is a query. -/
def Statement.isSelect : Statement → Bool
  | .select _ => true
  | _ => false

/-! ### Places for names that are alike -/

/-- Two searches that fail for the same reason, or find what is related. -/
inductive Matches {α β : Type} (R : α → β → Prop) : Except Fault α → Except Fault β → Prop
  | error (f : Fault) : Matches R (.error f) (.error f)
  | ok {a : α} {b : β} (h : R a b) : Matches R (.ok a) (.ok b)

/-- A table with other rows, and otherwise the same. -/
def Table.SameDefinition (t t' : Table) : Prop := ∃ rows, t' = { t with rows }

/-- The table of a query, if it has one, with other rows. -/
inductive SameSource : Option (String × Table) → Option (String × Table) → Prop
  | none : SameSource none none
  | some (called : String) (t : Table) (rows : List Row) :
      SameSource (some (called, t)) (some (called, { t with rows }))

/-- What a query contributes to the meaning of names, with other rows in its table. -/
inductive Level.Like : Level → Level → Prop
  | mk {t t' : Option (String × Table)} (h : SameSource t t') (labels : List (String × Term))
      (aggregates : Bool) : Like ⟨t, labels, aggregates⟩ ⟨t', labels, aggregates⟩

namespace Names

variable {n n' : Names}

/-- Tables of the same names have the same definitions, whatever rows are in them. -/
def SameTables (n n' : Names) : Prop :=
  ∀ name, (n'.database.find? name).map Table.definition =
    (n.database.find? name).map Table.definition

/-- Names are looked up alike, but for the tables. A call that finds a function in the first place
finds it in the second one too. -/
structure Like (n n' : Names) : Prop where
  height : n'.height = n.height
  inCheck : n'.inCheck = n.inCheck
  levels : List.Forall₂ Level.Like n.levels n'.levels
  functions : ∀ name count callee, Function.resolve n.functions name count = .found callee →
    Function.resolve n'.functions name count = .found callee

theorem Like.within {l l' : Level} (h : n.Like n') (hl : l.Like l') :
    (n.within l).Like (n'.within l') :=
  { h with levels := .cons hl h.levels }

theorem Like.withLevel {l l' : Level} (h : n.Like n') (hl : l.Like l') :
    ({ n with levels := [l] } : Names).Like { n' with levels := [l'] } :=
  { h with levels := .cons hl .nil }

theorem Like.withinAggregate (h : n.Like n') : n.withinAggregate.Like n'.withinAggregate := by
  refine { h with levels := ?_ }
  have hl := h.levels
  rw [Names.withinAggregate, Names.withinAggregate]
  dsimp only
  generalize n.levels = levels at hl
  generalize n'.levels = levels' at hl
  cases hl with
  | nil => exact .nil
  | cons hl hrest =>
    cases hl with
    | mk ht labels aggregates => exact .cons (.mk ht labels false) hrest

theorem Like.allowsAggregates (h : n.Like n') : n'.allowsAggregates = n.allowsAggregates := by
  have hl := h.levels
  rw [Names.allowsAggregates, Names.allowsAggregates]
  generalize n.levels = levels at hl
  generalize n'.levels = levels' at hl
  cases hl with
  | nil => rfl
  | cons hl hrest => cases hl; rfl

/-- Within an expression the tables stay what they are. -/
theorem Like.around (h : n.Like n') (e : Expr) :
    Matches (fun m m' => m.Like m' ∧ (n.SameTables n' → m.SameTables m')) (n.around e)
      (n'.around e) := by
  rw [Names.around, Names.around, h.height]
  split
  · exact .error _
  · exact .ok ⟨{ h with height := rfl }, id⟩

/-! ### Columns -/

theorem lookUpIn_of_like {l l' : Level} (h : l.Like l') (level : Nat) (c : ColumnName) :
    lookUpIn level l' c = lookUpIn level l c := by
  cases h with
  | mk ht labels aggregates => cases ht <;> rfl

theorem lookUp_of_like {levels levels' : List Level} (h : List.Forall₂ Level.Like levels levels')
    (level : Nat) (c : ColumnName) : lookUp level levels' c = lookUp level levels c := by
  induction h generalizing level with
  | nil => rfl
  | cons hl _ ih => rw [lookUp, lookUp, lookUpIn_of_like hl, ih]

theorem Like.column (h : n.Like n') (c : ColumnName) : n'.column c = n.column c := by
  rw [Names.column, Names.column, lookUp_of_like h.levels]

/-! ### Tables -/

theorem SameTables.of_definitions (h : n'.database.definitions = n.database.definitions) :
    n.SameTables n' := by
  intro name
  rw [Database.map_definition_find?, Database.map_definition_find?, h]

theorem SameTables.find? (h : n.SameTables n') {name : String} {t : Table}
    (ht : n.database.find? name = some t) :
    ∃ rows, n'.database.find? name = some { t with rows } := by
  have hn := h name
  rw [ht, Option.map_some, Option.map_eq_some_iff] at hn
  obtain ⟨t', ht', hd⟩ := hn
  exact ⟨t'.rows, by rw [ht', ← Table.eq_of_definition hd]⟩

theorem SameTables.find?_eq_none (h : n.SameTables n') {name : String}
    (ht : n.database.find? name = none) : n'.database.find? name = none := by
  have hn := h name
  rwa [ht, Option.map_none, Option.map_eq_none_iff] at hn

theorem SameTables.table (h : n.SameTables n') (name : String) :
    Matches Table.SameDefinition (n.table name) (n'.table name) := by
  rw [Names.table, Names.table]
  cases ht : n.database.find? name with
  | none =>
    rw [h.find?_eq_none ht]
    exact .error _
  | some t =>
    obtain ⟨rows, ht'⟩ := h.find? ht
    rw [ht']
    exact .ok ⟨rows, rfl⟩

/-- The table of a query is the same in both places, but for its rows, or it is in none of them. -/
theorem SameTables.source {s : Option Source} (h : s.isSome = true → n.SameTables n') :
    Matches SameSource (n.source s) (n'.source s) := by
  cases s with
  | none => exact .ok .none
  | some s =>
    have ht := (h rfl).table s.table
    rw [Names.source, Names.source]
    generalize n.table s.table = found at ht
    generalize n'.table s.table = found' at ht
    cases ht with
    | error f => exact .error f
    | ok ht =>
      obtain ⟨rows, rfl⟩ := ht
      exact .ok (.some _ _ rows)

theorem resultWidth_of_rows (called : String) (t : Table) (rows : List Row)
    (columns : List ResultColumn) :
    resultWidth (some (called, { t with rows })) columns =
      resultWidth (some (called, t)) columns := by
  induction columns generalizing called with
  | nil => rfl
  | cons column rest ih =>
    cases column with
    | value e label written => simp only [resultWidth, ih]
    | everything => simp only [resultWidth, ih]
    | allOf name =>
      simp only [resultWidth, Option.filter_some]
      cases Token.sameName called name with
      | true => simp only [if_true, ih]
      | false => rfl

theorem checkWidth_of_sameSource {t t' : Option (String × Table)} (h : SameSource t t')
    (columns : List ResultColumn) : checkWidth t' columns = checkWidth t columns := by
  cases h with
  | none => rfl
  | some called t rows => rw [checkWidth, checkWidth, resultWidth_of_rows]

mutual

/-- An expression whose tables are checked. -/
theorem checkTables_of_sameTables {n n' : Names} : ∀ e : Expr,
    (e.mentions = true → n.SameTables n') → n'.checkTables e = n.checkTables e
  | .literal .., _ | .parameter .., _ | .column _, _ => by simp only [checkTables]
  | .not e, h | .negate e, h | .plus e, h => by
    simp only [checkTables]
    exact checkTables_of_sameTables e fun he => h (by rw [Expr.mentions, he])
  | .binary _ l r, h => by
    have hl := checkTables_of_sameTables l fun he => h (by rw [Expr.mentions, he, Bool.true_or])
    have hr := checkTables_of_sameTables r fun he => h (by rw [Expr.mentions, he, Bool.or_true])
    simp only [checkTables, hl, hr]
  | .call _ _ arguments, h => by
    simp only [checkTables]
    exact checkTablesOfAll_of_sameTables arguments fun he => h (by rw [Expr.mentions, he])
  | .scalar _ q, h => by
    simp only [checkTables]
    exact checkTablesOfQuery_of_sameTables q fun he => h (by rw [Expr.mentions, he])

theorem checkTablesOfAll_of_sameTables {n n' : Names} : ∀ es : List Expr,
    (mentionsInAll es = true → n.SameTables n') → n'.checkTablesOfAll es = n.checkTablesOfAll es
  | [], _ => by simp only [checkTablesOfAll]
  | e :: rest, h => by
    have he := checkTables_of_sameTables e fun hm => h (by rw [mentionsInAll, hm, Bool.true_or])
    have hr := checkTablesOfAll_of_sameTables rest fun hm =>
      h (by rw [mentionsInAll, hm, Bool.or_true])
    simp only [checkTablesOfAll, he, hr]

theorem checkTablesOfResults_of_sameTables {n n' : Names} : ∀ columns : List ResultColumn,
    (mentionsInResults columns = true → n.SameTables n') →
      n'.checkTablesOfResults columns = n.checkTablesOfResults columns
  | [], _ => by simp only [checkTablesOfResults]
  | .value e _ _ :: rest, h => by
    have he := checkTables_of_sameTables e fun hm => h (by rw [mentionsInResults, hm, Bool.true_or])
    have hr := checkTablesOfResults_of_sameTables rest fun hm =>
      h (by rw [mentionsInResults, hm, Bool.or_true])
    simp only [checkTablesOfResults, he, hr]
  | .everything :: rest, h | .allOf _ :: rest, h => by
    simp only [checkTablesOfResults]
    exact checkTablesOfResults_of_sameTables rest fun hm => h (by rw [mentionsInResults, hm]; simp)

theorem checkTablesOfOrder_of_sameTables {n n' : Names} : ∀ order : List OrderTerm,
    (mentionsInOrder order = true → n.SameTables n') →
      n'.checkTablesOfOrder order = n.checkTablesOfOrder order
  | [], _ => by simp only [checkTablesOfOrder]
  | .mk e _ :: rest, h => by
    have he := checkTables_of_sameTables e fun hm => h (by rw [mentionsInOrder, hm, Bool.true_or])
    have hr := checkTablesOfOrder_of_sameTables rest fun hm =>
      h (by rw [mentionsInOrder, hm, Bool.or_true])
    simp only [checkTablesOfOrder, he, hr]

theorem checkTablesOfCondition_of_sameTables {n n' : Names} : ∀ condition : Option Expr,
    (mentionsInCondition condition = true → n.SameTables n') →
      n'.checkTablesOfCondition condition = n.checkTablesOfCondition condition
  | none, _ => by simp only [checkTablesOfCondition]
  | some e, h => by
    simp only [checkTablesOfCondition]
    exact checkTables_of_sameTables e fun hm => h (by rw [mentionsInCondition, hm])

theorem checkTablesOfQuery_of_sameTables {n n' : Names} : ∀ q : Select,
    (q.mentions = true → n.SameTables n') → n'.checkTablesOfQuery q = n.checkTablesOfQuery q
  | .mk columns source condition order, h => by
    have hs : Matches SameSource (n.source source) (n'.source source) :=
      SameTables.source fun hm => h (by simp only [Select.mentions, hm, Bool.true_or])
    have hc := checkTablesOfResults_of_sameTables columns fun hm =>
      h (by simp only [Select.mentions, hm, Bool.or_true, Bool.true_or])
    have hw := checkTablesOfCondition_of_sameTables condition fun hm =>
      h (by simp only [Select.mentions, hm, Bool.or_true, Bool.true_or])
    have ho := checkTablesOfOrder_of_sameTables order fun hm =>
      h (by simp only [Select.mentions, hm, Bool.or_true])
    simp only [checkTablesOfQuery, hc, hw, ho]
    generalize n.source source = found at hs
    generalize n'.source source = found' at hs
    cases hs with
    | error f => rfl
    | ok ht =>
      change (checkWidth _ columns >>= _) = (checkWidth _ columns >>= _)
      rw [checkWidth_of_sameSource ht]

end

end Names

end NamedSql.Sql
