import NamedSql.Proofs.Sql.Binding
import NamedSql.Proofs.Sql.Reporting

/-!
# Insertions of one row

What is in a table once an insertion of one row has been executed, said from the statement and from
the record that supplies its parameters. The statement may list columns in any order and some of
them more than once, name the rowid or not, and say what is to be done about conflicts. Resolving it
sorts its expressions into the order of the table, and storing it converts the values; the row that
is stored has in each column what the column makes of the parameter that the statement gives it.

## Scope

Of the expressions of the row only the parameters are said to have a value, that of the record; an
expression of any other kind may have any value. Every table is supposed to be well formed.

## Main definitions

* `Insert.given?`, `Insert.givenRowid?` — the expressions that a statement gives a column and the
  rowid
* `InsertPlan.Carries` — a plan gives what a statement gives
* `Insert.Fills` — a row has been made from parameters
* `Insert.Results` — what an insertion comes to

## Main results

* `Names.gives_insert` — an insertion of one row is resolved to a plan that gives what the row gives
* `InsertPlan.Carries.fills` — a row that is put in has been made from the parameters
* `Session.Upholds.results_of_call` — what a call tells of an insertion of one row
-/

namespace NamedSql.Sql

open Resolve

/-! ### What a statement gives -/

namespace Insert

/-- The expression that a row of an insertion gives to a column. -/
def given? (s : Insert) (t : Table) (row : List Expr) (i : Nat) : Option Expr :=
  match s.columns with
  | none => row[i]?
  | some names => (names.findIdx? fun name => t.column? name == some i).bind (row[·]?)

/-- The expression that a row of an insertion gives for the rowid: under the name of the column that
is the rowid, or under a name of the rowid that no column has. The last one of these counts. -/
def givenRowid? (s : Insert) (t : Table) (row : List Expr) : Option Expr :=
  match s.columns with
  | none => t.rowidColumn.bind (row[·]?)
  | some names =>
    (names.zipIdx.reverse.find? fun p => (t.column? p.1).all fun i => some i == t.rowidColumn).bind
      fun p => row[p.2]?

end Insert

/-- A term stands for an expression, as far as the expression is a parameter. -/
def Expr.IsTerm (e : Expr) (v : Term) : Prop :=
  ∀ number offset, e = .parameter number offset → v = .parameter number

/-- A plan gives what a statement gives to the columns of a table and for the rowid. -/
structure InsertPlan.Carries (p : InsertPlan) (s : Insert) (t : Table) (row : List Expr)
    (terms : List Term) : Prop where
  table : p.table = t.name
  conflict : p.conflict = s.conflict
  rows : p.rows = [terms]
  length : p.positions.length = t.columns.length
  column : ∀ i position, p.positions[i]? = some position → t.rowidColumn ≠ some i →
    Option.Rel Expr.IsTerm (s.given? t row i) (position.bind (terms[·]?))
  rowid : Option.Rel Expr.IsTerm (s.givenRowid? t row) (p.rowid.bind (terms[·]?))

/-! ### Values in the order in which they are evaluated -/

/-- What is looked up where it has come to be is what it was, if only the last one of the places may
hold nothing. -/
theorem getElem?_moved {α : Type} (f : Nat → Option α) (others : List Nat) {places : List Nat}
    {j : Nat} (hp : ∀ i ∈ places, (f i).isSome = true) (hj : j ∈ places ∨ others = [j]) :
    ((places ++ others).findIdx? (· == j)).bind (((places ++ others).filterMap f)[·]?) = f j := by
  induction places with
  | nil =>
    obtain rfl := hj.resolve_left List.not_mem_nil
    rw [List.nil_append, List.findIdx?_cons, if_pos (beq_self_eq_true j), Option.bind_some]
    cases hf : f j with
    | none => rw [List.filterMap_cons_none hf, List.filterMap_nil, List.getElem?_nil]
    | some a => rw [List.filterMap_cons_some hf, List.getElem?_cons_zero]
  | cons i rest ih =>
    obtain ⟨hi, hrest⟩ := List.forall_mem_cons.mp hp
    obtain ⟨a, ha⟩ := Option.isSome_iff_exists.mp hi
    rw [List.cons_append, List.findIdx?_cons, List.filterMap_cons_some ha]
    by_cases hij : i = j
    · subst hij
      rw [if_pos (beq_self_eq_true i), Option.bind_some, List.getElem?_cons_zero, ha]
    · rw [if_neg fun h => hij (beq_iff_eq.mp h), Option.bind_map]
      refine Eq.trans ?_ (ih hrest (hj.imp_left fun h => (List.mem_cons.mp h).resolve_left
        (Ne.symm hij)))
      congr 1

namespace InsertPlan

variable {p : InsertPlan} {s : Insert} {t : Table} {row : List Expr} {terms : List Term}

/-- Which rows the table has does not matter for what is given. -/
theorem Carries.withRows (h : p.Carries s t row terms) (rows : List Row) :
    p.Carries s { t with rows } row terms :=
  ⟨h.table, h.conflict, h.rows, h.length, h.column, h.rowid⟩

/-- The order in which values are evaluated does not matter for what they are given to. -/
theorem Carries.inTableOrder (h : p.Carries s t row terms)
    (hin : ∀ i ∈ p.positions.filterMap id, i < terms.length) :
    ∃ terms', (Names.inTableOrder p).Carries s t row terms' := by
  have hf : ∀ i ∈ p.positions.filterMap id, (terms[i]?).isSome = true := by
    intro i hi
    rw [List.getElem?_eq_getElem (hin i hi)]
    rfl
  have hmoved : ∀ position : Option Nat, (∀ j, position = some j →
      j ∈ p.positions.filterMap id ∨ p.rowid.toList = [j]) →
      (position.bind fun i => (p.positions.filterMap id ++ p.rowid.toList).findIdx? (· == i)).bind
        (((p.positions.filterMap id ++ p.rowid.toList).filterMap (terms[·]?))[·]?) =
      position.bind (terms[·]?) := by
    intro position hj
    cases position with
    | none => rfl
    | some j => exact getElem?_moved (terms[·]?) p.rowid.toList hf (hj j rfl)
  refine ⟨(p.positions.filterMap id ++ p.rowid.toList).filterMap (terms[·]?), h.table, h.conflict,
    ?_, ?_, fun i position hposition hid => ?_, ?_⟩
  · simp only [Names.inTableOrder, h.rows, List.map_cons, List.map_nil]
  · simp only [Names.inTableOrder, List.length_map, h.length]
  · simp only [Names.inTableOrder, List.getElem?_map, Option.map_eq_some_iff] at hposition
    obtain ⟨former, hformer, rfl⟩ := hposition
    rw [hmoved former fun j hj => Or.inl ?_]
    · exact h.column i former hformer hid
    · exact List.mem_filterMap.mpr ⟨former, List.mem_of_getElem? hformer, hj⟩
  · have hrowid := hmoved p.rowid fun j hj => Or.inr (by rw [hj]; rfl)
    simp only [Names.inTableOrder]
    rw [hrowid]
    exact h.rowid

end InsertPlan

/-! ### What a statement is resolved to -/

/-- Items that are treated in turn come to results that are theirs. -/
theorem gives_mapM_rel {σ ε α β : Type} {R : β → α → Prop} {f : β → StateT σ (Except ε) α}
    (hf : ∀ b, Gives (R b) (f b)) (items : List β) :
    Gives (fun results => ∀ i : Nat, Option.Rel R items[i]? results[i]?) (items.mapM f) := by
  induction items with
  | nil => exact gives_pure fun i => .none
  | cons b rest ih =>
    rw [List.mapM_cons]
    refine gives_bind_of (hf b) fun a ha => gives_bind_of ih fun as has => gives_pure fun i => ?_
    cases i with
    | zero => exact .some ha
    | succ i => exact has i

section Targets

variable {s : Insert} {t : Table} {row : List Expr} {terms : List Term}
  {targets : List (Option Nat)}

/-- What a column is given is the expression at the place at which the column is listed. -/
theorem Insert.rel_given? (htargets : targets = (s.columns.getD []).map t.column?)
    (hterms : ∀ i : Nat, Option.Rel Expr.IsTerm row[i]? terms[i]?) (i : Nat) :
    Option.Rel Expr.IsTerm (s.given? t row i) ((if s.columns.isNone then some i
      else targets.findIdx? (· == some i)).bind (terms[·]?)) := by
  rw [Insert.given?]
  cases hc : s.columns with
  | none => exact hterms i
  | some names =>
    rw [htargets, hc, Option.getD_some, List.findIdx?_map, Option.isNone_some,
      if_neg Bool.false_ne_true]
    dsimp only
    change Option.Rel Expr.IsTerm ((names.findIdx? fun name => t.column? name == some i).bind _)
      ((names.findIdx? fun name => t.column? name == some i).bind _)
    cases names.findIdx? fun name => t.column? name == some i with
    | none => exact .none
    | some k => exact hterms k

/-- What the rowid is given is the expression at the last place at which it is listed. -/
theorem Insert.rel_givenRowid? (htargets : targets = (s.columns.getD []).map t.column?)
    (hterms : ∀ i : Nat, Option.Rel Expr.IsTerm row[i]? terms[i]?) :
    Option.Rel Expr.IsTerm (s.givenRowid? t row)
      ((if s.columns.isNone then t.rowidColumn
        else (targets.zipIdx.reverse.find? fun p => p.1.isNone || p.1 == t.rowidColumn).map
          Prod.snd).bind (terms[·]?)) := by
  rw [Insert.givenRowid?]
  cases hc : s.columns with
  | none =>
    rw [Option.isNone_none, if_pos rfl]
    dsimp only
    cases t.rowidColumn with
    | none => exact .none
    | some i => exact hterms i
  | some names =>
    rw [htargets, hc, Option.getD_some, Option.isNone_some, if_neg Bool.false_ne_true,
      List.zipIdx_map, ← List.map_reverse, List.find?_map, Option.map_map]
    dsimp only
    have hp : ((fun p : Option Nat × Nat => p.1.isNone || p.1 == t.rowidColumn) ∘
        Prod.map t.column? id) =
        fun p => (t.column? p.1).all fun i => some i == t.rowidColumn := by
      funext p
      rw [Function.comp_apply, Prod.map_fst]
      cases t.column? p.1 <;> rfl
    rw [hp]
    cases names.zipIdx.reverse.find? fun p =>
        (t.column? p.1).all fun i => some i == t.rowidColumn with
    | none => exact .none
    | some p => exact hterms p.2

/-- A column is given a value that is there. -/
theorem Insert.lt_of_target (htargets : targets = (s.columns.getD []).map t.column?)
    (hlength : s.columns = none → terms.length = t.columns.length)
    (hlisted : ∀ names, s.columns = some names → terms.length = names.length) {i k : Nat}
    (hi : i < t.columns.length)
    (hk : (if s.columns.isNone then some i else targets.findIdx? (· == some i)) = some k) :
    k < terms.length := by
  cases hc : s.columns with
  | none =>
    rw [hc, Option.isNone_none, if_pos rfl] at hk
    cases hk
    rw [hlength hc]
    exact hi
  | some names =>
    rw [hc, Option.isNone_some, if_neg Bool.false_ne_true, htargets, hc] at hk
    obtain ⟨hk, -⟩ := List.findIdx?_eq_some_iff_getElem.mp hk
    rw [List.length_map] at hk
    rw [hlisted names hc]
    exact hk

/-- What a plan of an insertion of one row is made of. -/
theorem InsertPlan.carries_of_targets {p : InsertPlan} (htable : p.table = t.name)
    (hconflict : p.conflict = s.conflict) (hrows : p.rows = [terms])
    (htargets : targets = (s.columns.getD []).map t.column?)
    (hpositions : p.positions = (List.range t.columns.length).map fun i =>
      if t.rowidColumn == some i then none
      else if s.columns.isNone then some i
      else targets.findIdx? (· == some i))
    (hrowid : p.rowid =
      if s.columns.isNone then t.rowidColumn
      else (targets.zipIdx.reverse.find? fun p => p.1.isNone || p.1 == t.rowidColumn).map Prod.snd)
    (hterms : ∀ i : Nat, Option.Rel Expr.IsTerm row[i]? terms[i]?)
    (hlength : s.columns = none → terms.length = t.columns.length)
    (hlisted : ∀ names, s.columns = some names → terms.length = names.length) :
    p.Carries s t row terms ∧ ∀ i ∈ p.positions.filterMap id, i < terms.length := by
  refine ⟨⟨htable, hconflict, hrows, ?_, fun i position hposition hid => ?_, ?_⟩, fun k hk => ?_⟩
  · rw [hpositions, List.length_map, List.length_range]
  · rw [hpositions, List.getElem?_map, Option.map_eq_some_iff] at hposition
    obtain ⟨j, hj, rfl⟩ := hposition
    obtain ⟨hi, hij⟩ := List.getElem?_eq_some_iff.mp hj
    rw [List.getElem_range] at hij
    subst hij
    rw [if_neg fun h => hid (beq_iff_eq.mp h)]
    exact Insert.rel_given? htargets hterms i
  · rw [hrowid]
    exact Insert.rel_givenRowid? htargets hterms
  · obtain ⟨position, hmem, hk⟩ := List.mem_filterMap.mp hk
    obtain rfl : position = some k := hk
    rw [hpositions] at hmem
    obtain ⟨i, hi, hposition⟩ := List.mem_map.mp hmem
    split at hposition
    · cases hposition
    · exact Insert.lt_of_target htargets hlength hlisted (List.mem_range.mp hi) hposition

end Targets

namespace Names

variable {n : Names} {s : Insert} {row : List Expr}

theorem gives_rowTerm (n : Names) (e : Expr) : Gives e.IsTerm (n.rowTerm e) := by
  rw [rowTerm]
  refine gives_bind fun m => gives_bind_of (R := e.IsTerm) ?_ fun v hv =>
    gives_bind fun _ => gives_bind fun _ => gives_pure hv
  cases e with
  | parameter number offset =>
    have hterm : (Expr.parameter number offset).IsTerm (.parameter number) := by
      intro number' offset' he
      cases he
      rfl
    rw [Names.term]
    dsimp only
    split
    · exact gives_bind fun _ => gives_bind fun _ => gives_pure hterm
    · exact gives_bind fun _ => gives_pure hterm
  | _ => exact fun w v w' _ number offset he => by cases he

theorem gives_insertedRows (n : Names) (row : List Expr) :
    Gives (fun rows => ∃ terms, rows = [terms] ∧
      ∀ i : Nat, Option.Rel Expr.IsTerm row[i]? terms[i]?) (n.insertedRows none [row]) := by
  rw [insertedRows]
  refine gives_bind_of (gives_mapM_rel n.gives_rowTerm row) fun terms hterms => ?_
  rw [insertedRows]
  exact gives_bind_of (R := fun above => above = []) (gives_pure rfl) fun above habove =>
    gives_pure ⟨terms, by rw [habove, List.nil_append], hterms⟩

/-- The targets of an insertion are the columns of the listed names. -/
theorem gives_targets (t : Table) (names : List String) :
    Gives (fun targets => targets = names.map t.column?) (names.mapM fun name =>
      match t.column? name with
      | some i => pure (some i)
      | none => if isRowid name then pure none else throw (.noSuchTarget t.name name) :
        Resolve (List (Option Nat))) := by
  induction names with
  | nil => exact gives_pure rfl
  | cons name rest ih =>
    rw [List.mapM_cons]
    refine gives_bind_of (R := fun target => target = t.column? name) ?_ fun target htarget =>
      gives_bind_of ih fun targets htargets => gives_pure (by rw [htarget, htargets, List.map_cons])
    cases t.column? name with
    | some i => exact gives_pure rfl
    | none => exact gives_ite (gives_pure rfl) (gives_throw _)

theorem gives_table (n : Names) (name : String) :
    Gives (fun t => n.database.find? name = some t) (liftM (n.table name) : Resolve Table) := by
  refine gives_lift fun t h => ?_
  rw [table] at h
  cases hf : n.database.find? name with
  | none =>
    rw [hf] at h
    cases h
  | some u =>
    rw [hf] at h
    cases h
    rfl

/-- **An insertion of one row is resolved to a plan that gives what the row gives.** -/
theorem gives_insert (n : Names) (hs : s.rows = [row]) :
    Gives (fun r => ∃ p t terms, r.plan = .insert p ∧ n.database.find? s.table = some t ∧
      p.Carries s t row terms) (n.insert s) := by
  rw [insert]
  refine gives_bind_of (n.gives_table s.table) fun t ht =>
    gives_bind_of (gives_targets t (s.columns.getD [])) fun targets htargets => ?_
  extract_lets several isRowidTarget rowid positions keys replaces atOnce stored
  have hseveral : several = false := by
    simp only [several, hs]
    rfl
  have hreverse : s.rows.reverse = [row] := by
    rw [hs]
    rfl
  have hstored : ∀ u, Gives (fun r => ∃ p t terms, r.plan = .insert p ∧
      n.database.find? s.table = some t ∧ p.Carries s t row terms) (stored u) := by
    intro u
    refine gives_bind_of (R := fun rows => ∃ terms, rows = [terms] ∧
      ∀ i : Nat, Option.Rel Expr.IsTerm row[i]? terms[i]?) ?_ fun rows hrows => ?_
    · rw [hreverse]
      exact gives_insertedRows _ row
    obtain ⟨terms, rfl, hterms⟩ := hrows
    extract_lets supplied ahead finished
    have hfinished : (s.columns = none → terms.length = t.columns.length) →
        (∀ names, s.columns = some names → terms.length = names.length) →
        ∀ u, Gives (fun r => ∃ p t terms, r.plan = .insert p ∧
          n.database.find? s.table = some t ∧ p.Carries s t row terms) (finished u) := by
      intro hlength hlisted u
      refine gives_bind fun _ => gives_bind fun checks => gives_bind fun returned => ?_
      extract_lets plan
      rw [if_neg (by rw [hseveral]; decide)]
      obtain ⟨hcarries, hin⟩ := InsertPlan.carries_of_targets (p := plan) rfl rfl rfl htargets rfl
        rfl hterms hlength hlisted
      obtain ⟨terms', hordered⟩ := hcarries.inTableOrder hin
      exact gives_pure ⟨_, t, terms', rfl, ht, hordered⟩
    split
    · rename_i hnone
      split
      · exact gives_bind_of (R := fun _ => False) (gives_throw _) fun _ hf => hf.elim
      · rename_i hlength
        refine hfinished (fun _ => not_not.mp hlength) (fun names hsome => ?_) ()
        rw [hnone] at hsome
        cases hsome
    · rename_i names hsome
      split
      · exact gives_bind_of (R := fun _ => False) (gives_throw _) fun _ hf => hf.elim
      · rename_i hlength
        refine hfinished (fun hnone => ?_) (fun names' hsome' => ?_) ()
        · rw [hsome] at hnone
          cases hnone
        · cases hsome.symm.trans hsome'
          have hsupplied : terms.length = targets.length := not_not.mp hlength
          rw [hsupplied, htargets, List.length_map, hsome, Option.getD_some]
  rw [if_neg (by rw [hseveral]; decide)]
  exact hstored ()

end Names

/-! ### What a row is filled with -/

/-- A value is that of an expression, as far as the expression is a parameter. -/
def Expr.IsValue (value : Nat → Value) (e : Expr) (v : Value) : Prop :=
  ∀ number offset, e = .parameter number offset → v = value number

/-- A value is that of a term, as far as the term is a parameter. -/
def Term.IsValue (value : Nat → Value) (t : Term) (v : Value) : Prop :=
  ∀ number, t = .parameter number → v = value number

/-- A row of a table has been made from the parameters of an insertion of one row: a column has what
the parameter has that is given to it, or its default if it is given nothing, and so has the rowid,
which is a fresh one if it is given nothing. -/
structure Insert.Fills (s : Insert) (row : List Expr) (value : Nat → Value) (t : Table) (r : Row) :
    Prop where
  width : r.values.length = t.columns.length
  identity : ∀ i < t.columns.length, t.rowidColumn = some i → r.value i = .integer r.rowid
  fresh : s.givenRowid? t row = none → r.rowid = t.freshRowid
  asked : ∀ number offset, s.givenRowid? t row = some (.parameter number offset) →
    if value number = .null then r.rowid = t.freshRowid else rowidOf (value number) = .ok r.rowid
  left : ∀ i column, t.columns[i]? = some column → t.rowidColumn ≠ some i →
    s.given? t row i = none → column.Stores s.conflict column.default (r.value i)
  given : ∀ i column number offset, t.columns[i]? = some column → t.rowidColumn ≠ some i →
    s.given? t row i = some (.parameter number offset) →
      column.Stores s.conflict (value number) (r.value i)

/-- The values of some terms are those of the parameters among them. -/
theorem gives_evalAll_parameters (s : Scope) (terms : List Term) :
    Gives (fun values => ∀ i : Nat, Option.Rel (Term.IsValue s.parameter) terms[i]? values[i]?)
      (evalAll s terms) := by
  induction terms with
  | nil => exact gives_pure fun i => .none
  | cons t rest ih =>
    rw [evalAll]
    refine gives_bind_of (R := t.IsValue s.parameter) ?_ fun v hv =>
      gives_bind_of ih fun vs hvs => gives_pure fun i => ?_
    · cases t with
      | parameter number =>
        rw [Term.eval]
        refine gives_pure fun number' ht => ?_
        cases ht
        rfl
      | _ => exact fun m v m' _ number ht => by cases ht
    · cases i with
      | zero => exact .some hv
      | succ i => exact hvs i

namespace InsertPlan

variable {p : InsertPlan} {s : Insert} {t u : Table} {row : List Expr} {terms : List Term}
  {values given : List Value} {value : Nat → Value}

theorem of_run_given {c d : Change} (h : (InsertPlan.given values terms).run c = .ok (given, d)) :
    c.Still d ∧ ∀ i : Nat, Option.Rel (Term.IsValue fun number => values.getD (number - 1) .null)
      terms[i]? given[i]? := by
  refine ⟨Changing.calm_evaluate _ _ _ _ _ h, ?_⟩
  change Changing.evaluate values (fun s => evalAll s.entered terms) c = .ok (given, d) at h
  rw [Changing.evaluate] at h
  cases hr : evalAll (Scope.entered ⟨c.database, values, []⟩) terms c.memo with
  | error f =>
    rw [hr] at h
    cases h
  | ok found =>
    rw [hr] at h
    cases h
    exact gives_evalAll_parameters _ terms c.memo found.1 found.2 hr

/-- What stands for an expression comes to the value of the expression. -/
theorem rel_bind_given {e : Option Expr} {position : Option Nat}
    (hg : ∀ i : Nat, Option.Rel (Term.IsValue value) terms[i]? given[i]?)
    (h : Option.Rel Expr.IsTerm e (position.bind (terms[·]?))) :
    Option.Rel (Expr.IsValue value) e (position.bind (given[·]?)) := by
  cases position with
  | none =>
    cases h
    exact .none
  | some k =>
    have hk := hg k
    dsimp only [Option.bind_some] at h ⊢
    generalize terms[k]? = term at h hk
    generalize given[k]? = v at hk ⊢
    cases h with
    | none =>
      cases hk
      exact .none
    | some hterm =>
      cases hk with
      | some hv => exact .some fun number offset he => hv number (hterm number offset he)

theorem value_row {i : Nat} {position : Option Nat} {column : Column} (rowid : Int64)
    (hp : p.positions[i]? = some position) (hc : t.columns[i]? = some column)
    (hid : t.rowidColumn ≠ some i) :
    (p.row t given rowid).value i = (position.bind (given[·]?)).getD column.default := by
  have hv : (⟨rowid, p.values t given⟩ : Row).value i =
      (position.bind (given[·]?)).getD column.default := by
    have hz : (p.positions.zip t.columns)[i]? = some (position, column) :=
      List.getElem?_zip_eq_some.mpr ⟨hp, hc⟩
    rw [Row.value, values, List.getD_eq_getElem?_getD, List.getElem?_map, hz]
    rfl
  rw [row]
  cases hr : t.rowidColumn with
  | none => exact hv
  | some k =>
    refine (Row.value_set ⟨rowid, p.values t given⟩ k i _).trans ?_
    rw [if_neg fun h => hid (by rw [hr, h.1])]
    exact hv

/-- A row that is put in has been made from the parameters. -/
theorem Carries.fills (h : p.Carries s t row terms)
    (hg : ∀ i : Nat, Option.Rel (Term.IsValue value) terms[i]? given[i]?) {displaced : List Row}
    {r : Row} (he : p.Enters t given displaced r u) : s.Fills row value t r := by
  obtain ⟨rowid, hnumbers, hstores⟩ := he.stores
  have hid : r.rowid = rowid := hstores.rowid
  have hrowid := rel_bind_given hg h.rowid
  have hcolumn : ∀ i column, t.columns[i]? = some column → t.rowidColumn ≠ some i →
      ∃ v, Option.Rel (Expr.IsValue value) (s.given? t row i) v ∧
        column.Stores s.conflict (v.getD column.default) (r.value i) := by
    intro i column hc hi
    have hlt : i < p.positions.length := by
      rw [h.length]
      exact (List.getElem?_eq_some_iff.mp hc).1
    have hposition := List.getElem?_eq_getElem hlt
    refine ⟨_, rel_bind_given hg (h.column i _ hposition hi), ?_⟩
    rw [← value_row rowid hposition hc hi, ← h.conflict]
    exact hstores.columns i column hc hi
  constructor
  · exact hstores.width
  · intro i hi hr
    rw [hid]
    exact hstores.identity i hi hr
  · intro hnone
    rw [hnone] at hrowid
    rw [hid]
    refine hnumbers.fresh fun v hv => ?_
    rw [hv] at hrowid
    cases hrowid
  · intro number offset hsome
    rw [hsome] at hrowid
    cases hv : p.rowid.bind (given[·]?) with
    | none =>
      rw [hv] at hrowid
      cases hrowid
    | some v =>
      rw [hv] at hrowid
      cases hrowid with
      | some hvalue =>
        rw [← hvalue number offset rfl, hid]
        split
        · rename_i hnull
          refine hnumbers.fresh fun w hw => ?_
          rw [hv] at hw
          cases hw
          exact hnull
        · rename_i hne
          exact hnumbers.asked v hv hne
  · intro i column hc hi hnone
    obtain ⟨v, hv, hs⟩ := hcolumn i column hc hi
    rw [hnone] at hv
    cases hv
    exact hs
  · intro i column number offset hc hi hsome
    obtain ⟨v, hv, hs⟩ := hcolumn i column hc hi
    rw [hsome] at hv
    cases hv with
    | some hvalue =>
      rw [← hvalue number offset rfl]
      exact hs

/-- A plan of one row stores the values that the row is given. -/
theorem of_run {c change : Change} (hrows : p.rows = [terms])
    (h : p.run values c = (change, none)) :
    ∃ given d, (InsertPlan.given values terms).run c = .ok (given, d) ∧
      (p.store values given).run d = .ok ((), change) := by
  have hthrough : ∀ {α : Type} {step : α → Changing Unit} {a : α} {d : Change},
      Change.through step [a] d = (change, none) → (step a).run d = .ok ((), change) := by
    intro α step a d hd
    cases hs : (step a).run d with
    | error stop =>
      rw [Change.through_cons_error hs] at hd
      cases hd
    | ok next =>
      rw [Change.through_cons_ok hs] at hd
      cases hd
      rfl
  cases ha : p.ahead with
  | true =>
    rw [run_of_ahead ha, hrows, throughFound] at h
    split at h
    · rename_i rows d hr
      rw [List.mapM_cons] at hr
      obtain ⟨given, d', hgiven, hr⟩ := exists_of_run_bind hr
      cases hr
      exact ⟨given, d, hgiven, hthrough h⟩
    · cases h
  | false =>
    rw [run_of_not_ahead ha, hrows] at h
    obtain ⟨given, d, hgiven, hstore⟩ := exists_of_run_bind (hthrough h)
    exact ⟨given, d, hgiven, hstore⟩

end InsertPlan

/-! ### What becomes of an insertion -/

/-- What an insertion of one row comes to, from a database in which a row was inserted last: the row
is put in, and other rows are displaced for it only if that is what is done about conflicts; or it
is left out, if that is what is done, and then the rowid that is told is the one that was told
before. -/
inductive Insert.Results (s : Insert) (row : List Expr) (value : Nat → Value) (d : Database)
    (last id : Int64) (d' : Database) : Prop
  | stored {t u : Table} {displaced : List Row} {r : Row} (found : d.find? s.table = some t)
      (fills : s.Fills row value t r) (replaces : s.conflict ≠ .replace → displaced = [])
      (becomes : t.Becomes (displaced.map .displacement ++ [.insertion r]) u)
      (database : d' = d.put u) (now : d'.find? s.table = some u) (own : u.row? id = some r)
  | leftOut (ignores : s.conflict = .ignore) (still : d' = d) (stale : id = last)

/-- **What a connection tells of an insertion of one row.** -/
theorem Connection.results_of_perform {c : Connection} {p : InsertPlan} {s : Insert} {t : Table}
    {row : List Expr} {terms : List Term} {values : List Value} (hw : c.database.WellFormed)
    (ht : c.database.find? s.table = some t) (hp : p.Carries s t row terms)
    (h : (c.perform values (.insert p)).2.fault = none) :
    s.Results row (fun number => values.getD (number - 1) .null) c.database c.lastRowid
      (c.perform values (.insert p)).1.lastRowid (c.perform values (.insert p)).1.database := by
  obtain ⟨change, hchange, hd, -, hl⟩ := kept_of_perform rfl h
  rw [hd, hl]
  obtain ⟨given, c₁, hgiven, hstore⟩ := InsertPlan.of_run hp.rows (Option.some.inj hchange)
  obtain ⟨hs, hvalues⟩ := InsertPlan.of_run_given hgiven
  have hfind : c.database.find? p.table = some t := by
    rw [hp.table]
    exact Database.find?_name ht
  have hfind₁ : c₁.database.find? p.table = some t := by
    rw [hs.database]
    exact hfind
  rcases InsertPlan.of_store hfind₁ (hw.find? ht) hstore with
    ⟨hc, hs'⟩ | ⟨displaced, r, u, hu, hd', -, hl'⟩
  · refine .leftOut (hp.conflict ▸ hc) ?_ ?_
    · rw [hs'.database, hs.database]
      rfl
    · rw [hs'.lastRowid, hs.lastRowid]
      rfl
  · have hput : change.database = c.database.put u := by
      rw [hd', hs.database]
      rfl
    rw [hl', Option.getD_some]
    refine .stored ht (hp.fills hvalues hu) (hp.conflict ▸ hu.replaces) hu.becomes hput ?_ hu.own
    rw [hput]
    exact Database.find?_put ht hu.becomes.name

namespace Session

variable {s : Session} {sql : String} {record : Record} {e : Execution} {m : Statement.Parsed}
  {ins : Insert} {row : List Expr}

/-- **What a call tells of an insertion of one row**: the row is there under the rowid that is told,
made from the record; or it has been left out. -/
theorem Upholds.results_of_call (h : s.Upholds Connection.WellFormed Resolved.Wide)
    (hm : meaning? (Text.trimmed sql) = some m) (hins : m.statement = .insert ins)
    (hrow : ins.rows = [row]) (he : (s.call sql (.named record)).2 = .ok e)
    (hf : e.output.fault = none) :
    ins.Results row (record.parameter m.parameters) s.connection.database s.connection.lastRowid
      (s.call sql (.named record)).1.connection.lastRowid
      (s.call sql (.named record)).1.connection.database := by
  obtain ⟨q, u, values, on, hu, hq, hbound, hback, hcurrent, ho, hc⟩ :=
    exists_of_call h.dated h.sound he hf
  obtain rfl : m = q.parsed := Option.some.inj (hm.symm.trans hq.meaning)
  obtain ⟨n', hn'⟩ := hq.resolved
  rw [hins] at hn'
  obtain ⟨p, -, -, hplan, -⟩ := Resolve.Yields.of_start (n'.gives_insert hrow) hn'
  have hl : q.resolved.plan.looksAtTables = true := by
    rw [hplan]
    rfl
  obtain ⟨n, hn, hdefinitions⟩ := hback.resolved hcurrent hl
  rw [hins] at hn
  obtain ⟨p', t₀, terms, hplan', hfind, hcarries⟩ :=
    Resolve.Yields.of_start (n.gives_insert hrow) hn
  have htables : n.SameTables u.connection.names := .of_definitions hdefinitions
  obtain ⟨rows, hrows⟩ := htables.find? hfind
  rw [hplan'] at ho hc
  have hd : u.connection.database = s.connection.database := by
    rw [hu]
    rfl
  have hlast : u.connection.lastRowid = s.connection.lastRowid := by
    rw [hu]
    rfl
  have hr := Connection.results_of_perform (hd ▸ h.connection.database) hrows
    (hcarries.withRows rows) (ho ▸ hf)
  rw [← hc, hd, hlast] at hr
  rwa [funext (parameter_of_bindParameters hbound)] at hr

end Session

end NamedSql.Sql
