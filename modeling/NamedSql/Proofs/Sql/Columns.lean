import NamedSql.Proofs.Sql.Afresh
import NamedSql.Proofs.Sql.Tables
import NamedSql.Proofs.Sql.Trailing

/-!
# Columns

A query returns at least one column, and a table has at least one. Both are matters of the grammar:
what is written in a list of columns is not empty, and a query that returns all the columns of a
table returns some because the table has some. So every row that a statement delivers has a value,
and it has as many values as the statement has names for its columns.

## Scope

That the tables have columns is an assumption about the database in which a statement is resolved.
That no statement breaks it is shown where statements are run.

## Main definitions

* `Statement.NamesColumns` — a statement has columns where it must have some
* `Resolved.Wide` — a statement ready to run has a name for each value that it returns, and every
  table that it makes has a column

## Main results

* `namesColumns_of_meaning` — statements that have been read have columns
* `Names.wide_of_resolve` — so have statements that are resolved in a database whose tables have
* `Connection.rows_perform` — every row that a statement delivers has a value for each name, and
  at least one
-/

namespace NamedSql.Sql

/-! ### What the grammar says -/

/-- A statement has columns where it must have some. -/
def Statement.NamesColumns : Statement → Prop
  | .select (.mk columns _ _ _) => columns ≠ []
  | .createTable s => s.columns ≠ []
  | _ => True

namespace Grammar

theorem gives_fail {α : Type} {P : α → Prop} : Gives P (fail : Read α) := by
  intro r a r' h
  cases h

/-- Items that are separated by commas are at least one. -/
theorem gives_separatedAt {α : Type} (item : Nat → Read α) (first later : Nat) :
    ∀ n, Gives (fun items => items ≠ []) (separatedAt item first later n)
  | 0 => gives_fail
  | n + 1 => by
    rw [separatedAt]
    refine gives_bind fun a => gives_bind fun more => ?_
    split
    · exact gives_bind fun _ => gives_bind fun rest => gives_pure (List.cons_ne_nil a rest)
    · exact gives_pure (List.cons_ne_nil a [])

theorem gives_select (place : Nat) :
    ∀ n, Gives (fun s => (Statement.select s).NamesColumns) (select place n)
  | 0 => by
    rw [select]
    exact gives_fail
  | n + 1 => by
    rw [select]
    refine gives_bind fun _ => gives_bind_of (gives_separatedAt _ _ _ n) fun columns h => ?_
    repeat' first
      | with_reducible refine gives_bind fun _ => ?_
      | ((with_reducible refine gives_pure ?_); exact h)
      | with_reducible refine gives_ite ?_ ?_

theorem gives_createTable (before n : Nat) :
    Gives (fun s => (Statement.createTable s).NamesColumns) (createTable before n) := by
  simp only [createTable]
  repeat' first
    | with_reducible refine gives_bind_of (gives_separatedAt _ _ _ n) fun columns h => ?_
    | with_reducible refine gives_bind fun _ => ?_
    | ((with_reducible refine gives_pure ?_); exact h)
    | with_reducible refine gives_ite ?_ ?_

theorem gives_pragma : Gives Statement.NamesColumns pragma := by
  rw [pragma]
  repeat' first
    | with_reducible refine gives_bind fun _ => ?_
    | ((with_reducible refine gives_pure ?_); exact trivial)
    | with_reducible refine gives_ite ?_ ?_

theorem gives_statement (before n : Nat) :
    Gives Statement.NamesColumns (statement before n) := by
  simp only [statement]
  -- Two kinds of statements have to have columns; all others are as they are.
  repeat' first
    | with_reducible exact gives_fail
    | with_reducible exact gives_pragma
    | with_reducible refine gives_bind_of (gives_select _ _) fun _ h => gives_pure h
    | with_reducible refine gives_bind_of (gives_createTable _ _) fun _ h => gives_pure h
    | with_reducible refine gives_bind fun _ => ?_
    | ((with_reducible refine gives_pure ?_); exact trivial)
    | with_reducible refine gives_ite ?_ ?_
    | split

end Grammar

theorem namesColumns_of_read {text : List Char} {reading : Statement.Reading}
    {m : Statement.Parsed} (h : Statement.read text = .ok reading) (hm : reading.parsed = some m) :
    m.statement.NamesColumns := by
  by_cases hn : Statement.tokensOf text = []
  · rw [Statement.read_of_tokensOf_eq_nil hn] at h
    cases h
    cases hm
  · obtain ⟨s, r, hp, -, hparsed⟩ := Statement.exists_of_read hn h
    rw [hparsed] at hm
    cases hm
    exact Grammar.gives_statement _ _ _ s r hp

/-- **Statements that have been read have columns** where they must have some. -/
theorem namesColumns_of_meaning {sql : String} {m : Statement.Parsed} (h : meaning? sql = some m) :
    m.statement.NamesColumns := by
  rw [meaning?] at h
  cases hr : Statement.read sql.toList with
  | error f =>
    rw [hr] at h
    cases h
  | ok reading =>
    rw [hr] at h
    cases h
    cases hp : reading.parsed with
    | none => trivial
    | some m => exact namesColumns_of_read hr hp

/-! ### What a statement is resolved to -/

/-- A statement ready to run has a name for each value that it returns, a query returns something,
and a table that is made is well formed. -/
def Resolved.Wide (r : Resolved) : Prop :=
  match r.plan with
  | .query q => r.columns.length = q.width ∧ r.columns ≠ []
  | .insert p => r.columns.length = p.returning.length
  | .update p => r.columns.length = p.returning.length
  | .delete p => r.columns.length = p.returning.length
  | .journalMode _ => r.columns.length = 1
  | .createTable (some t) => t.WellFormed
  | .addColumn p => p.definition.WellFormed
  | _ => True

namespace Names

variable {n : Names} {t t' : Table}

/-! #### Definitions of tables -/

/-- A rule of a column adds no column and takes none away, and leaves the rows alone. -/
theorem keeps_addRule {c : ColumnDefinition} {rule : ColumnRule} (h : addRule c t rule = .ok t') :
    t'.columns.length = t.columns.length ∧ t'.rows = t.rows := by
  revert h
  unfold addRule
  repeat' split
  all_goals
    intro h
    cases h
  all_goals simp

theorem keeps_addRules {c : ColumnDefinition} {rules : List ColumnRule}
    (h : rules.foldlM (addRule c) t = .ok t') :
    t'.columns.length = t.columns.length ∧ t'.rows = t.rows := by
  induction rules generalizing t with
  | nil =>
    cases h
    exact ⟨rfl, rfl⟩
  | cons rule rest ih =>
    rw [List.foldlM_cons] at h
    obtain ⟨u, hu, h⟩ := exists_of_bind_eq_ok h
    obtain ⟨hc, hr⟩ := keeps_addRule hu
    obtain ⟨hc', hr'⟩ := ih h
    exact ⟨hc'.trans hc, hr'.trans hr⟩

theorem columns_addColumn {c : ColumnDefinition} (h : addColumn t c = .ok t') :
    t'.columns ≠ [] ∧ t'.rows = t.rows := by
  revert h
  unfold addColumn
  split
  · nofun
  · split
    · nofun
    · intro h
      obtain ⟨hl, hr⟩ := keeps_addRules h
      refine ⟨fun hn => ?_, hr⟩
      rw [hn] at hl
      simp at hl

theorem columns_addColumns {columns : List ColumnDefinition} (hne : columns ≠ [])
    (h : columns.foldlM addColumn t = .ok t') : t'.columns ≠ [] ∧ t'.rows = t.rows := by
  induction columns generalizing t with
  | nil => exact absurd rfl hne
  | cons c rest ih =>
    rw [List.foldlM_cons] at h
    obtain ⟨u, hu, h⟩ := exists_of_bind_eq_ok h
    cases rest with
    | nil =>
      cases h
      exact columns_addColumn hu
    | cons c' rest =>
      obtain ⟨hc, hr⟩ := ih (List.cons_ne_nil _ _) h
      exact ⟨hc, hr.trans (columns_addColumn hu).2⟩

theorem wellFormed_addColumn {c : ColumnDefinition} (h : addColumn t c = .ok t')
    (ht : t.rows = []) : t'.WellFormed := by
  obtain ⟨hc, hr⟩ := columns_addColumn h
  exact ⟨hc, by rw [hr, ht]; exact List.Pairwise.nil⟩

/-- A table that is made of columns has no rows yet. -/
theorem wellFormed_addColumns {columns : List ColumnDefinition} (hne : columns ≠ [])
    (h : columns.foldlM addColumn t = .ok t') (ht : t.rows = []) : t'.WellFormed := by
  obtain ⟨hc, hr⟩ := columns_addColumns hne h
  exact ⟨hc, by rw [hr, ht]; exact List.Pairwise.nil⟩

/-! #### Queries -/

theorem columns_of_table (hd : n.database.WellFormed) {name : String}
    (h : n.table name = .ok t) : t.columns ≠ [] := by
  rw [table] at h
  cases hf : n.database.find? name with
  | none =>
    rw [hf] at h
    cases h
  | some u =>
    rw [hf] at h
    cases h
    exact (hd.find? hf).columns

theorem columns_of_source (hd : n.database.WellFormed) {s : Option Source}
    {called : String × Table} (h : n.source s = .ok (some called)) : called.2.columns ≠ [] := by
  cases s with
  | none => cases h
  | some s =>
    obtain ⟨t, ht, h⟩ := exists_of_bind_eq_ok h
    cases h
    exact columns_of_table hd ht

theorem everyColumn_ne_nil (h : t.columns ≠ []) : everyColumn t ≠ [] := by
  simpa [everyColumn, List.range_eq_nil] using h

/-- What a query returns is not nothing, if the columns are there that it returns as a whole. -/
theorem gives_results {s : Option (String × Table)} (hs : ∀ called ∈ s, called.2.columns ≠ [])
    {columns : List ResultColumn} (hne : columns ≠ []) (hw : (checkWidth s columns).isOk = true) :
    Gives (fun results => results ≠ []) (n.results s columns) := by
  cases columns with
  | nil => exact absurd rfl hne
  | cons column rest =>
    have whole : s.isSome = true → ∀ more : List Result,
        (s.elim [] fun p => everyColumn p.2) ++ more ≠ [] := by
      intro h more
      obtain ⟨called, rfl⟩ := Option.isSome_iff_exists.mp h
      exact List.append_ne_nil_of_left_ne_nil (everyColumn_ne_nil (hs called rfl)) more
    cases column with
    | value e label written =>
      rw [results]
      refine gives_bind fun _ => gives_bind fun _ => gives_bind fun _ => gives_bind fun _ => ?_
      exact gives_pure (List.cons_ne_nil _ _)
    | everything =>
      rw [results]
      refine gives_bind fun more => gives_pure (whole ?_ more)
      cases s with
      | none => cases hw
      | some called => rfl
    | allOf name =>
      rw [results]
      refine gives_bind fun more => gives_pure (whole ?_ more)
      cases s with
      | none => cases hw
      | some called => rfl

theorem gives_query (hd : n.database.WellFormed) (purpose : Purpose) {s : Select}
    (hs : (Statement.select s).NamesColumns) (ht : (n.checkTablesOfQuery s).isOk = true) :
    Gives (fun p : QueryPlan × List String => p.2.length = p.1.width ∧ p.2 ≠ [])
      (n.query purpose s) := by
  obtain ⟨columns, source, condition, order⟩ := s
  rw [query]
  refine gives_bind_of (gives_lift fun t h => h) fun t hsource => ?_
  have hw : (checkWidth t columns).isOk = true := by
    rw [checkTablesOfQuery, hsource] at ht
    change ((checkWidth t columns).bind _).isOk = true at ht
    cases hc : checkWidth t columns with
    | error f =>
      rw [hc] at ht
      cases ht
    | ok _ => rfl
  have hcolumns : ∀ called ∈ t, called.2.columns ≠ [] := by
    rintro called rfl
    exact columns_of_source hd hsource
  refine gives_bind_of (gives_results hcolumns hs hw) fun results hne => ?_
  extract_lets values labels grouped
  refine gives_bind fun conditions => gives_bind fun keys => ?_
  refine gives_bind fun _ => gives_bind fun _ => ?_
  extract_lets needed ordered rows finished
  have hf : ∀ u, Gives (fun p : QueryPlan × List String => p.2.length = p.1.width ∧ p.2 ≠ [])
      (finished u) :=
    fun _ => gives_pure ⟨by simp [QueryPlan.width, values], by simpa using hne⟩
  exact gives_ite (gives_bind hf) (hf ())

/-! #### Statements -/

/-- **A statement with columns is resolved to one that has a name for each value that it returns**,
in a database whose tables have columns. -/
theorem gives_statement (hd : n.database.WellFormed) {s : Statement} (hs : s.NamesColumns) :
    Gives Resolved.Wide (n.statement s) := by
  cases s with
  | select s =>
    rw [Names.statement]
    refine gives_bind_of (gives_lift (P := fun _ => (n.checkTablesOfQuery s).isOk = true)
      fun _ h => by rw [h]; rfl) fun _ ht => ?_
    exact gives_bind_of (gives_query hd _ hs ht) fun p h => gives_pure h
  | pragma name value =>
    refine gives_pure ?_
    rw [pragma]
    repeat' split
    all_goals first | exact trivial | rfl | exact ⟨rfl, List.cons_ne_nil _ _⟩
  | insert s =>
    simp only [Names.statement, Names.insert]
    repeat' first
      | with_reducible exact gives_throw _
      | with_reducible refine gives_bind fun _ => ?_
      | ((with_reducible refine gives_pure ?_);
          simp only [Resolved.Wide, inTableOrder, List.length_map])
      | split
  | update s =>
    simp only [Names.statement, Names.update]
    repeat' first
      | with_reducible refine gives_bind fun _ => ?_
      | ((with_reducible refine gives_pure ?_); simp [Resolved.Wide])
  | delete s =>
    simp only [Names.statement, Names.delete]
    repeat' first
      | with_reducible refine gives_bind fun _ => ?_
      | ((with_reducible refine gives_pure ?_); simp [Resolved.Wide])
  | createTable s =>
    have hc : ∀ t, s.columns.foldlM addColumn ⟨s.table, [], none, [], [], [], []⟩ = .ok t →
        t.WellFormed := fun t h => wellFormed_addColumns hs h rfl
    simp only [Names.statement, createTable]
    repeat' first
      | with_reducible exact gives_throw _
      | with_reducible refine gives_bind_of (gives_lift hc) fun _ h => ?_
      | with_reducible refine gives_bind fun _ => ?_
      | ((with_reducible refine gives_pure ?_); exact trivial)
      | ((with_reducible refine gives_pure ?_); exact h)
      | split
  | addColumn table column =>
    simp only [Names.statement, extendTable]
    refine gives_bind fun t => gives_bind_of (gives_lift fun _ h => wellFormed_addColumn h rfl)
      fun extended he => ?_
    repeat' first
      | with_reducible exact gives_throw _
      | with_reducible refine gives_bind fun _ => ?_
      | ((with_reducible refine gives_pure ?_); exact ⟨he.columns, he.ascending⟩)
      | split
  | dropTable table ifExists =>
    simp only [Names.statement]
    repeat' first
      | with_reducible exact gives_throw _
      | ((with_reducible refine gives_pure ?_); exact trivial)
      | split
  | control c => exact gives_pure trivial

/-- **A statement with columns is resolved to one that has a name for each value that it returns**,
in a database whose tables have columns. -/
theorem wide_of_resolve (hd : n.database.WellFormed) {s : Statement} {r : Resolved}
    (hs : s.NamesColumns) (h : n.resolve s = .ok r) : r.Wide :=
  Resolve.Yields.of_start (gives_statement hd hs) h

end Names

/-! ### Rows that are delivered -/

namespace Connection

variable {c : Connection}

/-- What a change of rows delivers is what it returns. -/
theorem mem_rows_applyChange {change : Change} {stop : Option Stop} {row : List Value}
    (h : row ∈ (c.applyChange change stop).2.rows) : row ∈ change.returned := by
  have he := c.ending_applyChange change stop
  generalize c.applyChange change stop = ended at he h
  cases he with
  | kept keep output =>
    rcases output with rfl | ⟨g, hg, rfl⟩
    · exact h
    · cases h
  | undone fault rows =>
    rcases rows with hr | hr
    · exact hr ▸ h
    · rw [hr] at h
      cases h
  | rolledBack g open_ => cases h

theorem rows_journalMode (c : Connection) (word : Option String) :
    ∀ row ∈ (c.journalMode word).2.rows, row.length = 1 := by
  have ha : ∀ v : Value, ∀ row ∈ [[v]], row.length = 1 :=
    fun v => List.forall_mem_singleton.mpr rfl
  unfold journalMode
  dsimp only
  repeat' split
  all_goals first | exact ha _ | nofun

theorem rows_run {r : Resolved} (h : r.Wide) (values : List Value) :
    ∀ row ∈ (c.run values r.plan).2.rows, row.length = r.columns.length ∧ row ≠ [] := by
  obtain ⟨plan, columns⟩ := r
  have hchanged : ∀ change stop, plan.change? values c.beginChange = some (change, stop) →
      columns.length = plan.returning.length →
      ∀ row ∈ (c.run values plan).2.rows, row.length = columns.length ∧ row ≠ [] := by
    intro change stop hp hl row hrow
    rw [run_of_change? hp] at hrow
    rw [hl]
    exact Plan.width_returned_of_change? rfl hp row (mem_rows_applyChange hrow)
  have hnone : ∀ {rows : List (List Value)}, rows = [] →
      ∀ row ∈ rows, row.length = columns.length ∧ row ≠ [] := by
    rintro rows rfl
    nofun
  cases plan with
  | query q =>
    obtain ⟨hl, hne⟩ := h
    intro row hrow
    have hw : row.length = q.width := by
      rw [run, Output.ofDelivery] at hrow
      split at hrow <;> exact q.width_of_mem _ _ row hrow
    refine ⟨hw.trans hl.symm, fun hn => hne (List.eq_nil_of_length_eq_zero ?_)⟩
    rw [hl, ← hw, hn]
    rfl
  | insert p => exact hchanged _ _ rfl h
  | update p => exact hchanged _ _ rfl h
  | delete p => exact hchanged _ _ rfl h
  | journalMode word =>
    intro row hrow
    have hl := c.rows_journalMode word row hrow
    exact ⟨hl.trans h.symm, List.ne_nil_of_length_eq_add_one hl⟩
  | createTable t => cases t <;> exact hnone rfl
  | dropTable table =>
    cases table with
    | none => exact hnone rfl
    | some dropped =>
      rw [run]
      split
      · exact hnone rfl
      · exact hnone (c.rows_dropTable _ _)
  | addColumn p => exact hnone (c.rows_addColumn p)
  | control command => exact hnone rfl
  | expire => exact hnone rfl
  | idle => exact hnone rfl

/-- **Every row that a statement delivers has a value for each name, and at least one.** -/
theorem rows_perform {r : Resolved} (h : r.Wide) (values : List Value) :
    ∀ row ∈ (c.perform values r.plan).2.rows, row.length = r.columns.length ∧ row ≠ [] := by
  have hp := c.performed_perform values r.plan
  generalize c.perform values r.plan = performed at hp
  cases hp with
  | refused k writes count => exact List.forall_mem_nil _
  | ran k => exact rows_run h values

end Connection

end NamedSql.Sql
