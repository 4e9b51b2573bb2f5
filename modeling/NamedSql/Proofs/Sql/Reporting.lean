import NamedSql.Proofs.Sql.Deferring
import NamedSql.Proofs.Sql.Editing
import NamedSql.Proofs.Sql.Regular

/-!
# How many rows a connection says were changed

A connection remembers how many rows were changed by the last statement that changes rows. So after
such a statement it tells how many edits the statement has asked for, whatever was done with the
connection before. Any other statement leaves the number as it finds it, except that a table which
is dropped may have its rows deleted before.

## Main definitions

* `Statement.changesRows` — a statement inserts, changes or deletes rows
* `Session.Performs` — what a call carries out, and with which values

## Main results

* `Connection.kept_of_perform` — after a change of rows the connection tells how many there were
* `Connection.changes_perform` — no other statement says anything but how many there were before
* `Session.performs_of_call` — a call carries out the statement of its text
* `Session.Upholds.changes_of_call` — what the connection tells after a call
-/

namespace NamedSql.Sql

/-- Whether a statement inserts, changes or deletes rows. -/
def Statement.changesRows : Statement → Bool
  | .insert _ | .update _ | .delete _ => true
  | _ => false

namespace Names

variable {n : Names} {s : Statement} {r : Resolved}

theorem yields_changesRows (n : Names) (s : Statement) :
    Resolve.Yields (fun r => r.plan.changesRows = s.changesRows) (n.statement s) := by
  cases s with
  | control c => exact Resolve.yields_pure rfl
  | pragma name value =>
    refine Resolve.yields_pure ?_
    rw [pragma]
    repeat' split
    all_goals rfl
  | _ =>
    simp only [Names.statement, Names.insert, Names.update, Names.delete, Names.createTable,
      Names.extendTable]
    -- Every branch fails or ends with a plan of its own kind.
    repeat' first
      | with_reducible exact Resolve.yields_pure rfl
      | with_reducible exact Resolve.yields_throw _
      | with_reducible refine Resolve.yields_bind fun _ => ?_
      | split

/-- A statement is resolved to one that changes rows exactly if it does so itself. -/
theorem changesRows_of_resolve (h : n.resolve s = .ok r) :
    r.plan.changesRows = s.changesRows :=
  (n.yields_changesRows s).of_start h

end Names

namespace Connection

variable {c : Connection} {values : List Value} {p : Plan}

/-! ### Statements that change rows -/

/-- A change of rows that stops delivers a fault. -/
theorem fault_applyChange_of_stop (c : Connection) (change : Change) (stop : Stop) :
    (c.applyChange change (some stop)).2.fault ≠ none := by
  unfold applyChange
  extract_lets c₀ b isComplete stop'
  have hs : ∃ s, stop' = some s := by
    by_cases h : (isComplete && decide (0 < change.missing.immediate)) = true
    · exact ⟨_, if_pos h⟩
    · exact ⟨_, if_neg h⟩
  obtain ⟨⟨f, conflict⟩, hs⟩ := hs
  rw [hs]
  cases conflict with
  | fail =>
    dsimp only
    split <;> nofun
  | _ => nofun

theorem lastRowid_changing (c : Connection) (change : Change) :
    (c.changing change).lastRowid = change.lastRowid.getD c.lastRowid := by
  rw [changing]
  split <;> rfl

/-- A change of rows that delivers no fault has come to its end and is kept. -/
theorem kept_of_applyChange {change : Change} {stop : Option Stop}
    (h : (c.applyChange change stop).2.fault = none) :
    stop = none ∧ (c.applyChange change stop).1.database = change.database ∧
      (c.applyChange change stop).1.changes = change.count ∧
      (c.applyChange change stop).1.lastRowid = change.lastRowid.getD c.lastRowid := by
  have hs : stop = none := by
    cases stop with
    | none => rfl
    | some stop => exact absurd h (c.fault_applyChange_of_stop change stop)
  have he := c.ending_applyChange change stop
  generalize c.applyChange change stop = ended at he h
  cases he with
  | @kept e o keep output =>
    refine ⟨hs, ?_⟩
    rw [← c.lastRowid_changing change]
    rw [Connection.keep] at keep
    split at keep
    · cases keep
      exact ⟨rfl, rfl, rfl⟩
    · split at keep
      · cases keep
      · cases keep
        exact ⟨rfl, rfl, rfl⟩
  | undone fault rows => exact absurd h fault
  | rolledBack f open_ => cases h

theorem change?_isSome (hp : p.changesRows = true) (values : List Value) (c : Change) :
    (p.change? values c).isSome = true := by
  cases p with
  | insert p => rfl
  | update p => rfl
  | delete p => rfl
  | _ => cases hp

/-- **After a change of rows the connection tells how many there were**, and the rowid of the row
inserted last. -/
theorem kept_of_perform (hp : p.changesRows = true) (h : (c.perform values p).2.fault = none) :
    ∃ change, p.change? values (.start c.database ⟨0, c.deferred⟩) = some (change, none) ∧
      (c.perform values p).1.database = change.database ∧
      (c.perform values p).1.changes = change.count ∧
      (c.perform values p).1.lastRowid = change.lastRowid.getD c.lastRowid := by
  have hr := c.performed_perform values p
  generalize c.perform values p = performed at hr h
  cases hr with
  | refused k writes count => cases h
  | ran k =>
    obtain ⟨⟨change, stop⟩, hc⟩ :=
      Option.isSome_iff_exists.mp (change?_isSome hp values c.beginChange)
    rw [run_of_change? (c := { c with companions := k }) hc] at h ⊢
    obtain ⟨rfl, hkept⟩ := kept_of_applyChange h
    exact ⟨change, hc, hkept⟩

/-! ### Other statements -/

theorem changes_control (c : Connection) (command : Control) :
    (c.control command).1.changes = c.changes := by
  have hc := c.controlled_control command
  generalize c.control command = controlled at hc
  cases hc with
  | rolledBack open_ =>
    rw [rollBack]
    split <;> rfl
  | wentBack open_ kept =>
    rw [backTo]
    split <;> rfl
  | _ => rfl

theorem changes_journalMode (c : Connection) (word : Option String) :
    (c.journalMode word).1.changes = c.changes := by
  unfold journalMode changeMode
  dsimp only
  repeat' split
  all_goals rfl

theorem changes_addColumn (c : Connection) (p : ColumnPlan) :
    (c.addColumn p).1.changes = c.changes := by
  unfold addColumn
  dsimp only
  split <;> rfl

/-- The rows of a table that is dropped may be deleted before. -/
theorem changes_dropTable (c : Connection) (t : Table) (keys : KeyChecks) :
    (c.dropTable t keys).1.changes = c.changes ∨ (c.dropTable t keys).1.changes = 0 ∨
      (c.dropTable t keys).1.changes = t.rows.length := by
  have hu : ∀ d, (({ c with changes := 0 } : Connection).undo d).changes = 0 := by
    intro d
    unfold undo
    repeat' split
    all_goals rfl
  have hd := c.dropped_dropTable t keys
  generalize c.dropTable t keys = dropped at hd
  cases hd with
  | refused f => exact Or.inr (Or.inl (hu _))
  | emptied keep => exact Or.inr (Or.inr rfl)
  | erased same =>
    rcases same with rfl | rfl
    · exact Or.inl rfl
    · exact Or.inr (Or.inl rfl)

/-- A number that a statement leaves behind which changes no rows: the one that was there before,
unless the statement drops a table. -/
def Leaves (c : Connection) (p : Plan) (n : Nat) : Prop :=
  n = c.changes ∨ ∃ name keys t, p = .dropTable (some (name, keys)) ∧
    c.database.find? name = some t ∧ (n = 0 ∨ n = t.rows.length)

theorem changes_run (hp : p.changesRows = false) : c.Leaves p (c.run values p).1.changes := by
  cases p with
  | query q => exact Or.inl rfl
  | createTable t => cases t <;> exact Or.inl rfl
  | dropTable table =>
    cases table with
    | none => exact Or.inl rfl
    | some dropped =>
      rw [run]
      split
      · exact Or.inl rfl
      · rename_i t ht
        exact (c.changes_dropTable t dropped.2).imp_right fun h => ⟨_, _, t, rfl, ht, h⟩
  | addColumn p => exact Or.inl (c.changes_addColumn p)
  | control command => exact Or.inl (c.changes_control command)
  | journalMode word => exact Or.inl (c.changes_journalMode word)
  | expire => exact Or.inl rfl
  | idle => exact Or.inl rfl
  | _ => cases hp

/-- **No other statement says anything but how many changes there were before**, unless it drops a
table. -/
theorem changes_perform (hp : p.changesRows = false) :
    c.Leaves p (c.perform values p).1.changes := by
  have hr := c.performed_perform values p
  generalize c.perform values p = performed at hr
  cases hr with
  | refused k writes count =>
    rcases count with hn | ⟨hc, -⟩
    · exact Or.inl hn
    · rw [hp] at hc
      cases hc
  | ran k => exact changes_run (c := { c with companions := k }) hp

end Connection

namespace Session

variable {s t : Session} {sql : String} {p q : Prepared} {params : Params} {e : Execution}

theorem isCurrent_renewed (h : s.renewed p = (t, .ok q)) :
    q.isCurrent t.connection.age = true := by
  rw [renewed] at h
  split at h
  · cases h
    assumption
  · obtain ⟨rfl, r, -, rfl⟩ := eq_of_prepareParsed h
    exact isCurrent_configured s.connection p.parsed r

/-- What a call carries out: the statement of the text, resolved at some time, with these values of
its parameters. One that looks at tables is resolved as it is now, under the setting that it was
prepared under, unless a function hides another one without being counted. -/
structure Performs (s : Session) (text : String) (params : Params) (m : Statement.Parsed)
    (r : Resolved) (values : List Value) : Prop where
  meaning : meaning? text = some m
  resolved : ∃ n : Names, n.resolve m.statement = .ok r
  bound : bindParameters m.parameters params = .ok values
  fits : r.plan.Fits s.connection.database
  current : r.plan.looksAtTables = true → s.connection.HidesNone →
    ∃ on, (s.connection.enforcing on).names.resolve m.statement = .ok r

/-- A statement that looks at tables and is not out of date is resolved in the same way again. -/
theorem resolve_of_isCurrent (hb : p.DatesBack s.connection)
    (hc : p.isCurrent s.connection.age = true) (hl : p.resolved.plan.looksAtTables = true)
    (hf : Function.Distinct s.connection.functions) (hv : s.connection.HidesNone) :
    ∃ on, (s.connection.enforcing on).names.resolve p.parsed.statement = .ok p.resolved := by
  rw [Prepared.isCurrent, hl, Bool.not_true, Bool.or_false, Bool.and_eq_true, beq_iff_eq,
    beq_iff_eq] at hc
  obtain ⟨on, -, hr⟩ := hb.resolve hf hv hc.1 fun _ => hc.2
  exact ⟨on, hr⟩

/-- A call carries out a statement of its text that has been prepared and is not out of date, and
its connection is the one after that. -/
theorem exists_of_call (hd : s.Dated) (hs : s.Sound) (he : (s.call sql params).2 = .ok e)
    (hf : e.output.fault = none) :
    ∃ (q : Prepared) (u : Session) (values : List Value) (on : Bool),
      u.connection = s.connection.enforcing on ∧ q.ComesOf (Text.trimmed sql) ∧
      bindParameters q.parsed.parameters params = .ok values ∧ q.DatesBack u.connection ∧
      q.isCurrent u.connection.age = true ∧
      e.output = (u.connection.perform values q.resolved.plan).2 ∧
      (s.call sql params).1.connection = (u.connection.perform values q.resolved.plan).1 := by
  have hdated := hd.find (Text.trimmed sql)
  have hc := s.called_call sql params
  generalize s.call sql params = called at hc he ⊢
  cases hc with
  | unfound found => cases he
  | unbound found bound => cases he
  | outdated found bound renewed =>
    cases he
    cases hf
  | @performed t u p q values found bound renewed =>
    cases he
    rw [found] at hdated
    have hp := hs.comesOf_find found
    have hq := comesOf_renewed hp renewed
    have hparsed : p.parsed = q.parsed := Option.some.inj (hp.meaning.symm.trans hq.meaning)
    obtain ⟨hback, -⟩ := hdated.renewed (hd.datesBack_find found) renewed
    obtain ⟨on, hu⟩ := enforcing_renewed found renewed
    exact ⟨q, u, values, on, hu, hq, hparsed ▸ bound, hback, isCurrent_renewed renewed, rfl, rfl⟩

/-- **A call carries out the statement of its text**, and its connection is the one after that. -/
theorem performs_of_call (hd : s.Dated) (hs : s.Sound)
    (hdistinct : Function.Distinct s.connection.functions) (he : (s.call sql params).2 = .ok e)
    (hf : e.output.fault = none) :
    ∃ m r values on, s.Performs (Text.trimmed sql) params m r values ∧
      e.output = ((s.connection.enforcing on).perform values r.plan).2 ∧
      (s.call sql params).1.connection =
        ((s.connection.enforcing on).perform values r.plan).1 := by
  obtain ⟨q, u, values, on, hu, hq, hbound, hback, hcurrent, ho, hc⟩ := exists_of_call hd hs he hf
  refine ⟨q.parsed, q.resolved, values, on, ⟨hq.meaning, hq.resolved, hbound, ?_, fun hl hv => ?_⟩,
    hu ▸ ho, hu ▸ hc⟩
  · have hfits := hback.fits hcurrent
    rw [hu] at hfits
    exact hfits
  · have hv' : u.connection.HidesNone := by
      rw [hu]
      exact hv
    have hdistinct' : Function.Distinct u.connection.functions := by
      rw [hu]
      exact hdistinct
    have hn := resolve_of_isCurrent hback hcurrent hl hdistinct' hv'
    rw [hu] at hn
    exact hn

/-- **After a call that is carried out without a fault the connection tells how many rows its
statement has changed**, if it is a statement that changes rows: that many edits were asked for, and
the number is that of its plan in the database. After any other statement it tells how many there
were before. -/
theorem Upholds.changes_of_call (h : s.Upholds Connection.WellFormed Resolved.Wide)
    (hd : Function.Distinct s.connection.functions) (he : (s.call sql params).2 = .ok e)
    (hf : e.output.fault = none) :
    let after := (s.call sql params).1.connection
    ∃ m r values, s.Performs (Text.trimmed sql) params m r values ∧
      (m.statement.changesRows = true →
        (∃ es, r.plan.Edits values s.connection.database es after.database ∧
          after.changes = Edit.direct es) ∧
        after.changes = r.plan.count values s.connection.database) ∧
      (m.statement.changesRows = false → s.connection.Leaves r.plan after.changes) := by
  obtain ⟨m, r, values, on, hp, ho, hc⟩ := performs_of_call h.dated h.sound hd he hf
  obtain ⟨n, hn⟩ := hp.resolved
  refine ⟨m, r, values, hp, fun hm => ?_, fun hm => ?_⟩
  · rw [hc]
    obtain ⟨change, hchange, hd, hcount, -⟩ := Connection.kept_of_perform
      ((Names.changesRows_of_resolve hn).trans hm) (ho ▸ hf)
    rw [hd, hcount]
    exact ⟨Plan.edits_of_change? h.connection.database hp.fits hchange,
      Plan.count_of_change? hchange⟩
  · rw [hc]
    exact Connection.changes_perform ((Names.changesRows_of_resolve hn).trans hm)

end Session

end NamedSql.Sql
