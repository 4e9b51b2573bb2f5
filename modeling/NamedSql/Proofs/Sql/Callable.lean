import NamedSql.Proofs.Sql.Renewal

/-!
# Functions that statements can call

A connection has the functions that were added to it. Statements do nothing to them, whether they
succeed, fail, or roll a transaction back. So a statement that is run was prepared when there were
the functions that there are, or the first few of them; and a call that found a registered function
then finds the same one still.

Of the functions of one name a call finds the one that suits its arguments best. Where the names of
functions differ, only one function can be meant by it, however many arguments it has.

## Main results

* `Function.Distinct.resolve_eq` — a name calls its function as if there were no other
* `Connection.functions_perform`, `Session.functions_call`, `Session.functions_runBatch` — what
  leaves the functions alone
* `Session.exists_names_of_renewed` — the functions that a statement was prepared with
-/

namespace NamedSql.Sql

/-! ### Names of functions -/

namespace Function

variable {functions : List Function} {f : Function} {name : String} {count : Nat}

theorem sameName_comm (s t : String) : Token.sameName s t = Token.sameName t s := by
  rw [Token.sameName, Token.sameName, Bool.eq_iff_iff, beq_iff_eq, beq_iff_eq]
  exact eq_comm

theorem distinct_singleton (f : Function) : Distinct [f] := List.pairwise_singleton _ f

/-- Among functions with distinct names there is one of each name at most. -/
theorem Distinct.filter_sameName (h : Distinct functions) (hf : f ∈ functions)
    (hn : Token.sameName f.name name = true) :
    functions.filter (fun g => Token.sameName g.name name) = [f] := by
  have hother : ∀ g : Function, Token.sameName f.name g.name = false →
      Token.sameName g.name name = false := by
    intro g hg
    rw [← Database.sameName_of_sameName (s := g.name) hn, sameName_comm]
    exact hg
  induction functions with
  | nil => cases hf
  | cons g rest ih =>
    obtain ⟨hg, hrest⟩ := List.pairwise_cons.mp h
    rcases List.mem_cons.mp hf with rfl | hf
    · have hnone : rest.filter (fun g => Token.sameName g.name name) = [] :=
        List.filter_eq_nil_iff.mpr fun g hm => Bool.eq_false_iff.mp (hother g (hg g hm))
      rw [List.filter_cons, hn, if_pos rfl, hnone]
    · have hg' : Token.sameName g.name name = false := by
        refine hother g ?_
        rw [sameName_comm]
        exact hg f hf
      rw [List.filter_cons, hg', if_neg Bool.false_ne_true]
      exact ih hrest hf

/-- **A name calls its function as if there were no other**, or, if the function does not take the
arguments, what is always there. -/
theorem Distinct.resolve_eq (h : Distinct functions) (hf : f ∈ functions)
    (hn : Token.sameName f.name name = true) (count : Nat) :
    resolve functions name count = resolve [f] name count := by
  rw [resolve, resolve, h.filter_sameName hf hn,
    (distinct_singleton f).filter_sameName List.mem_cons_self hn]

theorem resolve_singleton (hn : Token.sameName f.name name = true) (hc : f.accepts count = true) :
    resolve [f] name count = .found (.registered f) := by
  rw [resolve, (distinct_singleton f).filter_sameName List.mem_cons_self hn]
  cases hb : best? [f] count with
  | none =>
    rw [best?_eq_none_iff.mp hb f List.mem_cons_self] at hc
    cases hc
  | some g => rw [List.mem_singleton.mp (of_best? hb).1]

/-- A call that finds a function among the first ones finds it among all of them. -/
theorem Distinct.resolve_of_isPrefix {first : List Function} (h : Distinct functions)
    (hp : first <+: functions) (hr : resolve first name count = .found (.registered f)) :
    resolve functions name count = .found (.registered f) := by
  obtain ⟨hf, hn, hc⟩ := of_resolve hr
  rw [h.resolve_eq (hp.subset hf) hn, resolve_singleton hn hc]

end Function

/-! ### What leaves the functions alone -/

namespace Connection

variable {c : Connection}

/-- A function with a name of its own is added behind the others. -/
theorem functions_addFunction {f : Function}
    (h : ∀ g ∈ c.functions, Token.sameName g.name f.name = false) :
    (c.addFunction f).functions = c.functions ++ [f] := by
  have hr : c.functions.any f.replaces = false := List.any_eq_false.mpr fun g hg => by
    rw [Function.replaces, h g hg, Bool.false_and]
    exact Bool.false_ne_true
  rw [addFunction, Function.filter_not_replaces hr]
  split <;> rfl

theorem functions_rollBack (c : Connection) : c.rollBack.functions = c.functions := by
  rw [rollBack]
  dsimp only
  split <;> rfl

theorem functions_control (c : Connection) (command : Control) :
    (c.control command).1.functions = c.functions := by
  have hc := c.controlled_control command
  generalize c.control command = controlled at hc
  cases hc with
  | rolledBack open_ => exact functions_rollBack c
  | wentBack open_ kept =>
    rw [backTo]
    split <;> rfl
  | _ => rfl

theorem functions_undo (c : Connection) (d : Database) :
    (c.undo d).functions = c.functions := by
  unfold undo
  repeat' split
  all_goals rfl

theorem functions_keep (c : Connection) (d : Database) (deferred : Int) :
    (c.keep d deferred).1.functions = c.functions := by
  rw [keep]
  split
  · rfl
  · split <;> rfl

theorem functions_changing (c : Connection) (change : Change) :
    (c.changing change).functions = c.functions := by
  rw [changing]
  split <;> rfl

theorem functions_applyChange (c : Connection) (change : Change) (stop : Option Stop) :
    (c.applyChange change stop).1.functions = c.functions := by
  have hc := c.functions_changing change
  have he := c.ending_applyChange change stop
  generalize c.applyChange change stop = ended at he
  cases he with
  | @kept e o keep output =>
    have hk := (c.changing change).functions_keep change.database change.missing.deferred
    rw [keep] at hk
    exact hk.trans hc
  | undone fault rows => exact (functions_undo _ _).trans hc
  | rolledBack f open_ => exact (functions_rollBack _).trans hc

theorem functions_dropTable (c : Connection) (t : Table) (keys : KeyChecks) :
    (c.dropTable t keys).1.functions = c.functions := by
  have hd := c.dropped_dropTable t keys
  generalize c.dropTable t keys = dropped at hd
  cases hd with
  | refused f => exact functions_undo _ _
  | emptied keep =>
    have hk := functions_keep { c with changes := 0 } (c.emptied t keys).1
      (c.emptied t keys).2.deferred
    rw [keep] at hk
    exact hk
  | erased same => rcases same with rfl | rfl <;> rfl

theorem functions_addColumn (c : Connection) (p : ColumnPlan) :
    (c.addColumn p).1.functions = c.functions := by
  unfold addColumn
  dsimp only
  split <;> rfl

theorem functions_run (c : Connection) (parameters : List Value) (p : Plan) :
    (c.run parameters p).1.functions = c.functions := by
  cases p with
  | insert p => exact functions_applyChange c _ _
  | update p => exact functions_applyChange c _ _
  | delete p => exact functions_applyChange c _ _
  | createTable t => cases t <;> rfl
  | dropTable table =>
    cases table with
    | none => rfl
    | some dropped =>
      rw [run]
      split
      · rfl
      · exact functions_dropTable c _ _
  | addColumn p => exact functions_addColumn c p
  | control command => exact functions_control c command
  | journalMode word => exact (c.keeps_journalMode word).functions
  | _ => rfl

/-- **A statement leaves the functions alone**, whatever it does. -/
theorem functions_perform (c : Connection) (parameters : List Value) (p : Plan) :
    (c.perform parameters p).1.functions = c.functions := by
  have hp := c.performed_perform parameters p
  generalize c.perform parameters p = performed at hp
  cases hp with
  | refused k writes count => rfl
  | ran k => exact functions_run _ parameters p

end Connection

namespace Session

variable {s t : Session} {sql : String} {p q : Prepared}

theorem functions_of_enforcing {c : Connection} (h : ∃ on, s.connection = c.enforcing on) :
    s.connection.functions = c.functions := by
  obtain ⟨on, hon⟩ := h
  rw [hon]
  rfl

theorem functions_find (s : Session) (sql : String) :
    (s.find sql).1.connection.functions = s.connection.functions :=
  functions_of_enforcing (s.exists_enforcing_find sql)

theorem functions_control (s : Session) (command : Control) :
    (s.control command).1.connection.functions = s.connection.functions :=
  s.connection.functions_control command

/-- **A call leaves the functions alone.** -/
theorem functions_call (s : Session) (sql : String) (params : Params) :
    (s.call sql params).1.connection.functions = s.connection.functions := by
  have hc := s.called_call sql params
  generalize s.call sql params = called at hc
  cases hc with
  | unfound found => exact functions_of_enforcing (enforcing_find found)
  | unbound found bound =>
    have ht := functions_of_enforcing (enforcing_find found)
    exact ht
  | outdated found bound renewed =>
    have hu := functions_of_enforcing (enforcing_renewed found renewed)
    exact hu
  | performed found bound renewed =>
    have hu := functions_of_enforcing (enforcing_renewed found renewed)
    exact (Connection.functions_perform _ _ _).trans hu

theorem functions_runFrom (fuel : Nat) (s : Session) (text : List Char) :
    (runFrom fuel s text).1.connection.functions = s.connection.functions := by
  induction fuel generalizing s text with
  | zero => rfl
  | succ fuel ih =>
    cases text with
    | nil => rfl
    | cons c rest =>
      have hs := functions_of_enforcing (s.exists_enforcing_start (c :: rest))
      unfold runFrom
      generalize s.start (c :: rest) = started at hs
      obtain ⟨t, f | ⟨_ | p, more⟩⟩ := started
      · exact hs
      · exact (ih t more).trans hs
      · have hp := (t.connection.functions_perform
          (p.parsed.parameters.map fun _ => Value.null) p.resolved.plan).trans hs
        dsimp only
        split
        · exact hp
        · exact (ih _ more).trans hp

theorem functions_runBatch (s : Session) (sql : String) :
    (s.runBatch sql).1.connection.functions = s.connection.functions :=
  functions_runFrom _ s sql.toList

/-! ### The functions that a statement was prepared with -/

/-- **A statement that is run was prepared with the functions that there are, or with the first few
of them.** It may have been prepared before others were registered. -/
theorem exists_names_of_renewed (hp : p.DatesBack s.connection)
    (hr : s.renewed p = (t, .ok q)) :
    ∃ n : Names, n.resolve q.parsed.statement = .ok q.resolved ∧
      n.functions <+: s.connection.functions := by
  rw [Session.renewed] at hr
  split at hr
  · rename_i hc
    cases hr
    obtain ⟨c₀, hn, ha, hf⟩ := hp
    rw [Prepared.isCurrent, Bool.and_eq_true, beq_iff_eq, ha] at hc
    obtain ⟨more, he, -⟩ := hf.functions hc.1.symm
    exact ⟨c₀.names, hn, more, he.symm⟩
  · obtain ⟨-, r, hn, rfl⟩ := eq_of_prepareParsed hr
    exact ⟨s.connection.names, hn, List.prefix_rfl⟩

end Session

end NamedSql.Sql
