import NamedSql.Registry.Script

/-!
# Running operations

What the operations of a registry do, as functions of the state that they run in. An operation that
calls a query does one of two things: it refuses the name and leaves everything as it is, or it
executes one statement. Everything that is proved about runs goes through this alternative, so a
change to one kind of call touches nothing beyond its equation here.

## Main definitions

* `Registry.found`, `Registry.chosen` — the query that a name stands for, or why it is refused
* `Invocation` — a query about to be executed with parameters
* `Logged.invoked` — the state once a statement has been executed
* `Logged.noting` — the state once an event has been logged

## Main results

* `Op.run_bind` — how operations follow each other
* `Registry.run_invoke`, `Registry.run_write`, `Registry.state_run_perform` — execution of a
  statement
* `Registry.state_run_call`, `Registry.state_run_access`, `Registry.state_run_insertOne` — the state
  after a call
-/

namespace NamedSql

/-! ### Following operations -/

section Following

variable {σ τ α β : Type}

theorem Action.run_bind (a : Action σ α) (f : α → Action σ β) (l : Logged σ) :
    (a >>= f).run l = (f (a.run l).1).run (a.run l).2 := rfl

theorem Op.run_bind (x : Op σ α) (f : α → Op σ β) (l : Logged σ) :
    (x >>= f).run.run l =
      match x.run.run l with
      | (.ok a, m) => (f a).run.run m
      | (.error e, m) => (.error e, m) := by
  rw [ExceptT.run_bind, Action.run_bind]
  rcases x.run.run l with ⟨_ | a, m⟩ <;> rfl

theorem Op.run_map (f : α → β) (x : Op σ α) (l : Logged σ) :
    (f <$> x).run.run l = ((x.run.run l).1.map f, (x.run.run l).2) := by
  rw [map_eq_pure_bind, Op.run_bind]
  rcases x.run.run l with ⟨_ | a, m⟩ <;> rfl

@[simp] theorem Op.run_ofResult (r : Except Error α) (l : Logged σ) :
    (Op.ofResult r).run.run l = (r, l) := rfl

@[simp] theorem Op.run_state (l : Logged σ) : (Op.state : Op σ σ).run.run l = (.ok l.state, l) :=
  rfl

@[simp] theorem Op.run_change (f : σ → σ) (l : Logged σ) :
    (Op.change f).run.run l = (.ok (), { l with state := f l.state }) := rfl

/-- The state once an event has been logged. -/
def Logged.noting (l : Logged σ) (e : Log.Event) : Logged σ := { l with events := l.events ++ [e] }

@[simp] theorem Op.run_log (e : Log.Event) (l : Logged σ) :
    (Op.log e).run.run l = (.ok (), l.noting e) := rfl

@[simp] theorem Logged.state_noting (l : Logged σ) (e : Log.Event) : (l.noting e).state = l.state :=
  rfl

end Following

/-- A query about to be executed with parameters. -/
structure Invocation where
  query : Query
  params : Params

variable {σ : Type}

namespace Logged

/-- The state once a statement has been executed. -/
def invoked [Engine σ] (l : Logged (Registry σ)) (i : Invocation) : Logged (Registry σ) where
  state := { l.state with session := (Engine.call l.state.session i.query.sql i.params).1 }
  component := l.component
  events :=
    if l.state.verbose then l.events ++ [Registry.executingNote i.query i.params] else l.events

end Logged

namespace Registry

/-! ### Names -/

/-- The query of a name, or why there is none. -/
def found (r : Registry σ) (name : String) : Except Error Query :=
  match r.query? name with
  | some q => .ok q
  | none => .error (.unknownQuery name)

/-- The query of a name that an accessor may call, or why there is none. -/
def chosen (r : Registry σ) (a : Accessor) (name : String) : Except Error Query :=
  match r.found name with
  | .ok q =>
    if a.accepts q.shape then .ok q else .error (.kindMismatch name a.expected q.shape.display)
  | .error e => .error e

theorem run_lookUp (name : String) (l : Logged (Registry σ)) :
    (lookUp name).run.run l = (l.state.found name, l) := by
  rw [lookUp, Op.run_bind, Op.run_state, found]
  dsimp only
  cases l.state.query? name <;> rfl

theorem run_typed (a : Accessor) (name : String) (l : Logged (Registry σ)) :
    (typed a name).run.run l = (l.state.chosen a name, l) := by
  rw [typed, Op.run_bind, run_lookUp, chosen]
  cases l.state.found name with
  | error e => rfl
  | ok q =>
    dsimp only
    split <;> rfl

/-! ### Execution -/

variable [Engine σ]

theorem run_invoke {α : Type} (q : Query) (params : Params)
    (read : Sql.Execution → Except Sql.Failure α) (l : Logged (Registry σ)) :
    (invoke q params read).run.run l =
      (((Engine.call l.state.session q.sql params).2.bind read).mapError (callError q),
        l.invoked ⟨q, params⟩) := by
  rw [invoke, Op.run_bind, Op.run_state]
  dsimp only
  cases hv : l.state.verbose with
  | true =>
    rw [Logged.invoked, hv]
    rfl
  | false =>
    rw [Logged.invoked, hv]
    rfl

/-- What a statement that is run for its effect returns. -/
def written (q : Query) (params : Params) (s : σ) : Except Error RunResult :=
  let called := Engine.call s q.sql params
  ((called.2.bind (·.written)).mapError (callError q)).map fun _ =>
    ⟨Engine.changes called.1, Engine.lastRowid called.1⟩

theorem run_write (q : Query) (params : Params) (l : Logged (Registry σ)) :
    (write q params).run.run l = (written q params l.state.session, l.invoked ⟨q, params⟩) := by
  rw [write, Op.run_bind, run_invoke, written]
  dsimp only
  rcases ((Engine.call l.state.session q.sql params).2.bind (·.written)).mapError (callError q) with
    e | _ <;> rfl

/-- The error of a statement that is run for its effect names its query. -/
theorem eq_callError_of_written {q : Query} {params : Params} {s : σ} {e : Error}
    (h : written q params s = .error e) : ∃ f, e = callError q f := by
  unfold written at h
  dsimp only at h
  cases hr : (Engine.call s q.sql params).2.bind (·.written) with
  | error f =>
    rw [hr] at h
    cases h
    exact ⟨f, rfl⟩
  | ok _ =>
    rw [hr] at h
    cases h

theorem state_run_perform (q : Query) (params : Params) (l : Logged (Registry σ)) :
    ((perform q params).run.run l).2 = l.invoked ⟨q, params⟩ := by
  unfold perform
  split <;>
    simp only [Op.run_map, run_write, firstRow, everyRow, firstValue, everyValue, hasRow,
      run_invoke]

/-! ### Calls

A call executes one statement if its name stands for a query that may be called so, and none
otherwise. -/

/-- What a call executes once its name has been looked up. -/
def invocations (q : Except Error Query) (params : Params) : List Invocation :=
  match q with
  | .ok q => [⟨q, params⟩]
  | .error _ => []

theorem state_run_call (name : String) (params : Params) (l : Logged (Registry σ)) :
    ((call name params).run.run l).2 =
      (invocations (l.state.found name) params).foldl Logged.invoked l := by
  rw [call, Op.run_bind, run_lookUp]
  cases l.state.found name with
  | error e => rfl
  | ok q => exact state_run_perform q params l

/-- What is done with a query once an accessor has been let through decides nothing about the
state, as long as it executes the query. -/
theorem state_run_typed {α : Type} {f : Query → Op (Registry σ) α} {params : Params}
    (hf : ∀ q m, ((f q).run.run m).2 = m.invoked ⟨q, params⟩) (a : Accessor) (name : String)
    (l : Logged (Registry σ)) :
    ((typed a name >>= f).run.run l).2 =
      (invocations (l.state.chosen a name) params).foldl Logged.invoked l := by
  rw [Op.run_bind, run_typed]
  cases l.state.chosen a name with
  | error e => rfl
  | ok q => exact hf q l

theorem state_run_write (q : Query) (params : Params) (m : Logged (Registry σ)) :
    ((write q params).run.run m).2 = m.invoked ⟨q, params⟩ := by rw [run_write]

/-- Reading one part of what a write returns. -/
theorem state_run_write_bind {α : Type} (f : RunResult → α) (q : Query) (params : Params)
    (m : Logged (Registry σ)) :
    ((write q params >>= fun r => pure (f r)).run.run m).2 = m.invoked ⟨q, params⟩ := by
  rw [Op.run_bind, run_write]
  rcases written q params m.state.session with e | r <;> rfl

theorem state_run_insertOne (name : String) (record : Record) (l : Logged (Registry σ)) :
    ((insertOne name record).run.run l).2 =
      (invocations (l.state.chosen .insert name) (.named record)).foldl Logged.invoked l :=
  state_run_typed (state_run_write_bind _ · _) .insert name l

theorem state_run_access (a : Accessor) (name : String) (params : Params)
    (l : Logged (Registry σ)) :
    ((access a name params).run.run l).2 =
      (invocations (l.state.chosen a name) params).foldl Logged.invoked l := by
  have hr : ∀ {α : Type} (read : Query → Sql.Execution → Except Sql.Failure α) q
      (m : Logged (Registry σ)),
      ((invoke q params (read q)).run.run m).2 = m.invoked ⟨q, params⟩ := by
    intro α read q m
    rw [run_invoke]
  cases a with
  | insert => exact state_run_typed (state_run_write_bind _ · _) .insert name l
  | run =>
    rw [access, Op.run_map]
    exact state_run_typed (state_run_write · _) .run name l
  | changes =>
    rw [access, Op.run_map]
    exact state_run_typed (state_run_write_bind _ · _) .changes name l
  | lastRowId =>
    rw [access, Op.run_map]
    exact state_run_typed (state_run_write_bind _ · _) .lastRowId name l
  | get =>
    rw [access, Op.run_map]
    exact state_run_typed (hr fun _ e => e.first e.record) .get name l
  | getValue =>
    rw [access, Op.run_map]
    exact state_run_typed (hr fun q e => e.first (e.pluck q.shape.column)) .getValue name l
  | all =>
    rw [access, Op.run_map]
    exact state_run_typed (hr fun _ e => e.every e.record) .all name l
  | allValues =>
    rw [access, Op.run_map]
    exact state_run_typed (hr fun q e => e.every (e.pluck q.shape.column)) .allValues name l
  | one =>
    rw [access, Op.run_map]
    exact state_run_typed (hr fun _ e => e.first (e.pluck none)) .one name l
  | list =>
    rw [access, Op.run_map]
    exact state_run_typed (hr fun _ e => e.every (e.pluck none)) .list name l
  | «exists» =>
    rw [access, Op.run_map]
    exact state_run_typed (hr fun _ e => e.hasRow) .exists name l

end Registry

end NamedSql
