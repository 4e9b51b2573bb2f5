import NamedSql.Proofs.Registry.Running

/-!
# Calls and accessors

A query may be called in two ways: in general, where its shape decides what comes back, or by an
accessor, whose own type says what comes back. The two are dispatched separately, on the shape and
on the name of the accessor. Here they are compared: the accessor that belongs to the shape does
what the general call does, and every other accessor does nothing.

## Scope

An insertion takes a record, whereas every other accessor takes any parameters. So the general call
of a query that inserts has an accessor to be compared with only if its parameters are a record.
Nothing is supposed of the engine: both ways hand it the same text and the same parameters, whatever
it makes of them.

## Main definitions

* `Accessor.Argument`, `Accessor.Result` — what a call by an accessor takes and what it returns
* `Accessor.output` — the general form of what an accessor returns
* `Registry.ask` — a call by an accessor
* `Registry.serve` — what an accessor does with a query that it is let through to

## Main results

* `Registry.run_perform` — a general call does what the accessor of the shape does
* `Registry.run_ask_of_ne` — the other accessors refuse the query
* `Registry.call_agrees` — both of them, for all names and in all states
-/

namespace NamedSql

namespace Accessor

/-- What a call by an accessor takes. -/
def Argument : Accessor → Type
  | .insert => Record
  | _ => Params

/-- What a call by an accessor returns. -/
def Result : Accessor → Type
  | .run => RunResult
  | .changes => Nat
  | .lastRowId | .insert => Int64
  | .get => Option Record
  | .getValue | .one => Option Value
  | .all => List Record
  | .allValues | .list => List Value
  | .exists => Bool

/-- The parameters of the statement that a call executes. -/
def params : (a : Accessor) → a.Argument → Params
  | .insert, record => .named record
  | .run, params | .changes, params | .lastRowId, params | .get, params | .getValue, params
  | .all, params | .allValues, params | .one, params | .list, params | .exists, params => params

/-- What an accessor returns, as a general call returns it. -/
def output : (a : Accessor) → a.Result → QueryOutput
  | .run, r => .run r
  | .changes, n => .changes n
  | .lastRowId, id => .lastRowId id
  | .get, row => .row row
  | .getValue, v | .one, v => .value v
  | .all, rows => .rows rows
  | .allValues, vs | .list, vs => .values vs
  | .exists, b => .exists b
  | .insert, id => .insertId id

theorem output_injective (a : Accessor) : Function.Injective a.output := by
  intro v w h
  cases a <;> cases h <;> rfl

end Accessor

namespace Registry

variable {σ : Type} [Engine σ]

/-! ### Accessors as one family -/

/-- A call by an accessor. -/
def ask (name : String) : (a : Accessor) → a.Argument → Op (Registry σ) a.Result
  | .run, params => run name params
  | .changes, params => changes name params
  | .lastRowId, params => lastRowId name params
  | .get, params => get name params
  | .getValue, params => getValue name params
  | .all, params => all name params
  | .allValues, params => allValues name params
  | .one, params => one name params
  | .list, params => list name params
  | .exists, params => hasAny name params
  | .insert, record => insertOne name record

/-- What an accessor does with a query that it is let through to. -/
def serve (q : Query) : (a : Accessor) → a.Argument → Op (Registry σ) a.Result
  | .run, params => write q params
  | .changes, params => do return (← write q params).changes
  | .lastRowId, params => do return (← write q params).lastRowid
  | .get, params => firstRow q params
  | .getValue, params => firstValue q.shape.column q params
  | .all, params => everyRow q params
  | .allValues, params => everyValue q.shape.column q params
  | .one, params => firstValue none q params
  | .list, params => everyValue none q params
  | .exists, params => hasRow q params
  | .insert, record => do return (← write q (.named record)).lastRowid

variable {l : Logged (Registry σ)} {name : String} {q : Query}

theorem ask_eq (name : String) (a : Accessor) (x : a.Argument) :
    (ask name a x : Op (Registry σ) a.Result) = typed a name >>= fun q => serve q a x := by
  cases a <;> rfl

theorem run_ask (name : String) (a : Accessor) (x : a.Argument) (l : Logged (Registry σ)) :
    (ask name a x).run.run l =
      match l.state.chosen a name with
      | .ok q => (serve q a x).run.run l
      | .error e => (.error e, l) := by
  rw [ask_eq, Op.run_bind, run_typed]
  cases l.state.chosen a name with
  | ok q => rfl
  | error e => rfl

omit [Engine σ] in
theorem found_of_query? (h : l.state.query? name = some q) : l.state.found name = .ok q := by
  rw [found, h]

/-- The accessor that belongs to the shape is let through to the query. -/
theorem run_ask_ofShape (h : l.state.query? name = some q)
    (x : (Accessor.ofShape q.shape).Argument) :
    (ask name (.ofShape q.shape) x).run.run l =
      (serve q (.ofShape q.shape) x).run.run l := by
  rw [run_ask, chosen, found_of_query? h]
  dsimp only
  rw [if_pos (Accessor.accepts_ofShape q.shape)]

/-- **An accessor that does not belong to the shape refuses the query**, and nothing has happened
then. -/
theorem run_ask_of_ne (h : l.state.query? name = some q) {a : Accessor}
    (ha : a ≠ .ofShape q.shape) (x : a.Argument) :
    (ask name a x).run.run l = (.error (.kindMismatch name a.expected q.shape.display), l) := by
  have hn : ¬a.accepts q.shape = true := fun hc => ha (Accessor.eq_ofShape hc)
  rw [run_ask, chosen, found_of_query? h]
  dsimp only
  rw [if_neg hn]

theorem run_ask_of_none (h : l.state.query? name = none) (a : Accessor) (x : a.Argument) :
    (ask name a x).run.run l = (.error (.unknownQuery name), l) := by
  rw [run_ask, chosen, found, h]

/-! ### General calls -/

/-- A general call does with a query what the accessor of its shape does with it. -/
theorem run_perform (q : Query) (x : (Accessor.ofShape q.shape).Argument)
    (l : Logged (Registry σ)) :
    (perform q ((Accessor.ofShape q.shape).params x)).run.run l =
      let r := (serve q (.ofShape q.shape) x).run.run l
      (r.1.map (Accessor.ofShape q.shape).output, r.2) := by
  obtain ⟨name, sql, line, shape⟩ := q
  -- One part of what a write returns may be taken before or after it becomes an output.
  have hw : ∀ {α : Type} (part : RunResult → α) (out : α → QueryOutput) (q : Query) params,
      ((fun r => out (part r)) <$> write q params).run.run l =
        let r := (write q params >>= fun r => pure (part r)).run.run l
        (r.1.map out, r.2) := by
    intro α part out q params
    rw [Op.run_map, Op.run_bind]
    rcases (write q params).run.run l with ⟨e | r, m⟩ <;> rfl
  cases shape with
  | changes => exact hw (·.changes) .changes _ x
  | lastRowId => exact hw (·.lastRowid) .lastRowId _ x
  | insert => exact hw (·.lastRowid) .insertId _ (.named x)
  | get column => cases column <;> exact Op.run_map _ _ l
  | all column => cases column <;> exact Op.run_map _ _ l
  | _ => exact Op.run_map _ _ l

theorem run_call_of_query? (h : l.state.query? name = some q) (params : Params) :
    (call name params).run.run l = (perform q params).run.run l := by
  rw [call, Op.run_bind, run_lookUp, found_of_query? h]

theorem run_call (h : l.state.query? name = some q) (x : (Accessor.ofShape q.shape).Argument) :
    (call name ((Accessor.ofShape q.shape).params x)).run.run l =
      let r := (ask name (.ofShape q.shape) x).run.run l
      (r.1.map (Accessor.ofShape q.shape).output, r.2) := by
  rw [run_call_of_query? h, run_ask_ofShape h]
  exact run_perform q x l

theorem run_call_of_none (h : l.state.query? name = none) (params : Params) :
    (call name params).run.run l = (.error (.unknownQuery name), l) := by
  rw [call, Op.run_bind, run_lookUp, found, h]

theorem map_eq_ok_iff {α β : Type} {f : α → β} (hf : Function.Injective f) {r : Except Error α}
    {v : α} : r.map f = .ok (f v) ↔ r = .ok v := by
  cases r with
  | error e => exact ⟨nofun, nofun⟩
  | ok w =>
    constructor
    · intro h
      exact congrArg Except.ok (hf (Except.ok.inj h))
    · rintro ⟨⟩
      rfl

theorem map_eq_error_iff {α β : Type} {f : α → β} {r : Except Error α} {e : Error} :
    r.map f = .error e ↔ r = .error e := by
  cases r with
  | error e => exact ⟨fun h => by cases h; rfl, fun h => by cases h; rfl⟩
  | ok w => exact ⟨nofun, nofun⟩

/-- **A general call and the accessor of the shape agree, and no other accessor does anything.**
Called with the same parameters in the same state, both return the same, up to the general form of
what is returned, or fail with the same error, and they leave the same registry, log included. The
other accessors refuse the query by naming its shape, and a name that no query has is refused in
every way; a refusal leaves everything as it was. So it is on every engine. -/
theorem call_agrees (l : Logged (Registry σ)) (name : String) :
    (∀ q, l.state.query? name = some q →
      let a := Accessor.ofShape q.shape
      (∀ x : a.Argument,
        let general := (call name (a.params x)).run.run l
        let own := (ask name a x).run.run l
        (∀ v, general.1 = .ok (a.output v) ↔ own.1 = .ok v) ∧
        (∀ out, general.1 = .ok out → ∃ v, out = a.output v) ∧
        (∀ e, general.1 = .error e ↔ own.1 = .error e) ∧
        general.2 = own.2) ∧
      (∀ b ≠ a, ∀ x : b.Argument,
        (ask name b x).run.run l =
          (.error (.kindMismatch name b.expected q.shape.display), l))) ∧
    (l.state.query? name = none →
      (∀ params, (call name params).run.run l = (.error (.unknownQuery name), l)) ∧
      ∀ b, ∀ x : b.Argument, (ask name b x).run.run l = (.error (.unknownQuery name), l)) := by
  refine ⟨fun q h => ⟨fun x => ?_, fun b hb x => run_ask_of_ne h hb x⟩,
    fun h => ⟨run_call_of_none h, run_ask_of_none h⟩⟩
  dsimp only
  rw [run_call h]
  refine ⟨fun v => map_eq_ok_iff (Accessor.output_injective _), fun out ho => ?_,
    fun e => map_eq_error_iff, rfl⟩
  dsimp only at ho
  cases hr : ((ask name (.ofShape q.shape) x).run.run l).1 with
  | error e =>
    rw [hr] at ho
    cases ho
  | ok v =>
    rw [hr] at ho
    exact ⟨v, (Except.ok.inj ho).symm⟩

end Registry

end NamedSql
