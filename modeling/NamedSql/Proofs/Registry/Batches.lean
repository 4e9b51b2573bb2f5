import NamedSql.Proofs.Registry.Atomicity
import NamedSql.Proofs.Registry.Reachable
import NamedSql.Proofs.Sql.Restoring

/-!
# Batches

A batch of records is inserted as one unit of work. It does what a transaction does that inserts the
records one by one, each by a call of its own, and stops at the first one that fails. The two differ
in their errors, which a transaction wraps and a batch does not, and in what they log.

A batch that fails leaves no record behind. The reason is not that the transaction of the engine is
still open when it is rolled back, for the statement that fails may have ended it; it is that only
one text is executed in it (`Sql.Session.Undoable`).

## Scope

The records of a batch are a list; nothing else is done between two insertions. The law of an
outermost batch that fails supposes that a journal is kept when the batch begins. Without one the
engine does not undo what it has done: `unjournaled_batch_is_kept` shows a batch on a database in
memory that fails and keeps a record, although its caller was promised that none would be kept.

## Main definitions

* `Registry.insertEach` — insertions one by one
* `Registry.Inserted`, `Registry.Stopped` — the two ways in which they end
* `Registry.JoinedBatch`, `Registry.OutermostBatch` — what a batch amounts to inside another unit of
  work, and as one of its own

## Main results

* `Registry.inserted_or_stopped` — insertions one by one end
* `Registry.Inserted.run_insertAll`, `Registry.Stopped.run_insertAll` — the body of a batch does
  what insertions one by one do
* `Registry.Stopped.abandoned` — giving up the transaction of a batch brings the database back
* `Registry.insertMany_eq_transaction` — a batch leaves what a transaction of insertions leaves
* `Registry.batch_law` — every batch of a reachable registry is like that
-/

namespace NamedSql

namespace Registry

open NamedSql.Action
open Transactional (abandoned database isAutocommit undoesTransactions)

variable {σ : Type} [Engine σ] {name : String} {records : List Record} {q : Query}

/-! ### Insertions one by one -/

/-- Inserts records one by one, each by a call of its own, and returns the rowid of the last one. -/
def insertEach (name : String) (last : Option Int64) : List Record → Op (Registry σ) (Option Int64)
  | [] => return last
  | record :: rest => do
    let id ← insertOne name record
    insertEach name (some id) rest

/-- Records are inserted one by one, and each insertion returns its rowid. -/
inductive Inserted (name : String) : Registry σ → List Record → List Int64 → Registry σ → Prop
  | nil (r : Registry σ) : Inserted name r [] [] r
  | cons {l m : Logged (Registry σ)} {record : Record} {id : Int64} {records : List Record}
      {ids : List Int64} {r : Registry σ} (first : (insertOne name record).run.run l = (.ok id, m))
      (rest : Inserted name m.state records ids r) :
      Inserted name l.state (record :: records) (id :: ids) r

/-- Records are inserted one by one up to one whose insertion fails; those behind it are left
out. -/
inductive Stopped (name : String) : Registry σ → List Record → Error → Registry σ → Prop
  | here {l m : Logged (Registry σ)} {record : Record} {e : Error} (records : List Record)
      (fails : (insertOne name record).run.run l = (.error e, m)) :
      Stopped name l.state (record :: records) e m.state
  | later {l m : Logged (Registry σ)} {record : Record} {id : Int64} {records : List Record}
      {e : Error} {r : Registry σ} (first : (insertOne name record).run.run l = (.ok id, m))
      (rest : Stopped name m.state records e r) : Stopped name l.state (record :: records) e r

omit [Engine σ] in
theorem chosen_of_queries {r r' : Registry σ} (h : r'.queries = r.queries) (a : Accessor)
    (name : String) : r'.chosen a name = r.chosen a name := by
  rw [chosen, chosen, found, found, query?, query?, h]

theorem run_insertOne {l : Logged (Registry σ)} (hq : l.state.chosen .insert name = .ok q)
    (record : Record) :
    (insertOne name record).run.run l =
      ((written q (.named record) l.state.session).map (·.lastRowid),
        l.invoked ⟨q, .named record⟩) := by
  rw [insertOne, Op.run_bind, run_typed, hq]
  dsimp only
  rw [Op.run_bind, run_write]
  cases written q (.named record) l.state.session <;> rfl

/-- An insertion that succeeds has executed its statement, which has succeeded. -/
theorem written_of_insertOne {l m : Logged (Registry σ)} {record : Record} {id : Int64}
    (hq : l.state.chosen .insert name = .ok q)
    (h : (insertOne name record).run.run l = (.ok id, m)) :
    m = l.invoked ⟨q, .named record⟩ ∧
      ∃ changes, written q (.named record) l.state.session = .ok ⟨changes, id⟩ := by
  rw [run_insertOne hq] at h
  obtain ⟨hw, rfl⟩ := Prod.mk.inj h
  refine ⟨rfl, ?_⟩
  cases hx : written q (.named record) l.state.session with
  | error e =>
    rw [hx] at hw
    cases hw
  | ok w =>
    rw [hx] at hw
    cases hw
    exact ⟨w.changes, rfl⟩

/-- An insertion that fails has executed its statement, which has failed. -/
theorem error_of_insertOne {l m : Logged (Registry σ)} {record : Record} {e : Error}
    (hq : l.state.chosen .insert name = .ok q)
    (h : (insertOne name record).run.run l = (.error e, m)) :
    m = l.invoked ⟨q, .named record⟩ ∧ written q (.named record) l.state.session = .error e := by
  rw [run_insertOne hq] at h
  obtain ⟨hw, rfl⟩ := Prod.mk.inj h
  refine ⟨rfl, ?_⟩
  cases hx : written q (.named record) l.state.session with
  | error e' =>
    rw [hx] at hw
    cases hw
    rfl
  | ok w =>
    rw [hx] at hw
    cases hw

/-- Insertions leave everything alone but the engine. -/
theorem Inserted.eq {r r' : Registry σ} {ids : List Int64} (h : Inserted name r records ids r')
    (hq : r.chosen .insert name = .ok q) : r' = { r with session := r'.session } := by
  induction h with
  | nil r => rfl
  | @cons l m record id records ids r first rest ih =>
    obtain ⟨rfl, -⟩ := written_of_insertOne hq first
    exact ih hq

theorem Stopped.eq {r r' : Registry σ} {e : Error} (h : Stopped name r records e r')
    (hq : r.chosen .insert name = .ok q) : r' = { r with session := r'.session } := by
  induction h with
  | @here l m record e records fails =>
    obtain ⟨rfl, -⟩ := error_of_insertOne hq fails
    rfl
  | @later l m record id records e r first rest ih =>
    obtain ⟨rfl, -⟩ := written_of_insertOne hq first
    exact ih hq

/-- Insertions one by one end, all of them well or one of them with an error. -/
theorem inserted_or_stopped {r : Registry σ} (hq : r.chosen .insert name = .ok q)
    (records : List Record) :
    (∃ ids r', Inserted name r records ids r') ∨ ∃ e r', Stopped name r records e r' := by
  induction records generalizing r with
  | nil => exact Or.inl ⟨[], r, .nil r⟩
  | cons record rest ih =>
    let l : Logged (Registry σ) := ⟨r, "", []⟩
    have hl : l.state.chosen .insert name = .ok q := hq
    rcases hf : (insertOne name record).run.run l with ⟨e | id, m⟩
    · exact Or.inr ⟨e, m.state, .here rest hf⟩
    · have hm : m.state.chosen .insert name = .ok q := by
        obtain ⟨rfl, -⟩ := written_of_insertOne hl hf
        exact hq
      rcases ih hm with ⟨ids, r', h⟩ | ⟨e, r', h⟩
      · exact Or.inl ⟨id :: ids, r', .cons hf h⟩
      · exact Or.inr ⟨e, r', .later hf h⟩

/-! ### The body of a batch -/

theorem run_insertAll_cons (q : Query) (last : Option Int64) (count : Nat) (record : Record)
    (rest : List Record) (l : Logged (Registry σ)) :
    (insertAll q last count (record :: rest)).run.run l =
      match written q (.named record) l.state.session with
      | .error e => (.error e, l.invoked ⟨q, .named record⟩)
      | .ok w =>
        (insertAll q (some w.lastRowid) (count + 1) rest).run.run
          (l.invoked ⟨q, .named record⟩) := by
  rw [insertAll, Op.run_bind, run_write]
  cases written q (.named record) l.state.session <;> rfl

theorem session_invoked {l m : Logged (Registry σ)} (h : l.state.session = m.state.session)
    (i : Invocation) : (l.invoked i).state.session = (m.invoked i).state.session := by
  simp only [Logged.invoked, h]

/-- The body of a batch inserts all records if that can be done one by one. It depends on the engine
only, so it may run in another unit or with another log. -/
theorem Inserted.run_insertAll {r r' : Registry σ} {ids : List Int64}
    (h : Inserted name r records ids r') (hq : r.chosen .insert name = .ok q)
    {l : Logged (Registry σ)} (hl : l.state.session = r.session) (last : Option Int64)
    (count : Nat) :
    ∃ m : Logged (Registry σ), m.state = { l.state with session := r'.session } ∧
      (insertAll q last count records).run.run l =
        (.ok (ids.getLast?.or last, count + records.length), m) := by
  induction h generalizing l last count with
  | nil r =>
    refine ⟨l, ?_, rfl⟩
    rw [← hl]
  | @cons k m record id records ids r first rest ih =>
    obtain ⟨rfl, changes, hw⟩ := written_of_insertOne hq first
    obtain ⟨m, hm, hr⟩ := ih hq (session_invoked hl ⟨q, .named record⟩) (some id) (count + 1)
    refine ⟨m, hm, ?_⟩
    rw [run_insertAll_cons, hl, hw]
    dsimp only
    -- The rowid so far counts only if there is no record behind this one.
    rw [hr, List.length_cons, List.getLast?_cons, Nat.add_assoc, Nat.add_comm 1]
    cases ids.getLast? <;> rfl

/-- The body of a batch stops where insertions one by one stop, with the same error. -/
theorem Stopped.run_insertAll {r r' : Registry σ} {e : Error} (h : Stopped name r records e r')
    (hq : r.chosen .insert name = .ok q) {l : Logged (Registry σ)}
    (hl : l.state.session = r.session) (last : Option Int64) (count : Nat) :
    ∃ m : Logged (Registry σ), m.state = { l.state with session := r'.session } ∧
      (insertAll q last count records).run.run l = (.error e, m) := by
  induction h generalizing l last count with
  | @here k m record e records fails =>
    obtain ⟨rfl, hw⟩ := error_of_insertOne hq fails
    refine ⟨l.invoked ⟨q, .named record⟩, ?_, ?_⟩
    · simp only [Logged.invoked, hl]
    · rw [run_insertAll_cons, hl, hw]
  | @later k m record id records e r first rest ih =>
    obtain ⟨rfl, changes, hw⟩ := written_of_insertOne hq first
    obtain ⟨m, hm, hr⟩ := ih hq (session_invoked hl ⟨q, .named record⟩) (some id) (count + 1)
    refine ⟨m, hm, ?_⟩
    rw [run_insertAll_cons, hl, hw]
    exact hr

/-! ### Giving up a batch -/

section

variable {d : Sql.Database} {r r' : Registry}

theorem undoable_of_written {s : Sql.Session} {params : Params} {w : RunResult}
    (hu : s.Undoable (Text.trimmed q.sql) d) (hw : written q params s = .ok w) :
    (s.call q.sql params).1.Undoable (Text.trimmed q.sql) d := by
  rcases hu.call params with h | ⟨-, f, hf⟩
  · exact h
  · unfold written at hw
    simp only [Engine.call_session, hf] at hw
    cases hw

theorem Inserted.undoable {ids : List Int64} (h : Inserted name r records ids r')
    (hq : r.chosen .insert name = .ok q) (hu : r.session.Undoable (Text.trimmed q.sql) d) :
    r'.session.Undoable (Text.trimmed q.sql) d := by
  induction h with
  | nil r => exact hu
  | cons first rest ih =>
    obtain ⟨rfl, changes, hw⟩ := written_of_insertOne hq first
    exact ih hq (undoable_of_written hu hw)

/-- Wherever insertions stop, and even if the statement that has failed has ended the transaction of
the engine, giving up what is open brings the database back. -/
theorem Stopped.abandoned {e : Error} (h : Stopped name r records e r')
    (hq : r.chosen .insert name = .ok q) (hu : r.session.Undoable (Text.trimmed q.sql) d) :
    r'.session.connection.abandoned = d := by
  induction h with
  | @here l m record e records fails =>
    obtain ⟨rfl, -⟩ := error_of_insertOne hq fails
    rcases hu.call (.named record) with h | ⟨h, -⟩
    · exact h.abandoned
    · exact h
  | later first rest ih =>
    obtain ⟨rfl, changes, hw⟩ := written_of_insertOne hq first
    exact ih hq (undoable_of_written hu hw)

end

/-! ### The transaction of single insertions -/

/-- A batch and insertions one by one return the same and leave the same, whatever has been logged
before. -/
theorem run_insertEach {l m : Logged (Registry σ)} (hl : m.state = l.state)
    (hq : l.state.chosen .insert name = .ok q) (last : Option Int64) (count : Nat)
    (records : List Record) :
    ((insertEach name last records).run.run m).1 =
        ((insertAll q last count records).run.run l).1.map (·.1) ∧
      ((insertEach name last records).run.run m).2.state =
        ((insertAll q last count records).run.run l).2.state := by
  induction records generalizing l m last count with
  | nil => exact ⟨rfl, hl⟩
  | cons record rest ih =>
    have hm : m.state.chosen .insert name = .ok q := by rw [hl, hq]
    have hi : (m.invoked ⟨q, .named record⟩).state = (l.invoked ⟨q, .named record⟩).state := by
      rw [state_invoked, state_invoked, hl]
    rw [insertEach, Op.run_bind, run_insertOne hm, run_insertAll_cons, hl]
    cases written q (.named record) l.state.session with
    | error e => exact ⟨rfl, hi⟩
    | ok w => exact ih hi hq _ _

theorem run_insertMany {l : Logged (Registry σ)} (hq : l.state.chosen .insert name = .ok q)
    (records : List Record) :
    (insertMany name records).run.run l =
      let p := (unit () (Op.traced (insertAll q none 0 records))).run (l.noting (batchStart l name))
      (p.1.result.map (·.1), p.2.noting (batchEnd l p.1.result)) := by
  have hb : (insertMany name records).run.run l =
      let p := (tracedBatch () name fun q => Op.traced (insertAll q none 0 records)).run l
      (p.1.result, p.2) := rfl
  rw [hb, run_tracedBatch, hq]

theorem run_transaction {α : Type} (body : Op (Registry σ) α) (l : Logged (Registry σ)) :
    (transaction body).run.run l =
      let p := (unit () (Op.traced body)).run (l.noting (transactionStart l))
      let r := p.1.result.mapError Error.wrap
      (r, p.2.noting (transactionEnd l r)) := by
  have hb : (transaction body).run.run l =
      let p := (tracedTransaction () (Op.traced body)).run l
      (p.1.result, p.2) := rfl
  rw [hb, run_tracedTransaction]

/-- A batch leaves what a transaction of single insertions leaves, and its errors are not
wrapped. -/
theorem insertMany_eq_transaction [Transactional σ] {l : Logged (Registry σ)}
    (hq : l.state.chosen .insert name = .ok q) (records : List Record) :
    let b := (insertMany name records).run.run l
    let t := (transaction (insertEach name none records)).run.run l
    t.1 = b.1.mapError Error.wrap ∧ t.2.state = b.2.state := by
  intro b t
  have hl : (l.noting (transactionStart l)).state = (l.noting (batchStart l name)).state := rfl
  obtain ⟨hr, hs⟩ := run_unit_map Prod.fst () () (Op.traced (insertAll q none 0 records))
    (Op.traced (insertEach name none records)) hl fun m m' hm hk =>
      run_insertEach hm ((chosen_of_queries hk .insert name).trans hq) none 0 records
  simp only [b, t, run_insertMany hq, run_transaction, Logged.state_noting]
  exact ⟨congrArg (·.mapError Error.wrap) hr, hs⟩

/-! ### Joined batches -/

/-- What a batch amounts to inside another unit of work, if it returns and leaves `b`. -/
structure JoinedBatch (name : String) (records : List Record) (l : Logged (Registry σ))
    (b : Except Error (Option Int64) × Logged (Registry σ)) : Prop where
  decided : (∃ ids r, Inserted name l.state records ids r) ∨ ∃ e r, Stopped name l.state records e r
  /-- If all records can be inserted, they are, and nothing else is done. -/
  inserted : ∀ ids r, Inserted name l.state records ids r → b.1 = .ok ids.getLast? ∧ b.2.state = r
  /-- If an insertion fails, nothing is done after it but to mark the outermost unit. -/
  stopped : ∀ e r, Stopped name l.state records e r →
    b.1 = .error e ∧ b.2.state = { r with rollbackOnly := true }
  /-- An outermost unit fails if a batch inside of it has, whatever is done with the error and
  whatever its body does next. -/
  marks : ∀ e, b.1 = .error e → ∀ {τ α : Type} (skipped : τ)
    (body : Action (Registry σ) (Outcome τ α)) (k : Logged (Registry σ)), k.state.depth = 0 →
    Within b.2.state (body.run { k with state := k.state.begun }).2.state →
    ∃ e', ((unit skipped body).run k).1.result = .error e'

section

variable {l : Logged (Registry σ)} (hd : 0 < l.state.depth)
  (hq : l.state.chosen .insert name = .ok q)
include hd hq

/-- A batch inside another unit is its body, one unit deeper, and a mark. -/
theorem run_insertMany_of_pos (records : List Record) :
    let b := (insertMany name records).run.run l
    let p := (insertAll q none 0 records).run.run (l.noting (batchStart l name)).deeper
    b.1 = p.1.map (·.1) ∧ b.2.state = (p.2.shallower.marked (!p.1.isOk)).state := by
  have hn : 0 < (l.noting (batchStart l name)).state.depth := hd
  rw [run_insertMany hq, run_unit_of_pos hn, run_joined]
  exact ⟨rfl, rfl⟩

theorem joined_inserted {ids : List Int64} {r : Registry σ}
    (h : Inserted name l.state records ids r) :
    ((insertMany name records).run.run l).1 = .ok ids.getLast? ∧
      ((insertMany name records).run.run l).2.state = r := by
  obtain ⟨hr, hs⟩ := run_insertMany_of_pos hd hq records
  have hl : (l.noting (batchStart l name)).deeper.state.session = l.state.session := rfl
  obtain ⟨m, hm, hp⟩ := h.run_insertAll hq hl none 0
  rw [hr, hs, hp, h.eq hq]
  refine ⟨?_, ?_⟩
  · cases ids.getLast? <;> rfl
  · change (m.shallower.marked false).state = _
    rw [Logged.marked_false, Logged.shallower, hm]
    rfl

theorem joined_stopped {e : Error} {r : Registry σ} (h : Stopped name l.state records e r) :
    ((insertMany name records).run.run l).1 = .error e ∧
      ((insertMany name records).run.run l).2.state = { r with rollbackOnly := true } := by
  obtain ⟨hr, hs⟩ := run_insertMany_of_pos hd hq records
  have hl : (l.noting (batchStart l name)).deeper.state.session = l.state.session := rfl
  obtain ⟨m, hm, hp⟩ := h.run_insertAll hq hl none 0
  rw [hr, hs, hp, h.eq hq]
  refine ⟨rfl, ?_⟩
  change (m.shallower.marked true).state = _
  rw [Logged.marked, Logged.shallower, hm, Bool.or_true]
  rfl

end

/-! ### Outermost batches -/

/-- What a batch amounts to that is an outermost unit of work, if it returns and leaves `b`. -/
structure OutermostBatch [Transactional σ] (name : String) (records : List Record)
    (l : Logged (Registry σ)) (b : Except Error (Option Int64) × Logged (Registry σ)) : Prop where
  /-- Nothing is done if the engine has a transaction of its own open. -/
  refused : isAutocommit l.state.session = false →
    b.1 = .error (.ofFault "begin" .nestedTransaction) ∧ b.2.state = l.state
  decided : (∃ ids r, Inserted name l.state.begun records ids r) ∨
    ∃ e r, Stopped name l.state.begun records e r
  /-- If all records can be inserted and the engine commits, they are kept. -/
  committed : isAutocommit l.state.session = true → ∀ ids r,
    Inserted name l.state.begun records ids r → (Engine.control r.session .commit).2 = none →
      b.1 = .ok ids.getLast? ∧
        b.2.state =
          { l.state with session := (Engine.control r.session .commit).1, rollbackOnly := false } ∧
        database b.2.state.session = database r.session
  /-- If the engine does not commit, its fault is the error of the batch. -/
  uncommitted : isAutocommit l.state.session = true → ∀ ids r f,
    Inserted name l.state.begun records ids r → (Engine.control r.session .commit).2 = some f →
      b.1 = .error (.ofFault "commit" f)
  /-- If an insertion fails, nothing is done after it but to roll back. -/
  stopped : isAutocommit l.state.session = true → ∀ e r,
    Stopped name l.state.begun records e r →
      b.1 = .error e ∧
        b.2.state =
          { l.state with session := (Engine.control r.session .rollback).1, rollbackOnly := false }
  /-- Whatever fails, the database is what it was, as long as a journal is kept. -/
  restored : undoesTransactions l.state.session = true → ∀ e, b.1 = .error e →
    database b.2.state.session = database l.state.session

/-- The state in which the body of an outermost batch starts. -/
def batchBody (l : Logged (Registry σ)) (name : String) : Logged (Registry σ) :=
  { l.noting (batchStart l name) with state := l.state.begun }

section

variable {l : Logged (Registry σ)} (hd : l.state.depth = 0)
  (hq : l.state.chosen .insert name = .ok q)
include hd hq

/-- An outermost batch does nothing while the engine has a transaction of its own open. -/
theorem outermost_refused [Transactional σ] (ha : isAutocommit l.state.session = false)
    (records : List Record) :
    ((insertMany name records).run.run l).1 = .error (.ofFault "begin" .nestedTransaction) ∧
      ((insertMany name records).run.run l).2.state = l.state := by
  have hn : (l.noting (batchStart l name)).state.depth = 0 := hd
  have hb : isAutocommit (l.noting (batchStart l name)).state.session = false := ha
  rw [run_insertMany hq, run_unit_of_zero hn, run_outermost_of_open hb]
  exact ⟨rfl, rfl⟩

variable [Transactional σ] (ha : isAutocommit l.state.session = true)
include ha

/-- An outermost batch is its body, in a transaction that has begun, and the end of a unit. -/
theorem run_insertMany_of_zero (records : List Record) :
    let b := (insertMany name records).run.run l
    let p := (insertAll q none 0 records).run.run (batchBody l name)
    b.1 = (p.2.shallower.state.verdict p.1).map (·.1) ∧
      b.2.state = p.2.shallower.state.concluded (!p.1.isOk) ∧
      database b.2.state.session =
        match p.2.shallower.state.verdict p.1 with
        | .ok _ => database p.2.state.session
        | .error _ => abandoned p.2.state.session := by
  have hn : (l.noting (batchStart l name)).state.depth = 0 := hd
  have hb : isAutocommit (l.noting (batchStart l name)).state.session = true := ha
  intro b p
  have hr : b.1 = (((settle p.1).run p.2.shallower).1).map (·.1) ∧
      b.2.state = ((settle p.1).run p.2.shallower).2.state := by
    simp only [b, run_insertMany hq, run_unit_of_zero hn, run_outermost hb, Logged.state_noting]
    exact ⟨rfl, rfl⟩
  rw [hr.1, hr.2, fst_run_settle, database_run_settle]
  refine ⟨rfl, state_run_settle _ _, ?_⟩
  cases p.2.shallower.state.verdict p.1 <;> rfl

/-- What an outermost batch returns and leaves whose body has come to a result in a registry. -/
theorem outermost_of_body {x : Except Error (Option Int64 × Nat)} {r : Registry σ}
    (hr : r = { l.state.begun with session := r.session })
    (hx : ∃ m : Logged (Registry σ), m.state = { l.state.begun with session := r.session } ∧
      (insertAll q none 0 records).run.run (batchBody l name) = (x, m)) :
    let b := (insertMany name records).run.run l
    b.1 = (r.verdict x).map (·.1) ∧
      b.2.state =
        { l.state with session := (r.concluded (!x.isOk)).session, rollbackOnly := false } ∧
      (∀ v, b.1 = .ok v → database b.2.state.session = database r.session) ∧
      ∀ e, b.1 = .error e → database b.2.state.session = abandoned r.session := by
  obtain ⟨hb, hs, hd⟩ := run_insertMany_of_zero hd hq ha records
  obtain ⟨m, hm, hp⟩ := hx
  rw [← hr] at hm
  rw [hp] at hb hs hd
  dsimp only at hb hs hd
  have hv : m.shallower.state.verdict x = r.verdict x := by
    rw [Logged.shallower, hm]
    rfl
  rw [hv] at hb hd
  rw [hm] at hd
  refine ⟨hb, ?_, fun v hk => ?_, fun e he => ?_⟩
  · rw [hs, Logged.shallower, hm, hr]
    rfl
  · rw [hd]
    cases hx : r.verdict x with
    | ok a => rfl
    | error e =>
      rw [hb, hx] at hk
      cases hk
  · rw [hd]
    cases hx : r.verdict x with
    | error e => rfl
    | ok a =>
      rw [hb, hx] at he
      cases he

theorem outermost_inserted {ids : List Int64} {r : Registry σ}
    (h : Inserted name l.state.begun records ids r) :
    let b := (insertMany name records).run.run l
    b.1 = r.verdict (.ok ids.getLast?) ∧
      b.2.state = { l.state with session := (r.concluded false).session, rollbackOnly := false } ∧
      (∀ v, b.1 = .ok v → database b.2.state.session = database r.session) ∧
      ∀ e, b.1 = .error e → database b.2.state.session = abandoned r.session := by
  have hk : l.state.begun.chosen .insert name = .ok q := hq
  have hl : (batchBody l name).state.session = l.state.begun.session := rfl
  have hb := outermost_of_body hd hq ha (h.eq hk) (h.run_insertAll hk hl none 0)
  rwa [← verdict_map, Option.or_none] at hb

theorem outermost_stopped {e : Error} {r : Registry σ}
    (h : Stopped name l.state.begun records e r) :
    let b := (insertMany name records).run.run l
    b.1 = .error e ∧
      b.2.state =
        { l.state with session := (Engine.control r.session .rollback).1, rollbackOnly := false } ∧
      database b.2.state.session = abandoned r.session := by
  have hk : l.state.begun.chosen .insert name = .ok q := hq
  have hl : (batchBody l name).state.session = l.state.begun.session := rfl
  obtain ⟨hb, hs, -, he⟩ := outermost_of_body hd hq ha (h.eq hk) (h.run_insertAll hk hl none 0)
  exact ⟨hb, hs, he e hb⟩

omit [Transactional σ] hd ha in
/-- An outermost unit whose body has inserted records is not marked. -/
theorem Inserted.unmarked {ids : List Int64} {r : Registry σ}
    (h : Inserted name l.state.begun records ids r) : r.rollbackOnly = false := by
  have hk : l.state.begun.chosen .insert name = .ok q := hq
  rw [h.eq hk]
  rfl

end

/-- An outermost batch that fails leaves the database as it was, if the engine can undo a
transaction: it has inserted no record, or gives up what it has inserted. -/
theorem outermost_restored {l : Logged Registry} (hs : l.state.session.Sound)
    (hd : l.state.depth = 0) (hq : l.state.chosen .insert name = .ok q)
    (ha : isAutocommit l.state.session = true) (hu : undoesTransactions l.state.session = true)
    {e : Error} (he : ((insertMany name records).run.run l).1 = .error e) :
    database ((insertMany name records).run.run l).2.state.session = database l.state.session := by
  have hk : l.state.begun.chosen .insert name = .ok q := hq
  -- From the beginning on, the transaction can be undone as far as the text of `q` goes.
  have hb := Sql.Session.undoable_begin hs ha hu (Text.trimmed q.sql)
  rcases inserted_or_stopped hk records with ⟨ids, r, h⟩ | ⟨e', r, h⟩
  · obtain ⟨-, -, -, hd⟩ := outermost_inserted hd hq ha h
    rw [hd e he]
    exact (h.undoable hk hb).abandoned
  · obtain ⟨-, -, hd⟩ := outermost_stopped hd hq ha h
    rw [hd]
    exact h.abandoned hk hb

/-! ### The law -/

theorem joinedBatch [Transactional σ] {l : Logged (Registry σ)} (hd : 0 < l.state.depth)
    (hq : l.state.chosen .insert name = .ok q) (records : List Record) :
    JoinedBatch name records l ((insertMany name records).run.run l) where
  decided := inserted_or_stopped hq records
  inserted _ _ h := joined_inserted hd hq h
  stopped _ _ h := joined_stopped hd hq h
  marks e he τ α skipped body k hk hw := by
    have hm : ∃ r : Registry σ, ((insertMany name records).run.run l).2.state =
        { r with rollbackOnly := true } ∧ r.depth = l.state.depth := by
      rcases inserted_or_stopped hq records with ⟨ids, r, h⟩ | ⟨e', r, h⟩
      · rw [(joined_inserted hd hq h).1] at he
        cases he
      · refine ⟨r, (joined_stopped hd hq h).2, ?_⟩
        rw [h.eq hq]
    obtain ⟨r, hs, hr⟩ := hm
    refine unit_fails_of_marked ?_ ?_ skipped body hk hw
    · rw [hs]
      exact hr ▸ hd
    · rw [hs]

theorem outermostBatch {l : Logged Registry} (hs : l.state.session.Sound) (hd : l.state.depth = 0)
    (hq : l.state.chosen .insert name = .ok q) (records : List Record) :
    OutermostBatch name records l ((insertMany name records).run.run l) where
  refused ha := outermost_refused hd hq ha records
  decided := by
    have hk : l.state.begun.chosen .insert name = .ok q := hq
    exact inserted_or_stopped hk records
  committed ha ids r h hc := by
    obtain ⟨hb, hs, hk, -⟩ := outermost_inserted hd hq ha h
    have hm := h.unmarked hq
    have hv : r.verdict (.ok ids.getLast?) = .ok ids.getLast? := by
      rw [verdict, hm, hc]
      rfl
    rw [hv] at hb
    rw [session_concluded hm hc] at hs
    exact ⟨hb, hs, hk _ hb⟩
  uncommitted ha ids r f h hc := by
    obtain ⟨hb, -⟩ := outermost_inserted hd hq ha h
    rw [hb, verdict, h.unmarked hq, hc]
    rfl
  stopped ha e r h := by
    obtain ⟨hb, hs, -⟩ := outermost_stopped hd hq ha h
    exact ⟨hb, hs⟩
  restored hu e he := by
    cases ha : l.state.session.connection.isAutocommit with
    | false => rw [(outermost_refused hd hq ha records).2]
    | true => exact outermost_restored hs hd hq ha hu he

/-- **A batch of a reachable registry does what the transaction does that inserts its records one by
one.** It returns the rowid of the last record, or the error of the first insertion that fails, as
it is; a transaction would have wrapped it. Inside another unit of work it begins and ends no
transaction of its own, and its failure is the failure of the outermost unit. An outermost batch
that fails leaves the database as it was, if a journal was kept when it began. -/
theorem batch_law {l : Logged Registry} (hr : Reachable l.state)
    (hq : l.state.chosen .insert name = .ok q) (records : List Record) :
    let b := (insertMany name records).run.run l
    let t := (transaction (insertEach name none records)).run.run l
    t.1 = b.1.mapError Error.wrap ∧ t.2.state = b.2.state ∧
      (0 < l.state.depth → JoinedBatch name records l b) ∧
      (l.state.depth = 0 → OutermostBatch name records l b) := by
  intro b t
  obtain ⟨h, hs⟩ := insertMany_eq_transaction hq records
  exact ⟨h, hs, fun hd => joinedBatch hd hq records,
    fun hd => outermostBatch hr.sound hd hq records⟩

/-- A registry in memory with a table that may not hold a code twice, and statements that add codes
and that switch the journal off. -/
def uniqueCodes : Logged Registry :=
  memoryWith "create table t (c unique)" <|
    "-- :name add :insert\ninsert into t values (:c)\n" ++
    "-- :name reset :insert\ninsert or rollback into t values (:c)\n" ++
    "-- :name off :one\npragma journal_mode = off\n"

/-- The query that adds a code, and ends the transaction of the engine if it cannot. -/
def resetting : Query := ⟨"reset", "insert or rollback into t values (:c)\n", 3, .insert⟩

/-- A batch of a code twice fails, also once the journal has been switched off. -/
theorem run_uniqueCodes :
    (uniqueCodes.state.query? "reset" = some resetting ∧
      ((insertMany "reset" [code 1, code 1]).run.run uniqueCodes).1.isOk = false ∧
      uniqueCodes.state.depth = 0 ∧
      uniqueCodes.state.session.connection.undoesTransactions = true) ∧
    let l := ((call "off" .none).run.run uniqueCodes).2
    let b := (insertMany "add" [code 1, code 1]).run.run l
    l.state.depth = 0 ∧ (l.state.chosen .insert "add").isOk = true ∧
      b.1.isOk = false ∧
      (l.state.session.connection.database.find? "t").map (·.rows) = some [] ∧
      (b.2.state.session.connection.database.find? "t").map (·.rows) =
        some [⟨1, [.integer 1]⟩] := by
  decide +kernel

theorem reachable_uniqueCodes : Reachable uniqueCodes.state := by
  obtain ⟨⟨hq, -⟩, -⟩ := run_uniqueCodes
  exact reachable_memoryWith _ (isOk_of_query? hq)

/-- A batch that fails in its second record, where the statement ends the transaction of the engine,
leaves no record behind. -/
theorem batch_law_unique :
    ((insertMany "reset" [code 1, code 1]).run.run uniqueCodes).1.isOk = false ∧
      ((insertMany "reset" [code 1, code 1]).run.run
          uniqueCodes).2.state.session.connection.database =
        uniqueCodes.state.session.connection.database := by
  obtain ⟨⟨hq, hf, hd, hu⟩, -⟩ := run_uniqueCodes
  refine ⟨hf, ?_⟩
  obtain ⟨e, he⟩ := exists_of_not_isOk hf
  have hc : uniqueCodes.state.chosen .insert "reset" = .ok resetting := by
    rw [chosen, found, hq]
    rfl
  obtain ⟨-, -, -, ho⟩ := batch_law reachable_uniqueCodes hc [code 1, code 1]
  exact (ho hd).restored hu e he

/-- **A batch may fail and leave a record behind.** Once the journal has been switched off, a
database in memory cannot be brought back: the first record of the batch is there although the
second one has made it fail. -/
theorem unjournaled_batch_is_kept :
    let l := ((call "off" .none).run.run uniqueCodes).2
    let b := (insertMany "add" [code 1, code 1]).run.run l
    Reachable l.state ∧ l.state.depth = 0 ∧ (l.state.chosen .insert "add").isOk = true ∧
      b.1.isOk = false ∧
      (l.state.session.connection.database.find? "t").map (·.rows) = some [] ∧
      (b.2.state.session.connection.database.find? "t").map (·.rows) =
        some [⟨1, [.integer 1]⟩] :=
  ⟨reachable_uniqueCodes.move (move_call "off" .none uniqueCodes), run_uniqueCodes.2⟩

end Registry

end NamedSql
