import NamedSql.Proofs.Registry.Executed
import NamedSql.Registry.Loading

/-!
# Atomicity

What an outermost transaction returns, and what it leaves in the database. Its closure is a script
of any depth, in which every error is propagated or swallowed.

## Scope

An outermost unit hands the beginning and the end of its transaction to the engine, and counts its
own depth. A statement of the closure may end the transaction of the engine without the registry
taking notice, so the outcome law supposes that no statement does. Whether a rollback brings the
database back is up to the journal of the engine. Nothing is supposed of the engine but that it
keeps to the laws of `Transactional`.

## Main definitions

* `Registry.ending` — the engine when the closure returns

## Main results

* `Registry.transaction_outcome` — when a transaction succeeds, and what it leaves
* `Registry.database_failed_transaction` — what a transaction that fails leaves, whatever the
  statements of its closure are
-/

namespace NamedSql

open Transactional (abandoned database isAutocommit origin undoesTransactions)

namespace Registry

variable {σ α : Type} [Engine σ]

/-- The engine when the closure of an outermost transaction returns: what was there, in a
transaction, after every statement that the closure executes. -/
def ending (body : Script) (l : Logged (Registry σ)) : σ :=
  Engine.after (bodyStart l).state.session (body.executed (bodyStart l))

/-- The closure of an outermost transaction leaves its statements and the marks of its failed units
behind. -/
theorem state_run_closure (body : Script) (finish : List Answer → Except Error α)
    (l : Logged (Registry σ)) :
    ((body.closure finish).run (bodyStart l)).2.state =
      (bodyStart l).state.went (body.executed (bodyStart l))
        (Answer.anyFailedUnit ((body.closure finish).run (bodyStart l)).1.trace) :=
  body.state_run (Nat.succ_pos _)

theorem session_run_closure (body : Script) (finish : List Answer → Except Error α)
    (l : Logged (Registry σ)) :
    ((body.closure finish).run (bodyStart l)).2.state.session = ending body l := by
  rw [state_run_closure]
  rfl

theorem rollbackOnly_run_closure (body : Script) (finish : List Answer → Except Error α)
    (l : Logged (Registry σ)) :
    ((body.closure finish).run (bodyStart l)).2.state.rollbackOnly =
      Answer.anyFailedUnit ((body.closure finish).run (bodyStart l)).1.trace := by
  rw [state_run_closure]
  exact Bool.false_or _

theorem mapError_eq_ok_iff {ε δ : Type} {f : ε → δ} {x : Except ε α} {v : α} :
    x.mapError f = .ok v ↔ x = .ok v := by
  cases x with
  | error e => exact ⟨nofun, nofun⟩
  | ok a =>
    constructor
    · rintro ⟨⟩
      rfl
    · rintro ⟨⟩
      rfl

/-! ### The outcome law -/

section

variable [Transactional σ] {l : Logged (Registry σ)} (hd : l.state.depth = 0)
  (ha : isAutocommit l.state.session = true)
include hd ha

/-- A transaction succeeds exactly if its closure does, no unit inside has failed, and the engine
commits. -/
theorem run_transaction_eq_ok_iff (body : Script) (finish : List Answer → Except Error α) (v : α) :
    ((tracedTransaction [] (body.closure finish)).run l).1.result = .ok v ↔
      ((body.closure finish).run (bodyStart l)).1.result = .ok v ∧
        Answer.anyFailedUnit ((body.closure finish).run (bodyStart l)).1.trace = false ∧
        (Engine.control (ending body l) .commit).2 = none := by
  rw [run_tracedTransaction_of_zero hd ha]
  dsimp only
  rw [mapError_eq_ok_iff, fst_run_settle, verdict_eq_ok_iff, ← rollbackOnly_run_closure,
    ← session_run_closure body finish]
  rfl

/-- A transaction that succeeds keeps what its closure has left, and one that fails gives it up. -/
theorem database_run_transaction (body : Script) (finish : List Answer → Except Error α) :
    database ((tracedTransaction [] (body.closure finish)).run l).2.state.session =
      match ((tracedTransaction [] (body.closure finish)).run l).1.result with
      | .ok _ => database (ending body l)
      | .error _ => abandoned (ending body l) := by
  rw [run_tracedTransaction_of_zero hd ha]
  dsimp only
  rw [Logged.state_noting, database_run_settle, fst_run_settle, ← session_run_closure body finish]
  cases ((body.closure finish).run (bodyStart l)).2.shallower.state.verdict
    ((body.closure finish).run (bodyStart l)).1.result with
  | error e => rfl
  | ok v => rfl

omit hd in
/-- As long as no statement of the closure ends the transaction of the engine, giving it up brings
the database back. -/
theorem abandoned_ending {body : Script}
    (hk : Engine.keepsOpen (bodyStart l).state.session (body.executed (bodyStart l)) = true)
    (hu : undoesTransactions (ending body l) = true) :
    abandoned (ending body l) = database l.state.session := by
  have ho : origin (bodyStart l).state.session =
      some (database l.state.session) := (Transactional.begin_of_isAutocommit ha).2
  exact Transactional.abandoned_of_origin (Engine.origin_after ho hk) hu

end

/-! ### A table of codes

A registry on which the results are tried out, and closures that swallow every failure. -/

/-- A registry in memory. Its table holds the code 1 and may not hold a code twice. -/
def codes : Logged Registry :=
  let session := ((Sql.Session.new .inMemory leastCapacity).runBatch
    "create table t (c unique); insert into t values (1)").1
  let queries : List Query :=
    [⟨"add", "insert into t values (:c)", 1, .insert⟩,
      ⟨"reset", "insert or rollback into t values (:c)", 3, .insert⟩]
  ⟨{ (Registry.new .inMemory false).addQueries queries with session }, "store", []⟩

/-- The record of a code. -/
def code (c : Int64) : Record := ⟨[("c", .integer c)]⟩

/-- A script that swallows every failure. -/
def swallowing (steps : List Step) : Script := steps.foldr (.cons false) .nil

/-- The closure of a transaction in `codes` that swallows every failure and succeeds. -/
def closed (steps : List Step) : Outcome (List Answer) Unit × Logged Registry :=
  ((swallowing steps).closure fun _ => .ok ()).run (bodyStart codes)

/-- A transaction in `codes` whose closure swallows every failure and succeeds. -/
def swallowed (steps : List Step) : Outcome (List Answer) Unit × Logged Registry :=
  (tracedTransaction [] ((swallowing steps).closure fun _ => .ok ())).run codes

theorem eq_ok_of_isOk {r : Except Error Unit} (h : r.isOk = true) : r = .ok () := by
  cases r with
  | error e => cases h
  | ok v => rfl

theorem exists_of_not_isOk {r : Except Error α} (h : r.isOk = false) : ∃ e, r = .error e := by
  cases r with
  | error e => exact ⟨e, rfl⟩
  | ok v => cases h

/-- A code that is there already, and a batch of an unknown name. -/
def harmless : List Step :=
  [.insertOne "add" (code 1), .insertMany "none" .nil,
    .transaction (swallowing [.insertOne "add" (code 2)]) .keep]

/-- A batch that fails in the second of its records, inside a transaction that swallows this. -/
def harmful : List Step :=
  [.insertOne "add" (code 2),
    .transaction (swallowing
      [.insertMany "add" (.cons .nil (code 3) (.cons .nil (code 3) .nil))]) .keep,
    .insertOne "add" (code 4)]

/-- No unit of work is open in the registry of codes, and the batch fails, but no statement ends the
transaction of the engine. -/
theorem undone_harmful :
    (codes.state.depth = 0 ∧ isAutocommit codes.state.session = true) ∧
      Engine.keepsOpen (bodyStart codes).state.session
        ((swallowing harmful).executed (bodyStart codes)) = true ∧
      undoesTransactions (ending (swallowing harmful) codes) = true := by
  decide +kernel

/-- A code that is there already, whose insertion ends the transaction of the engine, and another
code after that. -/
def escaping : List Step := [.insertOne "reset" (code 1), .insertOne "add" (code 2)]

/-- **A transaction succeeds exactly if its closure does, no unit begun inside it has failed,
however deep and whether or not the failure was swallowed, and the engine commits.** Then the
database is what the statements of the closure have made of it, in their order, and otherwise it is
what it was before. The failure of a call or of an insertion on its own, and the refusal of a batch,
are no failures of units. All of this follows from the laws of transactions, whatever the engine. -/
theorem transaction_outcome [Transactional σ] {l : Logged (Registry σ)} (hd : l.state.depth = 0)
    (ha : isAutocommit l.state.session = true) (body : Script)
    (finish : List Answer → Except Error α)
    (hk : Engine.keepsOpen (bodyStart l).state.session (body.executed (bodyStart l)) = true) :
    let closed := ((body.closure finish).run (bodyStart l)).1
    let t := (tracedTransaction [] (body.closure finish)).run l
    (∀ v, t.1.result = .ok v ↔
      closed.result = .ok v ∧ Answer.anyFailedUnit closed.trace = false ∧
        (Engine.control (ending body l) .commit).2 = none) ∧
    (∀ v, t.1.result = .ok v → database t.2.state.session = database (ending body l)) ∧
    (undoesTransactions (ending body l) = true → ∀ e, t.1.result = .error e →
      database t.2.state.session = database l.state.session) ∧
    ((∀ a ∈ closed.trace, a.isUnit = false) → ∀ v, t.1.result = .ok v ↔
      closed.result = .ok v ∧ (Engine.control (ending body l) .commit).2 = none) := by
  intro closed t
  have hi := run_transaction_eq_ok_iff hd ha body finish
  have hb := database_run_transaction hd ha body finish
  refine ⟨hi, fun v hv => ?_, fun hu e he => ?_, fun hn v => ?_⟩
  · rw [hb, hv]
  · rw [hb, he]
    exact abandoned_ending ha hk hu
  · rw [hi, Answer.anyFailedUnit_eq_false hn]
    exact and_congr_right fun _ => ⟨fun h => h.2, fun h => ⟨rfl, h⟩⟩

/-- Swallowed failures of an insertion and of a refused batch do not keep a transaction from being
committed; that of a batch inside an inner transaction undoes everything. -/
theorem transaction_outcome_codes :
    (swallowed harmless).1.result = .ok () ∧ (swallowed harmful).1.result ≠ .ok () ∧
      database (swallowed harmful).2.state.session = database codes.state.session := by
  obtain ⟨ho, hf, hc, hk⟩ :
      (closed harmless).1.result.isOk = true ∧
      Answer.anyFailedUnit (closed harmless).1.trace = false ∧
      (Engine.control (ending (swallowing harmless) codes) .commit).2 = none ∧
      Engine.keepsOpen (bodyStart codes).state.session
        ((swallowing harmless).executed (bodyStart codes)) = true := by
    decide +kernel
  have hf' : Answer.anyFailedUnit (closed harmful).1.trace = true := by
    decide +kernel
  obtain ⟨⟨hd, ha⟩, hk', hu'⟩ := undone_harmful
  obtain ⟨h, -, -, -⟩ := transaction_outcome hd ha (swallowing harmless) (fun _ => .ok ()) hk
  obtain ⟨h', -, hd', -⟩ := transaction_outcome hd ha (swallowing harmful) (fun _ => .ok ()) hk'
  simp only [closed] at ho hf hf'
  simp only [swallowed]
  refine ⟨(h ()).mpr ⟨eq_ok_of_isOk ho, hf, hc⟩, ?_, ?_⟩
  · rw [ne_eq, h', hf']
    exact fun hm => nomatch hm.2.1
  · cases hs : ((tracedTransaction [] ((swallowing harmful).closure fun _ => .ok ())).run
      codes).1.result with
    | error e => exact hd' hu' e hs
    | ok v =>
      rw [h', hf'] at hs
      exact nomatch hs.2.1

/-- **A transaction that fails leaves what the engine returns to when its open transaction is given
up at the end of the closure.** So it leaves the database as it was before if and only if that is
what the engine returns to, as it does if no statement of the closure has ended the transaction of
the engine. Like the outcome law it needs nothing but the laws of transactions. -/
theorem database_failed_transaction [Transactional σ] {l : Logged (Registry σ)}
    (hd : l.state.depth = 0) (ha : isAutocommit l.state.session = true) (body : Script)
    (finish : List Answer → Except Error α) {e : Error}
    (he : ((tracedTransaction [] (body.closure finish)).run l).1.result = .error e) :
    let t := (tracedTransaction [] (body.closure finish)).run l
    database t.2.state.session = abandoned (ending body l) ∧
    (database t.2.state.session = database l.state.session ↔
      abandoned (ending body l) = database l.state.session) ∧
    (Engine.keepsOpen (bodyStart l).state.session (body.executed (bodyStart l)) = true →
      undoesTransactions (ending body l) = true →
      database t.2.state.session = database l.state.session) := by
  intro t
  have hb : database t.2.state.session = abandoned (ending body l) := by
    rw [database_run_transaction hd ha body finish, he]
  refine ⟨hb, by rw [hb], fun hk hu => ?_⟩
  rw [hb, abandoned_ending ha hk hu]

/-- A transaction whose closure ends the transaction of the engine by a swallowed failure fails, and
gives up what was open when the closure returned. -/
theorem database_failed_transaction_codes :
    (∃ e, (swallowed escaping).1.result = .error e) ∧
      database (swallowed escaping).2.state.session =
        abandoned (ending (swallowing escaping) codes) ∧
      (∃ e, (swallowed harmful).1.result = .error e) ∧
      database (swallowed harmful).2.state.session = database codes.state.session := by
  obtain ⟨he, he'⟩ :
      (swallowed escaping).1.result.isOk = false ∧ (swallowed harmful).1.result.isOk = false := by
    decide +kernel
  obtain ⟨⟨hd, ha⟩, hk, hu⟩ := undone_harmful
  obtain ⟨e, he⟩ := exists_of_not_isOk he
  obtain ⟨e', he'⟩ := exists_of_not_isOk he'
  refine ⟨⟨e, he⟩, ?_, ⟨e', he'⟩, ?_⟩
  · simp only [swallowed] at he ⊢
    exact (database_failed_transaction hd ha _ _ he).1
  · simp only [swallowed] at he' ⊢
    exact (database_failed_transaction hd ha _ _ he').2.2 hk hu

/-- **A transaction may fail and leave a change behind.** The failed insertion ends the transaction
of the engine, so the code that is added next is kept at once, and there is nothing to commit when
the closure returns. -/
theorem escaping_insertion_is_kept :
    codes.state.depth = 0 ∧ codes.state.session.connection.isAutocommit = true ∧
      (swallowed escaping).1.result.isOk = false ∧
      ((codes.state.session.connection.database.find? "t").map (·.rows)) =
        some [⟨1, [.integer 1]⟩] ∧
      (((swallowed escaping).2.state.session.connection.database.find? "t").map (·.rows)) =
        some [⟨1, [.integer 1]⟩, ⟨2, [.integer 2]⟩] := by
  decide +kernel

end Registry

end NamedSql
