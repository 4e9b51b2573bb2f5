import Mathlib.Data.List.Chain
import NamedSql.Proofs.Registry.Batches
import NamedSql.Proofs.Sql.Autocommit

/-!
# Quiescence

Between operations a registry is at rest: no unit of work is open, and the mark of failed units is
gone. Inside of a unit its caller sees the depth of the units that are open, and a mark that stays
until the outermost one is over. So nothing of a unit, whichever way it has ended, is left for the
next one to trip over.

## Scope

A caller sees a registry between operations, and from inside the body of a unit: when the body
starts, after every step of it, and whenever a batch is asked for its next record. The number of
open units is counted along the nesting of the bodies, and not read off the registry. Bodies return;
what a panic leaves is not said here.

## Main definitions

* `Operation` — what may be done with a registry from outside
* `Sight` — what a caller sees of a registry
* `Step.seen`, `Script.seen`, `Batch.seen` — what is seen inside of the units of a run
* `Registry.watched` — what is seen in a whole run of operations
* `Registry.Commits` — the body of a unit has come to an end that can be committed
* `Registry.Quiet` — a registry at rest, and what its next unit depends on

## Main results

* `Step.steady`, `Script.steady`, `Batch.steady` — depth and mark inside of an open unit
* `Registry.AtRest.after` — every operation leaves a registry at rest that was at rest
* `Registry.quiescence` — depth, mark and autocommit in every run of operations
-/

namespace NamedSql

open Registry (transactionStart batchStart written)
open Transactional (isAutocommit)

variable {σ : Type}

/-! ### What is seen -/

/-- What a caller sees at a time: a registry, while so many units of work are open. -/
structure Sight (σ : Type := Sql.Session) where
  units : Nat
  registry : Registry σ

namespace Sight

/-- The registry counts the open units, and is marked only while there are any. -/
def Counted (s : Sight σ) : Prop :=
  s.registry.depth = s.units ∧ (s.registry.rollbackOnly = true → 0 < s.units)

/-- A mark that is seen is seen the next time too, unless no unit is open any more. -/
def Keeps (s t : Sight σ) : Prop :=
  s.registry.rollbackOnly = true → 0 < t.units → t.registry.rollbackOnly = true

end Sight

variable [Engine σ] [Transactional σ]

/-- The state in which the body of a unit starts that is announced by an event, if its body runs at
all. -/
def Logged.entered (l : Logged (Registry σ)) (e : Log.Event) : Option (Logged (Registry σ)) :=
  if 0 < l.state.depth then some (l.noting e).deeper
  else if isAutocommit l.state.session then
    some { l.noting e with state := l.state.begun }
  else none

mutual

/-- What is seen inside of the units of a step, while so many units are open around it. -/
def Step.seen (units : Nat) (l : Logged (Registry σ)) : Step → List (Sight σ)
  | .insertMany name batch =>
    match l.state.chosen .insert name with
    | .error _ => []
    | .ok q =>
      match l.entered (batchStart l name) with
      | none => []
      | some m => ⟨units + 1, m.state⟩ :: batch.seen q (units + 1) m
  | .transaction body _ =>
    match l.entered (transactionStart l) with
    | none => []
    | some m => ⟨units + 1, m.state⟩ :: body.seen (units + 1) m
  | _ => []

/-- What is seen in a script: what its steps show, and the registry after each of them, up to the
first decisive one that fails. -/
def Script.seen (units : Nat) (l : Logged (Registry σ)) : Script → List (Sight σ)
  | .nil => []
  | .cons decisive step rest =>
    let p := step.run.run l
    step.seen units l ++ ⟨units, p.2.state⟩ ::
      match if decisive then p.1.error? else none with
      | some _ => []
      | none => rest.seen units p.2

/-- What is seen in a script of which every step is run. -/
def Script.seenAll (units : Nat) (l : Logged (Registry σ)) : Script → List (Sight σ)
  | .nil => []
  | .cons _ step rest =>
    let p := step.run.run l
    step.seen units l ++ ⟨units, p.2.state⟩ :: rest.seenAll units p.2

/-- What is seen in a batch: what the scripts before its records show, and the registry when it is
asked for a record after an insertion. -/
def Batch.seen (q : Query) (units : Nat) (l : Logged (Registry σ)) : Batch → List (Sight σ)
  | .nil => []
  | .cons before record rest =>
    let m := (before.runAll.run l).2
    before.seenAll units l ++
      match written q (.named record) m.state.session with
      | .error _ => []
      | .ok _ =>
        let i := m.invoked ⟨q, .named record⟩
        ⟨units, i.state⟩ :: rest.seen q units i

end

namespace Registry

variable {τ α : Type}

/-- A unit runs its body in the state entered, or fails to begin and does not run it. -/
theorem run_unit_of_entered (l : Logged (Registry σ)) (e : Log.Event) (skipped : τ)
    (body : Action (Registry σ) (Outcome τ α)) :
    match l.entered e with
    | some m => ((unit skipped body).run (l.noting e)).1.trace = (body.run m).1.trace
    | none => (unit skipped body).run (l.noting e) =
        (⟨.error (.ofFault "begin" .nestedTransaction), skipped⟩, l.noting e) := by
  unfold Logged.entered
  by_cases hd : 0 < l.state.depth
  · have hn : 0 < (l.noting e).state.depth := hd
    rw [if_pos hd, run_unit_of_pos hn, run_joined]
  · have hn : (l.noting e).state.depth = 0 := Nat.eq_zero_of_not_pos hd
    rw [if_neg hd, run_unit_of_zero hn]
    cases ha : isAutocommit l.state.session with
    | false =>
      have hc : isAutocommit (l.noting e).state.session = false := ha
      exact run_outermost_of_open hc skipped body
    | true =>
      have hc : isAutocommit (l.noting e).state.session = true := ha
      rw [run_outermost hc]
      rfl

/-! ### Inside of an open unit -/

/-- What is seen on the way from one registry to another, while so many units are open around it:
the units are counted, and no mark is lost. -/
structure Steady (units : Nat) (r r' : Registry σ) (seen : List (Sight σ)) : Prop where
  counted : ∀ s ∈ seen, s.registry.depth = s.units ∧ 0 < s.units
  kept : (⟨units, r⟩ :: (seen ++ [⟨units, r'⟩])).IsChain Sight.Keeps

namespace Steady

omit [Engine σ] [Transactional σ]

variable {units : Nat} {r r' m : Registry σ} {seen rest : List (Sight σ)}

/-- Nothing is seen on the way. Then it is enough that a mark stays where the way ends. -/
theorem nil (h : r.rollbackOnly = true → r'.rollbackOnly = true) : Steady units r r' [] where
  counted _ hs := absurd hs List.not_mem_nil
  kept := List.isChain_pair.mpr fun hr _ => h hr

/-- One way after another, with a look in between, at a registry that counts the units around it. -/
theorem look (h : Steady units r m seen) (hu : 0 < units) (hm : m.depth = units)
    (h' : Steady units m r' rest) : Steady units r r' (seen ++ ⟨units, m⟩ :: rest) where
  counted s hs := by
    rcases List.mem_append.mp hs with hs | hs
    · exact h.counted s hs
    · rcases List.mem_cons.mp hs with rfl | hs
      · exact ⟨hm, hu⟩
      · exact h'.counted s hs
  kept := by
    rw [List.append_assoc, List.cons_append, ← List.cons_append, List.isChain_split]
    exact ⟨h.kept, h'.kept⟩

/-- Where the way ends, a mark may be set in addition. -/
theorem ending (h : Steady units r m seen) (hu : 0 < units)
    (hm : m.rollbackOnly = true → r'.rollbackOnly = true) : Steady units r r' seen where
  counted := h.counted
  kept := by
    have hk := h.kept
    rw [← List.cons_append, List.isChain_append] at hk ⊢
    refine ⟨hk.1, List.isChain_singleton _, fun s hs t ht => ?_⟩
    cases ht
    exact fun hr _ => hm (hk.2.2 s hs _ rfl hr hu)

/-- What is seen inside of a unit is seen on the way around it. -/
theorem around {b : Registry σ} (h : Steady (units + 1) m b seen)
    (hm : r.rollbackOnly = true → m.rollbackOnly = true)
    (hb : b.rollbackOnly = true → r'.rollbackOnly = true) (hd : m.depth = units + 1) :
    Steady units r r' (⟨units + 1, m⟩ :: seen) where
  counted s hs := by
    rcases List.mem_cons.mp hs with rfl | hs
    · exact ⟨hd, Nat.succ_pos units⟩
    · exact h.counted s hs
  kept := by
    have hk := (h.ending (Nat.succ_pos units) hb).kept
    rw [List.cons_append, List.isChain_cons_cons]
    refine ⟨fun hr _ => hm hr, ?_⟩
    rw [← List.cons_append, List.isChain_append] at hk ⊢
    refine ⟨hk.1, List.isChain_singleton _, fun s hs t ht => ?_⟩
    cases ht
    exact fun hr _ => hk.2.2 s hs ⟨units + 1, r'⟩ rfl hr (Nat.succ_pos units)

end Steady

omit [Transactional σ] in
theorem went_rollbackOnly {r : Registry σ} (done : List Invocation) (failed : Bool)
    (h : r.rollbackOnly = true) : (r.went done failed).rollbackOnly = true := by
  rw [went, h]
  rfl

end Registry

open Registry

mutual

/-- **Inside of an open unit, every look at the registry finds the units counted, and a mark that
was there before.** -/
theorem Step.steady : ∀ (s : Step) {l : Logged (Registry σ)} {units : Nat}, 0 < units →
    l.state.depth = units → Steady units l.state (s.run.run l).2.state (s.seen units l)
  | .insertMany name batch, l, units, hu, hl => by
    have hd : 0 < l.state.depth := hl ▸ hu
    rw [Step.run_insertMany hd, Step.seen]
    cases hq : l.state.chosen .insert name with
    | error e => exact .nil id
    | ok q =>
      dsimp only
      rw [Logged.entered, if_pos hd]
      have hm : (l.noting (batchStart l name)).deeper.state.depth = units + 1 :=
        congrArg (· + 1) hl
      have hb := batch.steady q none 0 (Nat.succ_pos units) hm
      exact hb.around id (fun h => Bool.or_eq_true_iff.mpr (Or.inl h)) hm
  | .transaction body finish, l, units, hu, hl => by
    have hd : 0 < l.state.depth := hl ▸ hu
    rw [Step.run_transaction hd, Step.seen, Logged.entered, if_pos hd]
    have hm : (l.noting (transactionStart l)).deeper.state.depth = units + 1 :=
      congrArg (· + 1) hl
    have hb := body.steady (Nat.succ_pos units) hm
    exact hb.around id (fun h => Bool.or_eq_true_iff.mpr (Or.inl h)) hm
  | .names, l, _, hu, hl | .contains _, l, _, hu, hl | .hasFunction _, l, _, hu, hl
  | .query _, l, _, hu, hl => .nil id
  | .call name params, l, units, hu, hl => by
    rw [Step.state_run (.call name params) (hl ▸ hu)]
    exact .nil (went_rollbackOnly _ _)
  | .access a name params, l, units, hu, hl => by
    rw [Step.state_run (.access a name params) (hl ▸ hu)]
    exact .nil (went_rollbackOnly _ _)
  | .insertOne name record, l, units, hu, hl => by
    rw [Step.state_run (.insertOne name record) (hl ▸ hu)]
    exact .nil (went_rollbackOnly _ _)

theorem Script.steady : ∀ (s : Script) {l : Logged (Registry σ)} {units : Nat}, 0 < units →
    l.state.depth = units → Steady units l.state (s.run.run l).2.state (s.seen units l)
  | .nil, l, _, hu, hl => .nil id
  | .cons decisive step rest, l, units, hu, hl => by
    have hs := step.steady hu hl
    have hd : (step.run.run l).2.state.depth = units := by
      rw [step.state_run (hl ▸ hu)]
      exact hl
    rw [Script.run_cons, Script.seen]
    dsimp only
    cases if decisive then (step.run.run l).1.error? else none with
    | some e => exact hs.look hu hd (.nil id)
    | none => exact hs.look hu hd (rest.steady hu hd)

theorem Script.steadyAll : ∀ (s : Script) {l : Logged (Registry σ)} {units : Nat}, 0 < units →
    l.state.depth = units → Steady units l.state (s.runAll.run l).2.state (s.seenAll units l)
  | .nil, l, _, hu, hl => .nil id
  | .cons decisive step rest, l, units, hu, hl => by
    have hs := step.steady hu hl
    have hd : (step.run.run l).2.state.depth = units := by
      rw [step.state_run (hl ▸ hu)]
      exact hl
    rw [Script.runAll_cons, Script.seenAll]
    exact hs.look hu hd (rest.steadyAll hu hd)

theorem Batch.steady : ∀ (b : Batch) (q : Query) (last : Option Int64) (count : Nat)
    {l : Logged (Registry σ)} {units : Nat}, 0 < units → l.state.depth = units →
    Steady units l.state ((b.run q last count).run l).2.state (b.seen q units l)
  | .nil, q, last, count, l, units, hu, hl => .nil id
  | .cons before record rest, q, last, count, l, units, hu, hl => by
    have hp := before.steadyAll hu hl
    have hm : ((before.runAll.run l).2.invoked ⟨q, .named record⟩).state.depth = units := by
      rw [state_invoked, before.state_runAll (hl ▸ hu)]
      exact hl
    have hi : Steady units l.state ((before.runAll.run l).2.invoked ⟨q, .named record⟩).state
        (before.seenAll units l) := hp.ending hu id
    rw [Batch.run_cons, Batch.seen]
    dsimp only
    cases written q (.named record) (before.runAll.run l).2.state.session with
    | error e =>
      dsimp only
      rw [List.append_nil]
      exact hi
    | ok r => exact hi.look hu hm (rest.steady q (some r.lastRowid) (count + 1) hu hm)

end

/-! ### At rest -/

namespace Registry

/-- No unit of work is open, and no mark is left of one. -/
structure AtRest (r : Registry σ) : Prop where
  outside : r.depth = 0
  unmarked : r.rollbackOnly = false

theorem Opened.atRest {r : Registry} (h : Opened r) : AtRest r := by
  obtain ⟨config, files, c, session, -, -, rfl⟩ := h.cases
  exact ⟨rfl, rfl⟩

section

omit [Transactional σ]

theorem AtRest.of_gained {r r' : Registry σ} (h : AtRest r) (hg : Gained r r') : AtRest r' :=
  ⟨hg.units.1.trans h.outside, hg.units.2.trans h.unmarked⟩

theorem AtRest.went {r : Registry σ} (h : AtRest r) (done : List Invocation) :
    AtRest (r.went done false) :=
  ⟨h.outside, (Bool.or_false r.rollbackOnly).trans h.unmarked⟩

theorem isOk_verdict_iff {r : Registry σ} {x : Except Error α} :
    (r.verdict x).isOk = true ↔
      x.isOk = true ∧ r.rollbackOnly = false ∧ (Engine.control r.session .commit).2 = none := by
  constructor
  · intro h
    cases hv : r.verdict x with
    | error e =>
      rw [hv] at h
      cases h
    | ok v =>
      obtain ⟨rfl, hr⟩ := verdict_eq_ok_iff.mp hv
      exact ⟨rfl, hr⟩
  · rintro ⟨hx, hr⟩
    cases x with
    | error e => cases hx
    | ok v =>
      rw [verdict_eq_ok_iff.mpr ⟨rfl, hr⟩]
      rfl

end

/-- Whether an outermost unit is committed or rolled back, and whether or not that succeeds, no
transaction is open when it is over. -/
theorem isAutocommit_concluded (r : Registry σ) (failed : Bool) :
    isAutocommit (r.concluded failed).session = true := by
  rw [concluded]
  dsimp only
  split
  · exact Transactional.isAutocommit_rolledBack _
  · split
    · rename_i s hc
      exact Transactional.isAutocommit_committed hc
    · exact Transactional.isAutocommit_rolledBack _

section Unit

variable {l : Logged (Registry σ)} {skipped : τ} {body : Action (Registry σ) (Outcome τ α)}

/-- A unit leaves a registry at rest that was at rest, in autocommit exactly if it was so before. -/
theorem AtRest.of_unit (h : AtRest l.state)
    (hb : ∀ m : Logged (Registry σ), m.state.depth = 1 → (body.run m).2.state.depth = 1) :
    AtRest ((unit skipped body).run l).2.state ∧
      isAutocommit ((unit skipped body).run l).2.state.session = isAutocommit l.state.session := by
  rw [run_unit_of_zero h.outside]
  cases ha : isAutocommit l.state.session with
  | false =>
    rw [run_outermost_of_open ha]
    exact ⟨h, ha⟩
  | true =>
    have hd := hb { l with state := l.state.begun } (congrArg (· + 1) h.outside)
    rw [run_outermost ha]
    dsimp only
    rw [state_run_settle]
    exact ⟨⟨congrArg (· - 1) hd, rfl⟩, isAutocommit_concluded _ _⟩

end Unit

/-- The body of a unit has come to an end that can be committed: it has succeeded, no unit inside it
has failed, and the engine accepts what was done. -/
structure Commits (p : Outcome (List Answer) α × Logged (Registry σ)) : Prop where
  succeeded : p.1.result.isOk = true
  unfailed : Answer.anyFailedUnit p.1.trace = false
  accepted : (Engine.control p.2.state.session .commit).2 = none

/-- A unit that begins at rest succeeds exactly if its own body can be committed. -/
theorem isOk_unit_iff {l : Logged (Registry σ)} (hd : l.state.depth = 0)
    (ha : isAutocommit l.state.session = true)
    {body : Action (Registry σ) (Outcome (List Answer) α)}
    (hb : (body.run { l with state := l.state.begun }).2.state.rollbackOnly =
      Answer.anyFailedUnit (body.run { l with state := l.state.begun }).1.trace) :
    ((unit [] body).run l).1.result.isOk = true ↔
      Commits (body.run { l with state := l.state.begun }) := by
  rw [run_unit_of_zero hd, run_outermost ha]
  dsimp only
  rw [fst_run_settle, isOk_verdict_iff]
  exact ⟨fun ⟨hx, hr, hc⟩ => ⟨hx, hb ▸ hr, hc⟩, fun ⟨hx, hr, hc⟩ => ⟨hx, hb.trans hr, hc⟩⟩

end Registry

/-! ### Steps at rest -/

/-- Whether a step is a unit of work, and so begins and ends a transaction outside of any other. -/
def Step.isUnit : Step → Bool
  | .insertMany .. | .transaction .. => true
  | _ => false

section

omit [Transactional σ]

/-- A step that is no unit of work executes statements and does nothing else, at any depth. -/
theorem Step.state_run_of_not_isUnit {s : Step} (h : s.isUnit = false) (l : Logged (Registry σ)) :
    (s.run.run l).2.state = l.state.went (s.executed l) false := by
  cases s with
  | insertMany name batch => cases h
  | transaction body finish => cases h
  | names | contains name | hasFunction name | query name => exact (went_nil l.state).symm
  | call name params =>
    exact (congrArg Logged.state (state_run_call name params l)).trans (state_foldl_invoked l _)
  | access a name params =>
    exact (congrArg Logged.state (state_run_access a name params l)).trans (state_foldl_invoked l _)
  | insertOne name record =>
    exact (congrArg Logged.state (state_run_insertOne name record l)).trans
      (state_foldl_invoked l _)

namespace Registry

theorem state_run_closure_of_pos (body : Script) (finish : List Answer → Except Error α)
    {m : Logged (Registry σ)} (h : 0 < m.state.depth) :
    ((body.closure finish).run m).2.state =
      m.state.went (body.executed m)
        (Answer.anyFailedUnit ((body.closure finish).run m).1.trace) :=
  body.state_run h

theorem run_step_transaction (body : Script) (finish : Finish) (l : Logged (Registry σ)) :
    (Step.transaction body finish).run.run l =
      let p := (unit [] (body.closure fun _ => finish.result)).run (l.noting (transactionStart l))
      let r := p.1.result.mapError Error.wrap
      (.transaction r p.1.trace, p.2.noting (transactionEnd l r)) := by
  have hc : (Step.transaction body finish).run.run l =
      let p := (tracedTransaction [] (body.closure fun _ => finish.result)).run l
      (.transaction p.1.result p.1.trace, p.2) := rfl
  rw [hc, run_tracedTransaction]

theorem run_step_insertMany (name : String) (batch : Batch) (l : Logged (Registry σ)) :
    (Step.insertMany name batch).run.run l =
      match l.state.chosen .insert name with
      | .error e => (.insertedMany (.error e) [], l)
      | .ok q =>
        let p := (unit [] (batch.run q none 0)).run (l.noting (batchStart l name))
        (.insertedMany (p.1.result.map (·.1)) p.1.trace, p.2.noting (batchEnd l p.1.result)) := by
  have hc : (Step.insertMany name batch).run.run l =
      let p := (tracedBatch [] name fun q => batch.run q none 0).run l
      (.insertedMany p.1.result p.1.trace, p.2) := rfl
  rw [hc, run_tracedBatch]
  cases l.state.chosen .insert name with
  | error e => rfl
  | ok q => rfl

end Registry

end

namespace Registry

section Steps

variable {l : Logged (Registry σ)} (h : AtRest l.state)
include h

/-- A unit of work leaves a registry at rest, in autocommit exactly if it was so before. -/
theorem AtRest.of_isUnit {s : Step} (hs : s.isUnit = true) :
    AtRest (s.run.run l).2.state ∧
      isAutocommit (s.run.run l).2.state.session = isAutocommit l.state.session := by
  cases s with
  | transaction body finish =>
    rw [run_step_transaction]
    refine AtRest.of_unit (l := l.noting (transactionStart l)) h fun m hm => ?_
    rw [state_run_closure_of_pos body _ (hm ▸ Nat.one_pos)]
    exact hm
  | insertMany name batch =>
    rw [run_step_insertMany]
    cases l.state.chosen .insert name with
    | error e => exact ⟨h, rfl⟩
    | ok q =>
      refine AtRest.of_unit (l := l.noting (batchStart l name)) h fun m hm => ?_
      rw [batch.state_run q none 0 (hm ▸ Nat.one_pos)]
      exact hm
  | _ => cases hs

theorem AtRest.step (s : Step) : AtRest (s.run.run l).2.state := by
  cases hs : s.isUnit with
  | true => exact (h.of_isUnit hs).1
  | false =>
    rw [Step.state_run_of_not_isUnit hs]
    exact h.went _

/-- A transaction that begins at rest succeeds exactly if its own closure can be committed. -/
theorem AtRest.transaction_iff (ha : isAutocommit l.state.session = true)
    (body : Script) (finish : Finish) :
    ((Step.transaction body finish).run.run l).1.error? = none ↔
      Commits ((body.closure fun _ => finish.result).run (bodyStart l)) := by
  have hi : ((unit [] (body.closure fun _ => finish.result)).run
      (l.noting (transactionStart l))).1.result.isOk = true ↔
        Commits ((body.closure fun _ => finish.result).run (bodyStart l)) :=
    isOk_unit_iff (l := l.noting (transactionStart l)) h.outside ha
      (rollbackOnly_run_closure body _ l)
  rw [run_step_transaction, ← hi]
  dsimp only
  cases ((unit [] (body.closure fun _ => finish.result)).run
    (l.noting (transactionStart l))).1.result with
  | error e => exact ⟨nofun, nofun⟩
  | ok v => exact ⟨fun _ => rfl, fun _ => rfl⟩

/-- A batch that begins at rest succeeds exactly if its own insertions can be committed. -/
theorem AtRest.batch_iff (ha : isAutocommit l.state.session = true) {name : String}
    {q : Query} (hq : l.state.chosen .insert name = .ok q) (batch : Batch) :
    ((Step.insertMany name batch).run.run l).1.error? = none ↔
      Commits ((batch.run q none 0).run (batchBody l name)) := by
  have hb : ((batch.run q none 0).run (batchBody l name)).2.state.rollbackOnly =
      Answer.anyFailedUnit ((batch.run q none 0).run (batchBody l name)).1.trace := by
    rw [batch.state_run q none 0 (Nat.succ_pos _)]
    exact Bool.false_or _
  have hi : ((unit [] (batch.run q none 0)).run (l.noting (batchStart l name))).1.result.isOk =
      true ↔ Commits ((batch.run q none 0).run (batchBody l name)) :=
    isOk_unit_iff (l := l.noting (batchStart l name)) h.outside ha hb
  rw [run_step_insertMany, hq, ← hi]
  dsimp only
  cases ((unit [] (batch.run q none 0)).run (l.noting (batchStart l name))).1.result with
  | error e => exact ⟨nofun, nofun⟩
  | ok v => exact ⟨fun _ => rfl, fun _ => rfl⟩

/-- What is seen inside of an outermost unit. -/
theorem AtRest.seen_entered {e : Log.Event} {m : Logged (Registry σ)} {b : Registry σ}
    {seen : List (Sight σ)} (hm : l.entered e = some m)
    (hs : m.state.depth = 1 → Steady 1 m.state b seen) :
    (∀ s ∈ ⟨1, m.state⟩ :: seen, Sight.Counted s) ∧
      (⟨0, l.state⟩ :: ⟨1, m.state⟩ :: seen).IsChain Sight.Keeps := by
  rw [Logged.entered, if_neg (Nat.not_lt.mpr (Nat.le_of_eq h.outside))] at hm
  split at hm
  · cases hm
    have hd : ({ l.noting e with state := l.state.begun } : Logged (Registry σ)).state.depth = 1 :=
      congrArg (· + 1) h.outside
    have ht := hs hd
    have hk := ht.kept
    rw [← List.cons_append, List.isChain_append] at hk
    refine ⟨fun s hs => ?_, List.isChain_cons_cons.mpr ⟨fun hr _ => ?_, hk.1⟩⟩
    · rcases List.mem_cons.mp hs with rfl | hs
      · exact ⟨hd, fun _ => Nat.one_pos⟩
      · exact ⟨(ht.counted s hs).1, fun _ => (ht.counted s hs).2⟩
    · rw [h.unmarked] at hr
      cases hr
  · cases hm

/-- What is seen in a step of a registry at rest: units are counted, and a mark stays as long as its
unit. -/
theorem AtRest.seen_step (s : Step) :
    (∀ x ∈ s.seen 0 l, Sight.Counted x) ∧ (⟨0, l.state⟩ :: s.seen 0 l).IsChain Sight.Keeps := by
  have hn : (∀ x ∈ ([] : List (Sight σ)), Sight.Counted x) ∧
      [⟨0, l.state⟩].IsChain Sight.Keeps :=
    ⟨fun _ hx => absurd hx List.not_mem_nil, List.isChain_singleton _⟩
  cases s with
  | transaction body finish =>
    rw [Step.seen]
    cases he : l.entered (transactionStart l) with
    | none => exact hn
    | some m => exact h.seen_entered he fun hd => body.steady Nat.one_pos hd
  | insertMany name batch =>
    rw [Step.seen]
    cases l.state.chosen .insert name with
    | error e => exact hn
    | ok q =>
      dsimp only
      cases he : l.entered (batchStart l name) with
      | none => exact hn
      | some m => exact h.seen_entered he fun hd => batch.steady q none 0 Nat.one_pos hd
  | _ => exact hn

end Steps

/-! ### Units that do not begin -/

section Unbegun

variable {l : Logged (Registry σ)} (h : AtRest l.state) {f : Sql.Fault}
  (hf : (Engine.control l.state.session .begin).2 = some f)
include h hf

theorem AtRest.entered_of_begin_fails (e : Log.Event) : l.entered e = none := by
  rw [Logged.entered, if_neg (Nat.not_lt.mpr (Nat.le_of_eq h.outside)),
    (Transactional.begin_eq_some_iff.mp hf).1]
  rfl

theorem AtRest.unit_of_begin_fails (e : Log.Event) (skipped : τ)
    (body : Action (Registry σ) (Outcome τ α)) :
    (unit skipped body).run (l.noting e) =
      (⟨.error (.ofFault "begin" f), skipped⟩, l.noting e) := by
  have hu := run_unit_of_entered l e skipped body
  rw [h.entered_of_begin_fails hf e] at hu
  rw [hu, (Transactional.begin_eq_some_iff.mp hf).2]

/-- A transaction that cannot begin does not run its closure and leaves everything as it was. -/
theorem AtRest.transaction_of_begin_fails (body : Script) (finish : Finish) :
    let t := (Step.transaction body finish).run.run l
    t.1 = .transaction (.error (Error.wrap (.ofFault "begin" f))) [] ∧ t.2.state = l.state ∧
      (Step.transaction body finish).seen 0 l = [] := by
  intro t
  have ht : t = (Step.transaction body finish).run.run l := rfl
  rw [run_step_transaction, h.unit_of_begin_fails hf] at ht
  rw [ht, Step.seen, h.entered_of_begin_fails hf]
  exact ⟨rfl, rfl, rfl⟩

/-- A batch that cannot begin asks for no record and leaves everything as it was. -/
theorem AtRest.batch_of_begin_fails {name : String} {q : Query}
    (hq : l.state.chosen .insert name = .ok q) (batch : Batch) :
    let t := (Step.insertMany name batch).run.run l
    t.1 = .insertedMany (.error (.ofFault "begin" f)) [] ∧ t.2.state = l.state ∧
      (Step.insertMany name batch).seen 0 l = [] := by
  intro t
  have ht : t = (Step.insertMany name batch).run.run l := rfl
  rw [run_step_insertMany, hq] at ht
  dsimp only at ht
  rw [h.unit_of_begin_fails hf] at ht
  rw [ht, Step.seen, hq]
  dsimp only
  rw [h.entered_of_begin_fails hf]
  exact ⟨rfl, rfl, rfl⟩

end Unbegun

end Registry

/-! ### Runs of operations -/

/-- What may be done with a registry from outside, between the units of work. -/
inductive Operation where
  | loadText (text : String)
  | loadFile (f : Files) (path : String)
  | registerFunction (name : String) (arity : Int)
      (body : List Value → Except Sql.FunctionFault Value) (complaint : Option Sql.Fault)
  | step (s : Step)

namespace Operation

/-- The state once an operation has been carried out, whether it has failed or not. -/
def after (l : Logged (Registry σ)) : Operation → Logged (Registry σ)
  | .loadText text => ((Registry.loadText text).run.run l).2
  | .loadFile f path => ((Registry.loadFile f path).run.run l).2
  | .registerFunction name arity body complaint =>
    ((Registry.registerFunction name arity body complaint).run.run l).2
  | .step s => (s.run.run l).2

/-- What is seen inside of the units of an operation. Only a step has units of work in it. -/
def seen (l : Logged (Registry σ)) : Operation → List (Sight σ)
  | .step s => s.seen 0 l
  | _ => []

/-- The statements that an operation executes outside of units of work, where each is a transaction
of its own. -/
def loose (l : Logged (Registry σ)) : Operation → List Invocation
  | .step s => if s.isUnit then [] else s.executed l
  | _ => []

omit [Transactional σ] in
theorem move (o : Operation) (l : Logged (Registry σ)) : Move l.state (o.after l).state := by
  cases o with
  | loadText text => exact .loadText text l
  | loadFile f path => exact .loadFile f path l
  | registerFunction name arity body complaint =>
    exact .registerFunction name arity body complaint l
  | step s => exact .step s l

end Operation

namespace Registry

/-- The state once operations have been carried out in order. -/
def later (l : Logged (Registry σ)) (ops : List Operation) : Logged (Registry σ) :=
  ops.foldl Operation.after l

/-- What is seen while operations are carried out in order, between them and inside of them. -/
def watched (l : Logged (Registry σ)) : List Operation → List (Sight σ)
  | [] => [⟨0, l.state⟩]
  | o :: rest => ⟨0, l.state⟩ :: (o.seen l ++ watched (o.after l) rest)

/-- The statements that operations execute outside of units of work, in the order in which they are
executed. -/
def loosely (l : Logged (Registry σ)) : List Operation → List Invocation
  | [] => []
  | o :: rest => o.loose l ++ loosely (o.after l) rest

theorem Reachable.later {l : Logged Registry} (h : Reachable l.state) (ops : List Operation) :
    Reachable (later l ops).state := by
  induction ops generalizing l with
  | nil => exact h
  | cons o rest ih => exact ih (h.move (o.move l))

/-- **Every operation leaves a registry at rest that was at rest.** -/
theorem AtRest.after {l : Logged (Registry σ)} (h : AtRest l.state) (o : Operation) :
    AtRest (o.after l).state := by
  cases o with
  | loadText text => exact h.of_gained (gained_loadText text l)
  | loadFile f path => exact h.of_gained (gained_loadFile f path l)
  | registerFunction name arity body complaint =>
    rcases state_run_registerFunction name arity body complaint l with hr | ⟨f, -, hr⟩
    · rw [Operation.after, hr]
      exact h
    · rw [Operation.after, hr]
      exact ⟨h.outside, h.unmarked⟩
  | step s => exact h.step s

theorem AtRest.later {l : Logged (Registry σ)} (h : AtRest l.state) (ops : List Operation) :
    AtRest (later l ops).state := by
  induction ops generalizing l with
  | nil => exact h
  | cons o rest ih => exact ih (h.after o)

/-! ### Autocommit in a run -/

/-- Statements that do not control transactions keep autocommit, however many there are. -/
theorem isAutocommit_after {s : Sql.Session} (h : s.Sound)
    (ha : s.connection.isAutocommit = true) {done : List Invocation}
    (hc : ∀ i ∈ done, Sql.Session.controls (Text.trimmed i.query.sql) = false) :
    (Engine.after s done).connection.isAutocommit = true := by
  induction done generalizing s with
  | nil => exact ha
  | cons i rest ih =>
    rw [Engine.after_cons]
    exact ih (h.call i.query.sql i.params)
      (h.isAutocommit_call ha (hc i List.mem_cons_self) i.params)
      fun j hj => hc j (List.mem_cons_of_mem i hj)

theorem isAutocommit_of_untouched {r r' : Registry} (h : Untouched r r') :
    r'.session.connection.isAutocommit = r.session.connection.isAutocommit := by
  rw [Sql.Connection.isAutocommit, Sql.Connection.isAutocommit, h.transaction]

/-- An operation keeps autocommit unless it executes, outside of units of work, a statement that
controls transactions. -/
theorem AtRest.isAutocommit_operation {l : Logged Registry} (h : AtRest l.state)
    (hs : l.state.session.Sound) (ha : l.state.session.connection.isAutocommit = true)
    (o : Operation)
    (hc : ∀ i ∈ o.loose l, Sql.Session.controls (Text.trimmed i.query.sql) = false) :
    (o.after l).state.session.connection.isAutocommit = true := by
  cases o with
  | loadText text => exact (isAutocommit_of_untouched (gained_loadText text l).untouched).trans ha
  | loadFile f path =>
    exact (isAutocommit_of_untouched (gained_loadFile f path l).untouched).trans ha
  | registerFunction name arity body complaint =>
    rcases state_run_registerFunction name arity body complaint l with hr | ⟨f, -, hr⟩
    · rw [Operation.after, hr]
      exact ha
    · rw [Operation.after, hr]
      change (l.state.session.connection.addFunction f).isAutocommit = true
      rw [Sql.Connection.addFunction]
      split <;> exact ha
  | step s =>
    rw [Operation.after]
    rw [Operation.loose] at hc
    cases hu : s.isUnit with
    | true => exact (h.of_isUnit hu).2.trans ha
    | false =>
      rw [hu, if_neg Bool.false_ne_true] at hc
      rw [Step.state_run_of_not_isUnit hu]
      exact isAutocommit_after hs ha hc

theorem AtRest.isAutocommit_later {l : Logged Registry} (h : AtRest l.state)
    (hr : Reachable l.state) (ha : l.state.session.connection.isAutocommit = true)
    (ops : List Operation)
    (hc : ∀ i ∈ loosely l ops, Sql.Session.controls (Text.trimmed i.query.sql) = false) :
    (Registry.later l ops).state.session.connection.isAutocommit = true := by
  induction ops generalizing l with
  | nil => exact ha
  | cons o rest ih =>
    have ho := h.isAutocommit_operation hr.sound ha o fun i hi =>
      hc i (List.mem_append_left _ hi)
    exact ih (h.after o) (hr.move (o.move l)) ho fun i hi => hc i (List.mem_append_right _ hi)

/-! ### Sights of a run -/

theorem AtRest.seen_operation {l : Logged (Registry σ)} (h : AtRest l.state) (o : Operation) :
    (∀ x ∈ o.seen l, Sight.Counted x) ∧ (⟨0, l.state⟩ :: o.seen l).IsChain Sight.Keeps := by
  cases o with
  | step s => exact h.seen_step s
  | _ => exact ⟨fun _ hx => absurd hx List.not_mem_nil, List.isChain_singleton _⟩

omit [Engine σ] [Transactional σ] in
theorem AtRest.counted {r : Registry σ} (h : AtRest r) : Sight.Counted ⟨0, r⟩ := by
  refine ⟨h.outside, fun hr => ?_⟩
  rw [h.unmarked] at hr
  cases hr

/-- In every run, units are counted and marks are kept. -/
theorem AtRest.sights {l : Logged (Registry σ)} (h : AtRest l.state) (ops : List Operation) :
    (∀ s ∈ watched l ops, Sight.Counted s) ∧ (watched l ops).IsChain Sight.Keeps := by
  induction ops generalizing l with
  | nil =>
    refine ⟨fun s hs => ?_, List.isChain_singleton _⟩
    rw [List.mem_singleton.mp hs]
    exact h.counted
  | cons o rest ih =>
    obtain ⟨hc, hk⟩ := h.seen_operation o
    obtain ⟨hc', hk'⟩ := ih (h.after o)
    refine ⟨fun s hs => ?_, ?_⟩
    · rcases List.mem_cons.mp hs with rfl | hs
      · exact h.counted
      · rcases List.mem_append.mp hs with hs | hs
        · exact hc s hs
        · exact hc' s hs
    · rw [Registry.watched, ← List.cons_append, List.isChain_append]
      refine ⟨hk, hk', fun _ _ t ht => ?_⟩
      -- Behind an operation the registry is at rest, so there is no mark left to keep.
      have hz : t.units = 0 := by
        cases rest with
        | nil =>
          cases ht
          rfl
        | cons o' rest =>
          cases ht
          rfl
      exact fun _ hu => absurd hu (Nat.not_lt.mpr (Nat.le_of_eq hz))

/-- A registry at rest, and what the next unit of work depends on. -/
structure Quiet (l : Logged (Registry σ)) : Prop where
  atRest : AtRest l.state
  /-- However a unit ends, the registry is at rest again, and in autocommit if it was so before. -/
  returns : ∀ s : Step, s.isUnit = true →
    AtRest (s.run.run l).2.state ∧
      (isAutocommit l.state.session = true → isAutocommit (s.run.run l).2.state.session = true)
  /-- Only what is done inside of a transaction keeps it from being committed. -/
  transaction : isAutocommit l.state.session = true → ∀ body finish,
    (((Step.transaction body finish).run.run l).1.error? = none ↔
      Commits ((body.closure fun _ => finish.result).run (bodyStart l)))
  /-- Only what is done inside of a batch keeps it from being committed. -/
  batch : isAutocommit l.state.session = true → ∀ name q,
    l.state.chosen .insert name = .ok q → ∀ batch,
      (((Step.insertMany name batch).run.run l).1.error? = none ↔
        Commits ((batch.run q none 0).run (batchBody l name)))
  /-- Without autocommit no transaction begins, its closure does not run, and nothing changes. -/
  unbegun : ∀ f, (Engine.control l.state.session .begin).2 = some f → ∀ body finish,
    let t := (Step.transaction body finish).run.run l
    t.1 = .transaction (.error (Error.wrap (.ofFault "begin" f))) [] ∧ t.2.state = l.state ∧
      (Step.transaction body finish).seen 0 l = []
  /-- Without autocommit no batch begins, no record is asked for, and nothing changes. -/
  unbegunBatch : ∀ f, (Engine.control l.state.session .begin).2 = some f → ∀ name q,
    l.state.chosen .insert name = .ok q → ∀ batch,
      let t := (Step.insertMany name batch).run.run l
      t.1 = .insertedMany (.error (.ofFault "begin" f)) [] ∧ t.2.state = l.state ∧
        (Step.insertMany name batch).seen 0 l = []

theorem AtRest.quiet {l : Logged (Registry σ)} (h : AtRest l.state) : Quiet l where
  atRest := h
  returns _ hs := ⟨(h.of_isUnit hs).1, fun ha => (h.of_isUnit hs).2.trans ha⟩
  transaction ha body finish := h.transaction_iff ha body finish
  batch ha _ _ hq batch := h.batch_iff ha hq batch
  unbegun _ hf body finish := h.transaction_of_begin_fails hf body finish
  unbegunBatch _ hf _ _ hq batch := h.batch_of_begin_fails hf hq batch

/-! ### A run in memory -/

/-- A registry in memory that has just been opened, and on which some SQL has run. -/
def inMemory (sql : String) : Logged Registry :=
  match openInMemory sql with
  | .ok r => ⟨r, "store", []⟩
  | .error _ => ⟨.new .inMemory false, "store", []⟩

theorem opened_inMemory {sql : String} (h : (openInMemory sql).isOk = true) :
    Opened (inMemory sql).state := by
  rw [inMemory]
  cases ho : openInMemory sql with
  | error e =>
    rw [ho] at h
    cases h
  | ok r => exact ⟨_, _, ho⟩

/-- A table whose codes may not occur twice, so that an insertion can fail. -/
def distinctSchema : String := "create table t (c unique)"

/-- A batch that fails inside of a transaction, which is rolled back although it swallows the
failure, and a transaction that has nothing to do with it. -/
def failingFirst : List Operation :=
  [.loadText "-- :name add :insert\ninsert into t values (:c)\n",
    .step (.insertOne "add" (code 1)),
    .step (.transaction (swallowing [.insertMany "add" (.cons .nil (code 1) .nil)]) .keep),
    .step (.transaction (swallowing [.insertOne "add" (code 2)]) .keep)]

/-- **Whatever was done with a registry, nothing of a unit of work is left when it is over.** In
every run of operations, every look at the registry, from between the operations or from inside of a
unit, finds the open units counted, and a mark only while there are any; and a mark that was seen is
seen again until the outermost unit is over. Between operations the registry is quiet: no unit is
open, nothing is marked, and the next unit succeeds or fails for reasons of its own. It is in
autocommit too, if it was opened so and no statement that was executed outside of units controls
transactions; what is executed inside of them makes no difference. -/
theorem quiescence {l : Logged Registry} (ho : Opened l.state) (ops : List Operation) :
    (∀ s ∈ watched l ops, s.registry.depth = s.units ∧
      (s.registry.rollbackOnly = true → 0 < s.units)) ∧
    (watched l ops).IsChain (fun s t =>
      s.registry.rollbackOnly = true → 0 < t.units → t.registry.rollbackOnly = true) ∧
    Quiet (later l ops) ∧
    (l.state.session.connection.isAutocommit = true →
      (∀ i ∈ loosely l ops, Sql.Session.controls (Text.trimmed i.query.sql) = false) →
      (later l ops).state.session.connection.isAutocommit = true) := by
  have h := ho.atRest
  obtain ⟨hc, hk⟩ := h.sights ops
  exact ⟨hc, hk, (h.later ops).quiet, fun ha hs => h.isAutocommit_later ho.reachable ha ops hs⟩

/-- The transaction behind one that was rolled back is committed, and leaves autocommit on. -/
theorem quiescence_failingFirst :
    Quiet (later (inMemory distinctSchema) failingFirst) ∧
      (later (inMemory distinctSchema) failingFirst).state.session.connection.isAutocommit = true ∧
      (((later (inMemory distinctSchema) failingFirst).state.session.connection.database.find?
        "t").map (·.rows)) = some [⟨1, [.integer 1]⟩, ⟨2, [.integer 2]⟩] := by
  obtain ⟨ho, ha, hc, hr⟩ :
      (openInMemory distinctSchema).isOk = true ∧
      (inMemory distinctSchema).state.session.connection.isAutocommit = true ∧
      ((loosely (inMemory distinctSchema) failingFirst).all fun i =>
        !Sql.Session.controls (Text.trimmed i.query.sql)) = true ∧
      (((later (inMemory distinctSchema) failingFirst).state.session.connection.database.find?
        "t").map (·.rows)) = some [⟨1, [.integer 1]⟩, ⟨2, [.integer 2]⟩] := by
    decide +kernel
  obtain ⟨-, -, hq, hs⟩ := quiescence (opened_inMemory ho) failingFirst
  refine ⟨hq, hs ha fun i hi => ?_, hr⟩
  exact (Bool.not_eq_true' _).mp (List.all_eq_true.mp hc i hi)

end Registry

end NamedSql
