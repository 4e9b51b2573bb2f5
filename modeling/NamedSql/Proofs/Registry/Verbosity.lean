import NamedSql.Proofs.Registry.Bindings
import NamedSql.Proofs.Registry.Tracing

/-!
# Verbosity

Tracing observes and does not interfere. Whatever is done with a verbose registry can be done with
one that is not verbose: everything that is returned is the same, and so is every state that a
caller sees, from between the operations or from inside of a unit of work. The log is the same but
for the notes on statements, of which there is one for each statement that is attempted, in order.

## Scope

A statement is attempted once a query has been found that may be called so, before its parameters
are bound. What becomes of the attempt makes no difference, and neither does a rollback of the unit
that it stands in. A call that is refused because of its name or its kind attempts nothing. Nothing
is supposed of the engine but that it does the same in the same state, and that its transactions
begin and end by the laws of `Transactional`.

## Main definitions

* `Step.attempted`, `Registry.attempts` — the statements that a step and a run attempt
* `Sight.muted` — what is seen if the registry is not verbose
* `Registry.returned` — what the operations of a run return
* `Registry.Observes` — what verbosity makes of a run

## Main results

* `Step.traces`, `Script.traces`, `Batch.traces` — scripts note the statements that they attempt
* `Step.seen_muted`, `Script.seen_muted`, `Batch.seen_muted` — the same is seen in them
* `Registry.run_open_verbose` — verbosity makes no difference to the opening of a registry
* `Registry.tracing_observes` — tracing observes every run, and does not interfere with it
-/

namespace NamedSql

open Logged (Paired Echoes)
open Registry (Traces invocations transactionStart batchStart written)

variable {σ : Type}

/-- What silent operations do: they return the same, and note no statement. -/
theorem Operation.echoes_of_silent {l m : Logged (Registry σ)} {x : Op (Registry σ) Unit}
    (hx : x.Silent) (h : Paired l m) :
    Reply.result (x.run.run m).1 = Reply.result (x.run.run l).1 ∧
      Echoes l m (x.run.run l).2 (x.run.run m).2 [] :=
  ⟨congrArg Reply.result (hx l m h).result, (hx l m h).echoes⟩

variable [Engine σ]

theorem Step.depth_run {l : Logged (Registry σ)} (h : 0 < l.state.depth) (s : Step) :
    0 < (s.run.run l).2.state.depth := by
  rw [s.state_run h]
  exact h

theorem Script.depth_runAll {l : Logged (Registry σ)} (h : 0 < l.state.depth) (s : Script) :
    0 < (s.runAll.run l).2.state.depth := by
  rw [s.state_runAll h]
  exact h

/-! ### Attempts -/

/-- The statements that a step attempts, wherever it stands: one for a call whose query is found and
may be called so, and in a unit of work, if it begins, those of its body. -/
def Step.attempted [Transactional σ] (l : Logged (Registry σ)) : Step → List Invocation
  | .names | .contains _ | .hasFunction _ | .query _ => []
  | .call name params => invocations (l.state.found name) params
  | .access a name params => invocations (l.state.chosen a name) params
  | .insertOne name record => invocations (l.state.chosen .insert name) (.named record)
  | .insertMany name batch =>
    match l.state.chosen .insert name with
    | .ok q => (l.entered (batchStart l name)).elim [] fun m => batch.executed q m
    | .error _ => []
  | .transaction body _ => (l.entered (transactionStart l)).elim [] fun m => body.executed m

/-- Inside of an open unit what a step attempts is what it executes. -/
theorem Step.attempted_of_pos [Transactional σ] {l : Logged (Registry σ)} (h : 0 < l.state.depth)
    (s : Step) :
    s.attempted l = s.executed l := by
  cases s with
  | insertMany name batch =>
    rw [attempted, executed, Logged.entered, if_pos h]
    cases l.state.chosen .insert name with
    | error e => rfl
    | ok q => rfl
  | transaction body finish =>
    rw [attempted, executed, Logged.entered, if_pos h]
    rfl
  | _ => rfl

mutual

/-- **A step notes the statements that it attempts**, and does the same if it does not note them. -/
theorem Step.traces [Transactional σ] : ∀ (s : Step) {l m : Logged (Registry σ)}, Paired l m →
    Traces s.run l m (s.attempted l)
  | .names, _, _, h | .contains _, _, _, h | .hasFunction _, _, _, h | .query _, _, _, h => by
    rw [Step.run]
    exact Registry.traces_state_bind h rfl (Registry.traces_pure h _)
  | .call name params, _, _, h => by
    rw [Step.run]
    exact (Registry.traces_call h name params).silently fun hp => Registry.traces_pure hp _
  | .access a name params, _, _, h => by
    rw [Step.run]
    exact (Registry.traces_access h a name params).silently fun hp => Registry.traces_pure hp _
  | .insertOne name record, _, _, h => by
    rw [Step.run]
    exact (Registry.traces_insertOne h name record).silently fun hp => Registry.traces_pure hp _
  | .insertMany name batch, l, _, h => by
    rw [Step.run]
    exact (Registry.traces_tracedBatch h [] name fun q _ _ hp hd =>
      batch.traces q none 0 hp (hd ▸ Nat.succ_pos l.state.depth)).silently fun hp =>
        Registry.traces_pure hp _
  | .transaction body finish, l, _, h => by
    rw [Step.run]
    exact (Registry.traces_tracedTransaction h [] fun hp hd =>
      (body.traces hp (hd ▸ Nat.succ_pos l.state.depth)).silently fun hp =>
        Registry.traces_pure hp _).silently fun hp => Registry.traces_pure hp _

theorem Script.traces [Transactional σ] : ∀ (s : Script) {l m : Logged (Registry σ)}, Paired l m →
    0 < l.state.depth → Traces s.run l m (s.executed l)
  | .nil, _, _, h, _ => by
    rw [Script.run]
    exact Registry.traces_pure h _
  | .cons decisive step rest, l, m, h, hd => by
    have hs := step.traces h
    rw [step.attempted_of_pos hd] at hs
    rw [Script.run, Script.executed]
    cases hf : if decisive then (step.run.run l).1.error? else none with
    | some e =>
      refine hs.silently fun hp => ?_
      rw [hf]
      exact Registry.traces_pure hp _
    | none =>
      refine hs.bind fun hp => ?_
      rw [hf]
      exact (rest.traces hp (step.depth_run hd)).silently fun hp => Registry.traces_pure hp _

theorem Script.tracesAll [Transactional σ] : ∀ (s : Script) {l m : Logged (Registry σ)},
    Paired l m → 0 < l.state.depth → Traces s.runAll l m (s.executedAll l)
  | .nil, _, _, h, _ => by
    rw [Script.runAll]
    exact Registry.traces_pure h _
  | .cons decisive step rest, l, m, h, hd => by
    have hs := step.traces h
    rw [step.attempted_of_pos hd] at hs
    rw [Script.runAll, Script.executedAll]
    refine hs.bind fun hp => ?_
    exact (rest.tracesAll hp (step.depth_run hd)).silently fun hp => Registry.traces_pure hp _

theorem Batch.traces [Transactional σ] : ∀ (b : Batch) (q : Query) (last : Option Int64)
    (count : Nat) {l m : Logged (Registry σ)}, Paired l m → 0 < l.state.depth →
    Traces (b.run q last count) l m (b.executed q l)
  | .nil, _, _, _, _, _, h, _ => by
    rw [Batch.run]
    exact Registry.traces_pure h _
  | .cons before record rest, q, last, count, l, m, h, hd => by
    have hb := before.tracesAll h hd
    rw [Batch.run, Batch.executed]
    cases hw : written q (.named record) (before.runAll.run l).2.state.session with
    | error e =>
      refine hb.bind fun hp => (Registry.traces_write hp q (.named record)).silently fun hp => ?_
      rw [Registry.run_write, hw]
      exact Registry.traces_pure hp _
    | ok r =>
      refine hb.bind fun hp => Registry.Traces.bind (Registry.traces_write hp q (.named record))
        fun hp => ?_
      rw [Registry.run_write] at hp ⊢
      rw [hw]
      exact (rest.traces q (some r.lastRowid) (count + 1) hp
        (before.depth_runAll hd)).silently fun hp => Registry.traces_pure hp _

end

/-! ### Sights -/

/-- What is seen once the registry is made silent, and otherwise the same. -/
def Sight.muted (s : Sight σ) : Sight σ := { s with registry := s.registry.muted }

variable [Transactional σ]

mutual

/-- **In a step the same is seen**, but for the verbosity. -/
theorem Step.seen_muted : ∀ (s : Step) (units : Nat) {l m : Logged (Registry σ)}, Paired l m →
    s.seen units m = (s.seen units l).map Sight.muted
  | .names, _, _, _, _ | .contains _, _, _, _, _ | .hasFunction _, _, _, _, _
  | .query _, _, _, _, _ | .call _ _, _, _, _, _ | .access _ _ _, _, _, _, _
  | .insertOne _ _, _, _, _, _ => rfl
  | .insertMany name batch, units, l, m, h => by
    rw [Step.seen, Step.seen, h.chosen]
    cases l.state.chosen .insert name with
    | error e => rfl
    | ok q =>
      dsimp only
      rw [h.batchStart]
      rcases Registry.entered_of_paired h (batchStart l name) with
        ⟨hl, hm⟩ | ⟨l', m', hl, hm, hp, hd⟩
      · rw [hl, hm]
        rfl
      · rw [hl, hm, List.map_cons, ← batch.seen_muted q (units + 1) hp (hd ▸ Nat.succ_pos _),
          Sight.muted, ← hp.state]
  | .transaction body finish, units, l, m, h => by
    rw [Step.seen, Step.seen, h.transactionStart]
    rcases Registry.entered_of_paired h (transactionStart l) with
      ⟨hl, hm⟩ | ⟨l', m', hl, hm, hp, hd⟩
    · rw [hl, hm]
      rfl
    · rw [hl, hm, List.map_cons, ← body.seen_muted (units + 1) hp (hd ▸ Nat.succ_pos _),
        Sight.muted, ← hp.state]

theorem Script.seen_muted : ∀ (s : Script) (units : Nat) {l m : Logged (Registry σ)}, Paired l m →
    0 < l.state.depth → s.seen units m = (s.seen units l).map Sight.muted
  | .nil, _, _, _, _, _ => rfl
  | .cons decisive step rest, units, l, m, h, hd => by
    have ht := step.traces h
    have hp := ht.echoes.toPaired
    rw [Script.seen, Script.seen, ht.result, step.seen_muted units h, List.map_append,
      List.map_cons, Sight.muted, ← hp.state]
    cases if decisive then (step.run.run l).1.error? else none with
    | some e => rfl
    | none => rw [rest.seen_muted units hp (step.depth_run hd)]

theorem Script.seenAll_muted : ∀ (s : Script) (units : Nat) {l m : Logged (Registry σ)},
    Paired l m → 0 < l.state.depth → s.seenAll units m = (s.seenAll units l).map Sight.muted
  | .nil, _, _, _, _, _ => rfl
  | .cons decisive step rest, units, l, m, h, hd => by
    have hp := (step.traces h).echoes.toPaired
    rw [Script.seenAll, Script.seenAll, step.seen_muted units h,
      rest.seenAll_muted units hp (step.depth_run hd), List.map_append, List.map_cons, Sight.muted,
      ← hp.state]

theorem Batch.seen_muted : ∀ (b : Batch) (q : Query) (units : Nat) {l m : Logged (Registry σ)},
    Paired l m → 0 < l.state.depth → b.seen q units m = (b.seen q units l).map Sight.muted
  | .nil, _, _, _, _, _, _ => rfl
  | .cons before record rest, q, units, l, m, h, hd => by
    have hp := (before.tracesAll h hd).echoes.toPaired
    have hi := (hp.echoes_invoked ⟨q, .named record⟩).toPaired
    rw [Batch.seen, Batch.seen, before.seenAll_muted units h hd, hp.session, List.map_append]
    cases written q (.named record) (before.runAll.run l).2.state.session with
    | error e => rfl
    | ok r =>
      dsimp only
      rw [rest.seen_muted q units hi (before.depth_runAll hd), List.map_cons, Sight.muted,
        ← hi.state]

end

/-! ### Runs of operations -/

namespace Operation

/-- The statements that an operation attempts, whether or not they succeed. -/
def attempted (l : Logged (Registry σ)) : Operation → List Invocation
  | .step s => s.attempted l
  | _ => []

/-- **An operation returns the same on a registry that is not verbose**, and notes the statements
that it attempts on one that is. -/
theorem echoes {l m : Logged (Registry σ)} (h : Paired l m) (o : Operation) :
    o.reply m = o.reply l ∧ Echoes l m (o.after l) (o.after m) (o.attempted l) := by
  cases o with
  | loadText text => exact echoes_of_silent (Registry.silent_loadText text) h
  | loadFile f path => exact echoes_of_silent (Registry.silent_loadFile f path) h
  | registerFunction name arity body complaint =>
    exact echoes_of_silent (Registry.silent_registerFunction name arity body complaint) h
  | step s => exact ⟨congrArg Reply.answer (s.traces h).result, (s.traces h).echoes⟩

theorem seen_muted {l m : Logged (Registry σ)} (h : Paired l m) (o : Operation) :
    o.seen m = (o.seen l).map Sight.muted := by
  cases o with
  | step s => exact s.seen_muted 0 h
  | _ => rfl

end Operation

namespace Registry

variable {l m : Logged (Registry σ)}

/-- The statements that a run attempts, in order. -/
def attempts (l : Logged (Registry σ)) : List Operation → List Invocation
  | [] => []
  | o :: rest => o.attempted l ++ attempts (o.after l) rest

/-- What operations return that are carried out in order. -/
def returned (l : Logged (Registry σ)) : List Operation → List Reply
  | [] => []
  | o :: rest => o.reply l :: returned (o.after l) rest

theorem echoes_later (h : Paired l m) (ops : List Operation) :
    Echoes l m (later l ops) (later m ops) (attempts l ops) := by
  induction ops generalizing l m with
  | nil => exact h.echoes
  | cons o rest ih =>
    have he := (o.echoes h).2
    exact he.trans (ih he.toPaired)

theorem returned_of_paired (h : Paired l m) (ops : List Operation) :
    returned m ops = returned l ops := by
  induction ops generalizing l m with
  | nil => rfl
  | cons o rest ih =>
    obtain ⟨hr, he⟩ := o.echoes h
    rw [returned, returned, hr, ih he.toPaired]

theorem watched_of_paired (h : Paired l m) (ops : List Operation) :
    watched m ops = (watched l ops).map Sight.muted := by
  induction ops generalizing l m with
  | nil => rw [watched, watched, h.state]; rfl
  | cons o rest ih =>
    have hp := (o.echoes h).2.toPaired
    rw [watched, watched, ih hp, o.seen_muted h, List.map_cons, List.map_append, Sight.muted,
      ← h.state]

/-! ### Opening -/

/-- The verbosity of a configuration is that of the registry, and does nothing else. -/
theorem connect_verbose (config : Config) (verbose : Bool) :
    connect { config with verbose } =
      (fun r : Registry => { r with verbose }) <$> connect config := by
  unfold connect
  rw [map_bind]
  refine bind_congr fun files => ?_
  rw [map_bind]
  refine bind_congr fun ⟨c, f⟩ => ?_
  simp only [map_bind]
  refine bind_congr fun _ => bind_congr fun _ => bind_congr fun mode => bind_congr fun _ => ?_
  have hs : runSchema { config with verbose } f (new c.configure.1 verbose).session =
      runSchema config f (new c.configure.1 config.verbose).session := rfl
  rw [hs]
  rcases runSchema config f (new c.configure.1 config.verbose).session with ⟨session, e | _⟩
  · rw [map_bind]
    rfl
  · rfl

/-- **Verbosity makes no difference to the opening of a registry**: it fails with the same error or
opens the same registry, and writes the same to the log. -/
theorem run_open_verbose (config : Config) (verbose : Bool) (f : Logged Files) :
    (Registry.open { config with verbose }).run.run f =
      (((Registry.open config).run.run f).1.map fun r => { r with verbose },
        ((Registry.open config).run.run f).2) := by
  have hclosing : ∀ x : Except Error Registry,
      closing f.component "open" (fun _ => []) (x.map fun r => { r with verbose }) =
        closing f.component "open" (fun _ => []) x := by
    intro x
    cases x <;> rfl
  rw [Registry.open, Registry.open, Op.run_bracket, Op.run_bracket, connect_verbose]
  dsimp only
  rw [Op.run_map]
  dsimp only
  rw [hclosing]

theorem verbose_of_open {config : Config} {f : Logged Files} {r : Registry}
    (h : ((Registry.open config).run.run f).1 = .ok r) : r.verbose = config.verbose := by
  obtain ⟨files, c, session, -, -, rfl⟩ := cases_of_open h
  rfl

/-- Opened with one configuration, with or without verbosity, two registries differ in nothing
else. -/
theorem paired_launched {config : Config} {f : Logged Files} {r : Registry}
    (h : ((Registry.open config).run.run f).1 = .ok r) (hv : config.verbose = true) :
    Paired (launched config f r) (launched { config with verbose := false } f r.muted) where
  verbose := (verbose_of_open h).trans hv
  state := rfl
  component := by rw [launched, launched, run_open_verbose]

/-! ### Tracing -/

/-- What becomes of a run of operations on a verbose registry and on one that is not verbose. -/
structure Observes (l m : Logged (Registry σ)) (ops : List Operation) : Prop where
  /-- Every operation returns the same. -/
  answers : returned m ops = returned l ops
  /-- At every time the two registries differ in verbosity only. -/
  sights : watched m ops = (watched l ops).map Sight.muted
  /-- At every time the two databases are the same. -/
  databases : (watched m ops).map (Transactional.database ·.registry.session) =
    (watched l ops).map (Transactional.database ·.registry.session)
  /-- In the end the two registries differ in verbosity only. -/
  state : (later m ops).state = (later l ops).state.muted
  /-- The verbose registry logs what the other one does, and besides that a note on every statement
  that is attempted, in order. -/
  events : ∃ gained, (later l ops).events = l.events ++ gained ∧
    (later m ops).events = m.events ++ Log.silenced gained ∧
    Log.executing gained = (attempts l ops).map Invocation.note

/-- **Tracing observes and does not interfere.** Opened with or without verbosity, registries differ
in nothing else; and on registries that differ in nothing else every run of operations returns the
same and shows the same states, at the end, in between, and inside of all units of work. Without
verbosity the log is that of the verbose registry without the notes on statements. There is one note
for each statement that is attempted, in order: by a call, an accessor, an insertion, or for a
record of a batch, whether or not the attempt succeeds and whether or not it is rolled back. A call
that is refused because of its name or its kind attempts nothing. Behind the opening this holds of
registries on any engine with transactions. -/
theorem tracing_observes :
    (∀ (config : Config) (verbose : Bool) (f : Logged Files),
      (Registry.open { config with verbose }).run.run f =
        (((Registry.open config).run.run f).1.map fun r => { r with verbose },
          ((Registry.open config).run.run f).2)) ∧
    ∀ {σ : Type} [Engine σ] [Transactional σ] (l m : Logged (Registry σ)), Paired l m →
      ∀ ops, Observes l m ops := by
  refine ⟨run_open_verbose, fun l m h ops => ?_⟩
  have hs := watched_of_paired h ops
  have he := echoes_later h ops
  refine ⟨returned_of_paired h ops, hs, ?_, he.state, he.gained⟩
  rw [hs, List.map_map]
  rfl

/-- A verbose registry in memory with a table whose codes may not occur twice. -/
def verboseConfig : Config := { distinctConfig with verbose := true }

/-- An insertion, one that lacks its parameters, a call by an accessor of another kind, and a batch
inside of a transaction that is rolled back because its record is refused. -/
def faltering : List Operation :=
  [.loadText "-- :name add :insert\ninsert into t values (:c)\n",
    .step (.insertOne "add" (code 1)),
    .step (.call "add" .none),
    .step (.access .get "add" .none),
    .step (.transaction (swallowing [.insertMany "add" (.cons .nil (code 1) .nil)]) .keep)]

/-- How many statements a run from the opening of a registry attempts, and how many are noted. -/
def attemptedAndNoted (config : Config) (ops : List Operation) : Option (Nat × Nat) :=
  ((Registry.open config).run.run blank).1.toOption.map fun r =>
    ((attempts (launched config blank r) ops).length,
      (Log.executing (later (launched config blank r) ops).events).length)

/-- Three statements are attempted, and noted by the verbose registry only. -/
theorem tracing_observes_faltering :
    (∃ l m : Logged Registry, Observes l m faltering) ∧
      attemptedAndNoted verboseConfig faltering = some (3, 3) ∧
      attemptedAndNoted { verboseConfig with verbose := false } faltering = some (3, 0) := by
  have ht : attemptedAndNoted verboseConfig faltering = some (3, 3) := by decide +kernel
  have hm : attemptedAndNoted { verboseConfig with verbose := false } faltering = some (3, 0) := by
    decide +kernel
  refine ⟨?_, ht, hm⟩
  cases ho : ((Registry.open verboseConfig).run.run blank).1 with
  | error e =>
    rw [attemptedAndNoted, ho] at ht
    cases ht
  | ok r => exact ⟨_, _, tracing_observes.2 _ _ (paired_launched ho rfl) faltering⟩

end Registry

end NamedSql
