import NamedSql.Proofs.Registry.Bracketing

/-!
# Tracing

A verbose registry notes every statement that it is about to run. Two registries that differ in
nothing but that do the same: an action returns the same on both, leaves them with the same state,
and writes the same to their logs, but for the notes. The notes themselves are those on the
statements that are attempted, in order.

## Scope

The two logs may have begun differently; what is compared is what they gain. Nothing is said here
of which statements a script attempts.

## Main definitions

* `Log.Event.isExecuting` — an event is the note on a statement that is about to run
* `Logged.Paired` — a verbose registry, and the same one that is not verbose
* `Logged.Echoes` — what two such registries have gained in their logs
* `Registry.Traces`, `Op.Silent` — an action does the same on both, and notes certain statements or
  none

## Main results

* `Registry.traces_call`, `Registry.traces_access`, `Registry.traces_insertOne`,
  `Registry.traces_write` — a call notes the statement that it attempts
* `Registry.traces_unit` — a unit of work notes what its body does
* `Registry.silent_loadText`, `Registry.silent_loadFile`, `Registry.silent_registerFunction` —
  nothing else notes a statement
-/

namespace NamedSql

variable {σ τ α β : Type}

/-! ### Notes on statements -/

namespace Log

/-- Whether an event is the note that a statement is about to run. -/
def Event.isExecuting (e : Event) : Bool := e.field? Event.messageKey == some "executing query"

/-- The notes on statements in a log, in the order in which they were written. -/
def executing (events : List Event) : List Event := events.filter Event.isExecuting

/-- A log without the notes on statements, and with everything else in its order. -/
def silenced (events : List Event) : List Event := events.filter (!·.isExecuting)

theorem isExecuting_opStart (component op : String) {first : List (String × FieldValue)}
    (h : first.lookup Event.messageKey = none) :
    (Event.opStart component op first).isExecuting = false := by
  have hf : (Event.opStart component op first).field? Event.messageKey =
      (first.lookup Event.messageKey).map FieldValue.toText := rfl
  rw [Event.isExecuting, hf, h]
  rfl

end Log

theorem isExecuting_closing (component name : String)
    {last : α → List (String × Log.FieldValue)}
    (h : ∀ a, (last a).lookup Log.Event.messageKey = none) (x : Except Error α) :
    (closing component name last x).isExecuting = false := by
  cases x with
  | error e => rfl
  | ok a =>
    have hf : (Log.Event.opEnd component name 0 (last a)).field? Log.Event.messageKey =
        ((last a).lookup Log.Event.messageKey).map Log.FieldValue.toText := rfl
    rw [closing, Log.Event.isExecuting, hf, h]
    rfl

/-! ### Two registries -/

/-- The registry without its verbosity, and otherwise as it is. -/
def Registry.muted (r : Registry σ) : Registry σ := { r with verbose := false }

/-- The note on a statement, with its query and its parameters. -/
def Invocation.note (i : Invocation) : Log.Event := Registry.executingNote i.query i.params

namespace Logged

/-- A verbose registry, and one that differs from it in not being verbose. Their logs may differ. -/
structure Paired (l m : Logged (Registry σ)) : Prop where
  verbose : l.state.verbose = true
  state : m.state = l.state.muted
  component : m.component = l.component

/-- From one pair of registries another one has come, of which the verbose one has gained some
events, among them the notes on certain statements, and the other one the same events without
these notes. -/
structure Echoes (l m l' m' : Logged (Registry σ)) (done : List Invocation) : Prop
    extends Paired l' m' where
  gained : ∃ gained, l'.events = l.events ++ gained ∧ m'.events = m.events ++ Log.silenced gained ∧
    Log.executing gained = done.map Invocation.note

variable {l m l' m' l'' m'' : Logged (Registry σ)} {done rest : List Invocation} {e : Log.Event}

namespace Paired

variable (h : Paired l m)
include h

theorem session : m.state.session = l.state.session := by
  rw [h.state]
  rfl

theorem depth : m.state.depth = l.state.depth := by
  rw [h.state]
  rfl

theorem found (name : String) : m.state.found name = l.state.found name := by
  rw [h.state]
  rfl

theorem chosen (a : Accessor) (name : String) : m.state.chosen a name = l.state.chosen a name := by
  rw [h.state]
  rfl

theorem transactionStart : Registry.transactionStart m = Registry.transactionStart l := by
  rw [Registry.transactionStart, Registry.transactionStart, h.component, h.depth]

theorem batchStart (name : String) : Registry.batchStart m name = Registry.batchStart l name := by
  rw [Registry.batchStart, Registry.batchStart, h.component]

theorem changed {f : Registry σ → Registry σ} (hm : ∀ r : Registry σ, f r.muted = (f r).muted)
    (hv : ∀ r : Registry σ, (f r).verbose = r.verbose) :
    Paired { l with state := f l.state } { m with state := f m.state } where
  verbose := (hv l.state).trans h.verbose
  state := by rw [h.state]; exact hm l.state
  component := h.component

theorem deeper : Paired l.deeper m.deeper :=
  h.changed (f := fun r => { r with depth := r.depth + 1 }) (fun _ => rfl) fun _ => rfl

theorem shallower : Paired l.shallower m.shallower :=
  h.changed (f := fun r => { r with depth := r.depth - 1 }) (fun _ => rfl) fun _ => rfl

/-- The outermost unit begins. -/
theorem begun [Engine σ] :
    Paired { l with state := l.state.begun } { m with state := m.state.begun } :=
  h.changed (f := Registry.begun) (fun _ => rfl) fun _ => rfl

theorem noting (e : Log.Event) : Paired (l.noting e) (m.noting e) :=
  ⟨h.verbose, h.state, h.component⟩

theorem echoes : Echoes l m l m [] where
  toPaired := h
  gained := ⟨[], (List.append_nil _).symm, (List.append_nil _).symm, rfl⟩

/-- An event is logged that is no note on a statement. -/
theorem echoes_noting (he : e.isExecuting = false) :
    Echoes l m (l.noting e) (m.noting e) [] where
  toPaired := h.noting e
  gained := by
    refine ⟨[e], rfl, ?_, ?_⟩
    · rw [Log.silenced, List.filter_cons, he]
      rfl
    · rw [Log.executing, List.filter_cons, he]
      rfl

/-- A statement is executed, and noted before by whichever registry is verbose. -/
theorem echoes_invoked [Engine σ] (i : Invocation) :
    Echoes l m (l.invoked i) (m.invoked i) [i] where
  verbose := h.verbose
  state := by
    simp only [invoked, h.state]
    rfl
  component := h.component
  gained := by
    have hv : m.state.verbose = false := by
      rw [h.state]
      rfl
    refine ⟨[i.note], ?_, ?_, rfl⟩
    · rw [invoked, h.verbose]
      rfl
    · rw [invoked, hv]
      exact (List.append_nil _).symm

end Paired

namespace Echoes

theorem trans (h : Echoes l m l' m' done) (h' : Echoes l' m' l'' m'' rest) :
    Echoes l m l'' m'' (done ++ rest) where
  toPaired := h'.toPaired
  gained := by
    obtain ⟨gained, hl, hm, hn⟩ := h.gained
    obtain ⟨gained', hl', hm', hn'⟩ := h'.gained
    refine ⟨gained ++ gained', by rw [hl', hl, List.append_assoc], ?_, ?_⟩
    · rw [hm', hm, Log.silenced, Log.silenced, Log.silenced, List.filter_append, List.append_assoc]
    · rw [Log.executing, List.filter_append, List.map_append, ← hn, ← hn', Log.executing,
        Log.executing]

/-- What follows without a note on a statement. -/
theorem silently (h : Echoes l m l' m' done) (h' : Echoes l' m' l'' m'' []) :
    Echoes l m l'' m'' done := by
  have ht := h.trans h'
  rwa [List.append_nil] at ht

/-- What is gained depends on the logs alone. -/
theorem congr {k n k' n' : Logged (Registry σ)} (h : Echoes l m l' m' done) (hp : Paired k' n')
    (hk : k.events = l.events) (hn : n.events = m.events) (hk' : k'.events = l'.events)
    (hn' : n'.events = m'.events) : Echoes k n k' n' done where
  toPaired := hp
  gained := by
    rw [hk, hn, hk', hn']
    exact h.gained

end Echoes

end Logged

open Logged (Paired Echoes)
open NamedSql.Action (bracketed)
open Transactional (isAutocommit)

/-! ### Actions -/

namespace Registry

variable {l m : Logged (Registry σ)} {done rest : List Invocation}

/-- On two registries that differ in verbosity the action comes to the same, and the verbose one
notes certain statements. -/
structure Traces (a : Action (Registry σ) α) (l m : Logged (Registry σ)) (done : List Invocation) :
    Prop where
  result : (a.run m).1 = (a.run l).1
  echoes : Echoes l m (a.run l).2 (a.run m).2 done

theorem traces_pure (h : Paired l m) (a : α) : Traces (pure a) l m [] := ⟨rfl, h.echoes⟩

theorem traces_log (h : Paired l m) {e : Log.Event} (he : e.isExecuting = false) :
    Traces (Action.log e) l m [] := ⟨rfl, h.echoes_noting he⟩

theorem traces_change (h : Paired l m) {f : Registry σ → Registry σ}
    (hm : ∀ r : Registry σ, f r.muted = (f r).muted)
    (hv : ∀ r : Registry σ, (f r).verbose = r.verbose) : Traces (Action.change f) l m [] :=
  ⟨rfl, h.echoes.congr (h.changed hm hv) rfl rfl rfl rfl⟩

theorem Traces.bind {a : Action (Registry σ) α} {f : α → Action (Registry σ) β}
    (h : Traces a l m done) (hf : Paired (a.run l).2 (a.run m).2 →
      Traces (f (a.run l).1) (a.run l).2 (a.run m).2 rest) :
    Traces (a >>= f) l m (done ++ rest) := by
  have hn := hf h.echoes.toPaired
  refine ⟨?_, ?_⟩
  · rw [Action.run_bind, Action.run_bind, h.result]
    exact hn.result
  · rw [Action.run_bind, Action.run_bind, h.result]
    exact h.echoes.trans hn.echoes

/-- What follows without a note on a statement. -/
theorem Traces.silently {a : Action (Registry σ) α} {f : α → Action (Registry σ) β}
    (h : Traces a l m done)
    (hf : ∀ {l' m' : Logged (Registry σ)}, Paired l' m' → Traces (f (a.run l).1) l' m' []) :
    Traces (a >>= f) l m done := by
  have ht := h.bind (fun hp => hf hp)
  rwa [List.append_nil] at ht

/-- An action that looks at the state, but not at its verbosity. -/
theorem traces_state_bind (h : Paired l m) {f : Registry σ → Action (Registry σ) β}
    (hf : f l.state.muted = f l.state) (ht : Traces (f l.state) l m done) :
    Traces (Action.state >>= f) l m done := by
  have hr : (Action.state >>= f).run m = (f l.state).run m := by
    rw [← hf, ← h.state]
    rfl
  refine ⟨?_, ?_⟩
  · rw [hr]
    exact ht.result
  · rw [hr]
    exact ht.echoes

/-- What the action does is what another one does. -/
theorem Traces.of_run {a b : Action (Registry σ) α} (h : Traces b l m done) (hl : a.run l = b.run l)
    (hm : a.run m = b.run m) : Traces a l m done := by
  refine ⟨?_, ?_⟩
  · rw [hl, hm]
    exact h.result
  · rw [hl, hm]
    exact h.echoes

theorem Traces.fmap {x : Op (Registry σ) α} (h : Traces x.run l m done) (f : α → β) :
    Traces (f <$> x).run l m done := by
  refine ⟨?_, ?_⟩
  · rw [Op.run_map, Op.run_map, h.result]
  · rw [Op.run_map, Op.run_map]
    exact h.echoes

theorem traces_mark (h : Paired l m) (rollbackOnly : Bool) : Traces (mark rollbackOnly) l m [] :=
  traces_change h (fun _ => rfl) fun _ => rfl

/-- What is done one unit deeper. -/
theorem Traces.deepen {body : Action (Registry σ) α} (hb : Traces body l.deeper m.deeper done) :
    Traces (deepen body) l m done :=
  ⟨hb.result, hb.echoes.congr hb.echoes.shallower rfl rfl rfl rfl⟩

theorem Traces.joined {body : Action (Registry σ) (Outcome τ α)}
    (hb : Traces body l.deeper m.deeper done) : Traces (joined body) l m done := by
  refine hb.deepen.silently fun hp => ?_
  split
  · exact traces_pure hp _
  · exact (traces_mark hp true).silently fun hp => traces_pure hp _

/-- What is done between the events that log its start and its end. -/
theorem Traces.bracketed {body : Action (Registry σ) (Outcome τ α)} (h : Paired l m)
    (name : String) {first : List (String × Log.FieldValue)}
    {last : α → List (String × Log.FieldValue)} (hf : first.lookup Log.Event.messageKey = none)
    (hl : ∀ a, (last a).lookup Log.Event.messageKey = none)
    (hb : Traces body (l.noting (.opStart l.component name first))
      (m.noting (.opStart l.component name first)) done) :
    Traces (bracketed name first last body) l m done := by
  have hs := h.echoes_noting (Log.isExecuting_opStart l.component name hf)
  have he := hb.echoes.echoes_noting (isExecuting_closing l.component name hl
    (body.run (l.noting (.opStart l.component name first))).1.result)
  refine ⟨?_, ?_⟩
  · rw [Action.run_bracketed, Action.run_bracketed, h.component]
    exact hb.result
  · rw [Action.run_bracketed, Action.run_bracketed, h.component]
    dsimp only
    rw [hb.result]
    exact (hs.trans hb.echoes).silently he

/-- A call looks its query up first, and attempts nothing if it finds none that it may call. -/
theorem traces_of_lookup (h : Paired l m) (look : Registry σ → Except Error Query)
    {x : Op (Registry σ) α} {f : Query → Op (Registry σ) α} {params : Params}
    (hrun : ∀ l : Logged (Registry σ), x.run.run l =
      match look l.state with
      | .ok q => (f q).run.run l
      | .error e => (.error e, l))
    (hl : look m.state = look l.state) (hf : ∀ q, Traces (f q).run l m [⟨q, params⟩]) :
    Traces x.run l m (invocations (look l.state) params) := by
  cases hq : look l.state with
  | error e =>
    have hm := hl.trans hq
    refine ⟨by rw [hrun, hrun, hq, hm], ?_⟩
    rw [hrun, hrun, hq, hm]
    exact h.echoes
  | ok q =>
    have hm := hl.trans hq
    exact (hf q).of_run (by rw [hrun, hq]) (by rw [hrun, hm])

/-! ### Calls -/

variable [Engine σ]

theorem traces_invoke (h : Paired l m) (q : Query) (params : Params)
    (read : Sql.Execution → Except Sql.Failure α) :
    Traces (invoke q params read).run l m [⟨q, params⟩] := by
  refine ⟨?_, ?_⟩
  · rw [run_invoke, run_invoke, h.session]
  · rw [run_invoke, run_invoke]
    exact h.echoes_invoked ⟨q, params⟩

theorem traces_write (h : Paired l m) (q : Query) (params : Params) :
    Traces (write q params).run l m [⟨q, params⟩] := by
  refine ⟨?_, ?_⟩
  · rw [run_write, run_write, h.session]
  · rw [run_write, run_write]
    exact h.echoes_invoked ⟨q, params⟩

theorem traces_perform (h : Paired l m) (q : Query) (params : Params) :
    Traces (perform q params).run l m [⟨q, params⟩] := by
  unfold perform
  split
  all_goals first
    | exact (traces_write h q params).fmap _
    | exact (traces_invoke h q params _).fmap _

theorem traces_call (h : Paired l m) (name : String) (params : Params) :
    Traces (call name params).run l m (invocations (l.state.found name) params) := by
  refine traces_of_lookup h (fun r => r.found name) (fun l => ?_) (h.found name)
    fun q => traces_perform h q params
  rw [call, Op.run_bind, run_lookUp]
  cases l.state.found name with
  | error e => rfl
  | ok q => rfl

theorem traces_access (h : Paired l m) (a : Accessor) (name : String) (params : Params) :
    Traces (access a name params).run l m (invocations (l.state.chosen a name) params) :=
  traces_of_lookup h (fun r => r.chosen a name) (run_access a name params)
    (h.chosen a name) fun q => traces_perform h q params

theorem traces_insertOne (h : Paired l m) (name : String) (record : Record) :
    Traces (insertOne name record).run l m
      (invocations (l.state.chosen .insert name) (.named record)) :=
  traces_of_lookup h (fun r => r.chosen .insert name) (run_typed_bind .insert name _)
    (h.chosen .insert name) fun q => (traces_write h q (.named record)).fmap RunResult.lastRowid

/-! ### Units of work -/

theorem traces_control (h : Paired l m) (command : Sql.Control) :
    Traces (control command) l m [] := by
  refine ⟨?_, ?_⟩
  · rw [run_control, run_control, h.session]
  · rw [run_control, run_control, h.session]
    exact h.echoes.congr ⟨h.verbose, by rw [h.state]; rfl, h.component⟩ rfl rfl rfl rfl

theorem traces_rollBack (h : Paired l m) : Traces rollBack l m [] := by
  refine (traces_control h .rollback).silently fun hp => ?_
  split
  · exact traces_log hp rfl
  · exact traces_pure hp _

theorem traces_commit (h : Paired l m) (a : α) : Traces (commit a) l m [] := by
  refine (traces_control h .commit).silently fun hp => ?_
  split
  · exact traces_pure hp _
  · exact (traces_control hp .rollback).silently fun hp => traces_pure hp _

theorem traces_settle (h : Paired l m) (x : Except Error α) : Traces (settle x) l m [] := by
  refine traces_state_bind h rfl ((traces_mark h false).silently fun hp => ?_)
  cases x with
  | error e => exact (traces_rollBack hp).silently fun hp => traces_pure hp _
  | ok a =>
    dsimp only
    split
    · exact (traces_rollBack hp).silently fun hp => traces_pure hp _
    · exact traces_commit hp a

variable [Transactional σ] {body : Action (Registry σ) (Outcome τ α)}

theorem Traces.outermost (h : Paired l m) (ha : isAutocommit l.state.session = true)
    (skipped : τ)
    (hb : Traces body { l with state := l.state.begun } { m with state := m.state.begun } done) :
    Traces (outermost skipped body) l m done := by
  have hbody : Echoes l m _ _ done := hb.echoes.congr hb.echoes.shallower rfl rfl rfl rfl
  have hs := traces_settle hbody.toPaired (body.run { l with state := l.state.begun }).1.result
  have hm : isAutocommit m.state.session = true := by rw [h.session, ha]
  refine ⟨?_, ?_⟩
  · rw [run_outermost ha, run_outermost hm]
    dsimp only
    rw [hb.result, hs.result]
  · rw [run_outermost ha, run_outermost hm]
    dsimp only
    rw [hb.result]
    exact hbody.silently hs.echoes

/-- A unit that is entered from one of two registries that differ in verbosity is entered from the
other one too, and a unit that does not begin does so from neither. -/
theorem entered_of_paired (h : Paired l m) (e : Log.Event) :
    (l.entered e = none ∧ m.entered e = none) ∨
      ∃ l' m', l.entered e = some l' ∧ m.entered e = some m' ∧ Paired l' m' ∧
        l'.state.depth = l.state.depth + 1 := by
  unfold Logged.entered
  rw [h.depth, h.session]
  split
  · exact Or.inr ⟨_, _, rfl, rfl, (h.noting e).deeper, rfl⟩
  · split
    · exact Or.inr ⟨_, _, rfl, rfl, (h.noting e).begun, rfl⟩
    · exact Or.inl ⟨rfl, rfl⟩

/-- **A unit of work notes what its body does**, if it begins. -/
theorem traces_unit (h : Paired l m) (e : Log.Event) (skipped : τ)
    {inside : Logged (Registry σ) → List Invocation}
    (hb : ∀ {l' m' : Logged (Registry σ)}, Paired l' m' → l'.state.depth = l.state.depth + 1 →
      Traces body l' m' (inside l')) :
    Traces (unit skipped body) (l.noting e) (m.noting e) ((l.entered e).elim [] inside) := by
  have hp := h.noting e
  unfold Logged.entered
  by_cases hd : 0 < l.state.depth
  · have hl : 0 < (l.noting e).state.depth := hd
    have hm : 0 < (m.noting e).state.depth := by rwa [hp.depth]
    rw [if_pos hd]
    exact (hb hp.deeper rfl).joined.of_run (run_unit_of_pos hl skipped body)
      (run_unit_of_pos hm skipped body)
  · have hl : (l.noting e).state.depth = 0 := Nat.eq_zero_of_not_pos hd
    have hm : (m.noting e).state.depth = 0 := by rw [hp.depth, hl]
    rw [if_neg hd]
    refine Traces.of_run ?_ (run_unit_of_zero hl skipped body) (run_unit_of_zero hm skipped body)
    cases ha : isAutocommit l.state.session with
    | false =>
      have hla : isAutocommit (l.noting e).state.session = false := ha
      have hma : isAutocommit (m.noting e).state.session = false := by
        rw [hp.session, hla]
      exact (traces_pure hp _).of_run (run_outermost_of_open hla skipped body)
        (run_outermost_of_open hma skipped body)
    | true => exact Traces.outermost hp ha skipped (hb hp.begun rfl)

theorem traces_tracedTransaction (h : Paired l m) (skipped : τ)
    {inside : Logged (Registry σ) → List Invocation}
    (hb : ∀ {l' m' : Logged (Registry σ)}, Paired l' m' → l'.state.depth = l.state.depth + 1 →
      Traces body l' m' (inside l')) :
    Traces (tracedTransaction skipped body) l m
      ((l.entered (transactionStart l)).elim [] inside) := by
  refine traces_state_bind h rfl (Traces.bracketed h transactionName rfl (fun _ => rfl) ?_)
  exact (traces_unit h (transactionStart l) skipped hb).silently fun hp => traces_pure hp _

/-- A batch notes what is done with its query, unless it is refused. -/
theorem traces_tracedBatch (h : Paired l m) (skipped : τ) (name : String)
    {body : Query → Action (Registry σ) (Outcome τ (Option Int64 × Nat))}
    {inside : Query → Logged (Registry σ) → List Invocation}
    (hb : ∀ q {l' m' : Logged (Registry σ)}, Paired l' m' → l'.state.depth = l.state.depth + 1 →
      Traces (body q) l' m' (inside q l')) :
    Traces (tracedBatch skipped name body) l m
      (match l.state.chosen .insert name with
      | .ok q => (l.entered (batchStart l name)).elim [] (inside q)
      | .error _ => []) := by
  have hm := h.chosen .insert name
  cases hc : l.state.chosen .insert name with
  | error e =>
    rw [hc] at hm
    exact (traces_pure h _).of_run (by rw [run_tracedBatch, hc]; rfl)
      (by rw [run_tracedBatch, hm]; rfl)
  | ok q =>
    rw [hc] at hm
    have hu := traces_unit h (batchStart l name) skipped (hb q)
    have hb : Traces (bracketed batchName [(Log.FieldName.queryName.key, .text name)]
        (fun r => [(Log.FieldName.batchLen.key, .integer r.2)]) (unit skipped (body q))) l m
        ((l.entered (batchStart l name)).elim [] (inside q)) :=
      Traces.bracketed h batchName rfl (fun _ => rfl) hu
    refine Traces.of_run (hb.silently (f := fun o =>
      pure { o with result := o.result.map (·.1) }) fun hp => traces_pure hp _) ?_ ?_
    · rw [tracedBatch, Action.run_bind, run_typed, hc]
    · rw [tracedBatch, Action.run_bind, run_typed, hm]

end Registry

/-! ### Loads and functions -/

namespace Op

/-- On two registries that differ in verbosity the operation comes to the same, and no statement is
noted. -/
def Silent (x : Op (Registry σ) α) : Prop :=
  ∀ l m : Logged (Registry σ), Paired l m → Registry.Traces x.run l m []

theorem silent_ofResult (r : Except Error α) : Silent (ofResult r : Op (Registry σ) α) :=
  fun _ _ h => Registry.traces_pure h r

theorem silent_pure (a : α) : Silent (pure a : Op (Registry σ) α) := silent_ofResult (.ok a)

theorem silent_throw (e : Error) : Silent (throw e : Op (Registry σ) α) :=
  silent_ofResult (.error e)

theorem silent_log {e : Log.Event} (he : e.isExecuting = false) :
    Silent (log e : Op (Registry σ) Unit) :=
  fun _ _ h => ⟨rfl, h.echoes_noting he⟩

theorem silent_change {f : Registry σ → Registry σ} (hm : ∀ r : Registry σ, f r.muted = (f r).muted)
    (hv : ∀ r : Registry σ, (f r).verbose = r.verbose) : Silent (change f) :=
  fun _ _ h => ⟨rfl, (Registry.traces_change h hm hv).echoes⟩

theorem Silent.bind {x : Op (Registry σ) α} {f : α → Op (Registry σ) β} (hx : Silent x)
    (hf : ∀ a, Silent (f a)) : Silent (x >>= f) := by
  intro l m h
  rw [ExceptT.run_bind]
  refine (hx l m h).silently fun hp => ?_
  split
  · exact hf _ _ _ hp
  · exact Registry.traces_pure hp _

/-- An operation that looks at the state, but not at its verbosity. -/
theorem silent_state_bind {f : Registry σ → Op (Registry σ) β}
    (hm : ∀ r : Registry σ, f r.muted = f r) (hf : ∀ r, Silent (f r)) : Silent (state >>= f) :=
  fun l m h => Registry.traces_state_bind h (congrArg ExceptT.run (hm _)) (hf _ l m h)

/-- An operation between the events that log its start and its end. -/
theorem Silent.bracket {x : Op (Registry σ) α} (hx : Silent x) (name : String)
    {first : List (String × Log.FieldValue)} {last : α → List (String × Log.FieldValue)}
    (hf : first.lookup Log.Event.messageKey = none)
    (hl : ∀ a, (last a).lookup Log.Event.messageKey = none) :
    Silent (bracket name first last x) := by
  intro l m h
  have hb := (hx _ _ (h.noting (.opStart l.component name first))).silently
    (f := fun r => pure (⟨r, ()⟩ : Outcome Unit α)) fun hp => Registry.traces_pure hp _
  exact (Registry.Traces.bracketed h name hf hl hb).silently fun hp => Registry.traces_pure hp _

end Op

namespace Registry

open Op

variable [Engine σ]

theorem silent_check (held : String → Bool) (seen : List String) (spec : QuerySpec) :
    Silent (check held seen spec : Op (Registry σ) Query) := by
  unfold check countStatement
  refine (silent_ofResult _).bind fun shape => Silent.bind ?_ fun _ => ?_
  · refine silent_state_bind (fun _ => rfl) fun r => ?_
    refine Silent.bind (silent_change (fun _ => rfl) fun _ => rfl) fun _ => ?_
    split
    · exact silent_throw _
    · exact silent_pure _
  · refine silent_state_bind (fun _ => rfl) fun r => ?_
    refine Silent.bind (silent_change (fun _ => rfl) fun _ => rfl) fun _ => ?_
    split
    · exact silent_throw _
    · exact (silent_log rfl).bind fun _ => silent_pure _

theorem silent_checkAll (held : String → Bool) (specs : List QuerySpec) (seen : List String) :
    Silent (checkAll held seen specs : Op (Registry σ) (List Query)) := by
  induction specs generalizing seen with
  | nil => exact silent_pure _
  | cons spec rest ih =>
    exact (silent_check _ _ spec).bind fun q => (ih _).bind fun _ => silent_pure _

theorem silent_load (source : String) (read : Except Error (List QuerySpec)) :
    Silent (load source read : Op (Registry σ) Nat) := by
  refine Silent.bracket ?_ _ rfl fun _ => rfl
  refine (silent_ofResult _).bind fun specs => ?_
  refine Silent.bind (silent_change (fun _ => rfl) fun _ => rfl) fun _ => ?_
  refine silent_state_bind (fun _ => rfl) fun r => (silent_checkAll _ _ _).bind fun queries => ?_
  refine Silent.bind (silent_change (fun r => ?_) fun r => ?_) fun _ => silent_pure _
  · rw [addQueries_eq, addQueries_eq]
    rfl
  · rw [addQueries_eq]

theorem silent_loadText (text : String) : Silent (loadText text : Op (Registry σ) Unit) :=
  (silent_load _ _).bind fun _ => silent_pure _

theorem silent_loadFile (f : Files) (path : String) :
    Silent (loadFile f path : Op (Registry σ) Unit) := by
  unfold loadFile
  split
  · exact silent_throw _
  · refine silent_state_bind (fun _ => rfl) fun r => ?_
    split
    · exact silent_log rfl
    · exact (silent_load _ _).bind fun _ => silent_change (fun _ => rfl) fun _ => rfl

theorem silent_registerFunction (name : String) (arity : Int)
    (body : List Value → Except Sql.FunctionFault Value) (complaint : Option Sql.Fault) :
    Silent (registerFunction name arity body complaint : Op (Registry σ) Unit) := by
  have hadd : ∀ f, Silent (change fun r : Registry σ => r.addFunction f) := fun f =>
    silent_change (f := fun r => r.addFunction f) (fun _ => rfl) fun _ => rfl
  refine Silent.bracket ?_ _ rfl fun _ => rfl
  refine silent_state_bind (fun _ => rfl) fun r => ?_
  cases refusal? complaint name arity with
  | some cause =>
    dsimp only
    split
    · exact (silent_throw _).bind fun _ => silent_throw _
    · exact silent_throw _
  | none =>
    dsimp only
    split
    · exact (silent_throw _).bind fun _ => hadd _
    · exact hadd _

end Registry

end NamedSql
