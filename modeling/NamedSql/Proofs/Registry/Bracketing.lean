import NamedSql.Proofs.Log.Spans
import NamedSql.Proofs.Registry.Causes

/-!
# Operations in the log

What a run writes to the log, as the tree of the operations that it was made of. The tree is found
by following the run, without a look at the log: which operations were entered, what was done inside
of each, and what it returned. The log gains the events of the tree and some notes, so it stays well
nested, and every event that ends an operation tells what the operation has returned.

## Scope

An operation that is refused before it starts is no part of the tree: a batch whose query cannot be
looked up, and a file that cannot be found or was loaded before. Calls and single insertions write
notes only. The time that an operation has taken is not told. Of the engine it matters only whether
a transaction begins, since a unit that does not begin has nothing inside.

## Main definitions

* `Logged.Adds` — what a log has gained
* `Step.spans`, `Script.spans`, `Batch.spans` — the operations in a step
* `Operation.spans`, `Registry.spansOf` — the operations of a run

## Main results

* `Step.adds`, `Script.adds`, `Batch.adds` — what a step writes
* `Registry.operation_log` — what a whole run writes, from the opening of a registry on
-/

namespace NamedSql

open Log (Span)
open Registry (transactionStart batchStart written)
open Transactional (isAutocommit)

variable {σ τ υ α β : Type}

/-! ### What a log has gained -/

/-- The second log is the first one with the events of operations, and with notes. -/
structure Logged.Adds (l : Logged σ) (m : Logged τ) (spans : List Span) : Prop where
  component : m.component = l.component
  bounds : Log.bounds m.events = Log.bounds l.events ++ Span.eventsAll l.component spans

namespace Logged.Adds

variable {l : Logged σ} {m : Logged τ} {n : Logged υ} {spans rest : List Span}

/-- Nothing is written, so no operation is added to the log. -/
theorem of_events (hc : m.component = l.component) (he : m.events = l.events) : Adds l m [] :=
  ⟨hc, by rw [he, Span.eventsAll_nil, List.append_nil]⟩

theorem refl (l : Logged σ) : Adds l l [] := of_events rfl rfl

theorem trans (h : Adds l m spans) (h' : Adds m n rest) : Adds l n (spans ++ rest) where
  component := h'.component.trans h.component
  bounds := by
    rw [h'.bounds, h.bounds, h.component, Span.eventsAll_append, List.append_assoc]

/-- A note is written, which bounds no operation and so adds none. -/
theorem of_note {e : Log.Event} (h : e.isNote = true) (hc : m.component = l.component)
    (he : m.events = l.events ++ [e]) : Adds l m [] where
  component := hc
  bounds := by
    rw [he, Log.bounds_append, Log.bounds_cons_of_isNote h]
    rfl

/-- What is written depends on the logs alone. -/
theorem congr {l' : Logged σ} {m' : Logged τ} (h : Adds l m spans)
    (hl : l'.component = l.component ∧ l'.events = l.events)
    (hm : m'.component = m.component ∧ m'.events = m.events) : Adds l' m' spans where
  component := hm.1.trans (h.component.trans hl.1.symm)
  bounds := by rw [hm.2, hl.1, hl.2, h.bounds]

/-- An operation that starts, does something, and is closed. What it does is nested in it. -/
theorem span {op : String} {first last : List (String × Log.FieldValue)} {error? : Option Error}
    (h : Adds (l.noting (.opStart l.component op first)) m spans) :
    Adds l (m.noting (Span.closing l.component op last error?))
      [.mk op first last spans error?] where
  component := h.component
  bounds := by
    have hs : Log.bounds (l.events ++ [.opStart l.component op first]) =
        Log.bounds l.events ++ [.opStart l.component op first] := by
      rw [Log.bounds_append, Log.bounds_cons_of_op (Log.Event.op?_opStart ..)]
      rfl
    have hb := h.bounds
    change Log.bounds m.events = Log.bounds (l.events ++ _) ++ _ at hb
    change Log.bounds (m.events ++ [_]) = _
    rw [Log.bounds_append, hb, hs, Log.bounds_cons_of_op (Log.op?_closing ..),
      Span.eventsAll_singleton, Span.events]
    simp only [List.append_assoc]
    rfl

end Logged.Adds

open Logged (Adds)

/-- The event that closes an operation, by its error. -/
theorem closing_eq {component name : String} {last : α → List (String × Log.FieldValue)}
    {r : Except Error α} (fields : List (String × Log.FieldValue))
    (h : ∀ a, r = .ok a → last a = fields) :
    closing component name last r = Span.closing component name fields (errorOf? r) := by
  cases r with
  | error e => rfl
  | ok a => rw [← h a rfl]; rfl

/-! ### Operations that write notes only -/

/-- An operation that writes notes only, and so brackets nothing of its own. -/
def Op.NotesOnly (x : Op σ α) : Prop := ∀ l, Adds l (x.run.run l).2 []

namespace Op

theorem notesOnly_ofResult (r : Except Error α) : NotesOnly (ofResult r : Op σ α) :=
  fun l => .refl l

theorem notesOnly_pure (a : α) : NotesOnly (pure a : Op σ α) := fun l => .refl l

theorem notesOnly_throw (e : Error) : NotesOnly (throw e : Op σ α) := fun l => .refl l

theorem notesOnly_state : NotesOnly (state : Op σ σ) := fun l => .refl l

theorem notesOnly_change (f : σ → σ) : NotesOnly (change f) := fun _ => .of_events rfl rfl

theorem notesOnly_log {e : Log.Event} (h : e.isNote = true) : NotesOnly (log e : Op σ Unit) :=
  fun _ => .of_note h rfl rfl

theorem NotesOnly.bind {x : Op σ α} {f : α → Op σ β} (hx : NotesOnly x)
    (hf : ∀ a, NotesOnly (f a)) : NotesOnly (x >>= f) := by
  intro l
  have h := hx l
  rw [Op.run_bind]
  generalize x.run.run l = p at h ⊢
  obtain ⟨e | a, m⟩ := p
  · exact h
  · exact h.trans (hf a m)

/-- An operation that is logged, and inside of which only notes are written. -/
theorem NotesOnly.adds_bracket {x : Op σ α} (hx : NotesOnly x) (name : String)
    (first : List (String × Log.FieldValue)) {last : α → List (String × Log.FieldValue)}
    {fields : List (String × Log.FieldValue)} {l : Logged σ}
    (h : ∀ a, ((bracket name first last x).run.run l).1 = .ok a → last a = fields) :
    Adds l ((bracket name first last x).run.run l).2
      [.mk name first fields [] (errorOf? ((bracket name first last x).run.run l).1)] := by
  rw [Op.run_bracket] at h ⊢
  dsimp only at h ⊢
  rw [closing_eq fields h]
  exact (hx _).span

end Op

namespace Registry

open Op

theorem notesOnly_connect (config : Config) : NotesOnly (connect config) := by
  unfold connect
  refine notesOnly_state.bind fun files => (notesOnly_ofResult _).bind fun p => ?_
  refine (notesOnly_change _).bind fun _ => (notesOnly_ofResult _).bind fun _ => ?_
  refine (notesOnly_ofResult _).bind fun mode => (notesOnly_log rfl).bind fun _ => ?_
  dsimp only
  split
  · exact notesOnly_pure _
  · exact (notesOnly_change _).bind fun _ => notesOnly_throw _

variable [Engine σ]

theorem notesOnly_check (held : String → Bool) (seen : List String) (spec : QuerySpec) :
    NotesOnly (check held seen spec : Op (Registry σ) Query) := by
  unfold check countStatement
  refine (notesOnly_ofResult _).bind fun shape => NotesOnly.bind ?_ fun _ => ?_
  · refine notesOnly_state.bind fun r => (notesOnly_change _).bind fun _ => ?_
    split
    · exact notesOnly_throw _
    · exact notesOnly_pure _
  · refine notesOnly_state.bind fun r => (notesOnly_change _).bind fun _ => ?_
    split
    · exact notesOnly_throw _
    · exact (notesOnly_log rfl).bind fun _ => notesOnly_pure _

theorem notesOnly_checkAll (held : String → Bool) (specs : List QuerySpec) (seen : List String) :
    NotesOnly (checkAll held seen specs : Op (Registry σ) (List Query)) := by
  induction specs generalizing seen with
  | nil => exact notesOnly_pure _
  | cons spec rest ih =>
    exact (notesOnly_check _ _ spec).bind fun q => (ih _).bind fun _ => notesOnly_pure _

/-! ### Calls and units -/

theorem adds_invoked (l : Logged (Registry σ)) (i : Invocation) : Adds l (l.invoked i) [] := by
  cases hv : l.state.verbose with
  | false => exact .of_events rfl (by rw [Logged.invoked, hv]; rfl)
  | true =>
    have hn : (executingNote i.query i.params).isNote = true := rfl
    exact .of_note hn rfl (by rw [Logged.invoked, hv]; rfl)

theorem adds_foldl_invoked (l : Logged (Registry σ)) (done : List Invocation) :
    Adds l (done.foldl Logged.invoked l) [] := by
  induction done generalizing l with
  | nil => exact .refl l
  | cons i rest ih => exact (adds_invoked l i).trans (ih _)

theorem adds_rollBack (l : Logged (Registry σ)) : Adds l (rollBack.run l).2 [] := by
  rw [rollBack, Action.run_bind, run_control]
  dsimp only
  cases (Engine.control l.state.session .rollback).2 with
  | none => exact .of_events rfl rfl
  | some f =>
    have hn : (rollbackFailedNote f).isNote = true := rfl
    exact .of_note hn rfl rfl

/-- The end of an outermost unit writes a note at most, for a rollback that fails; it brackets
nothing. -/
theorem adds_settle (r : Except Error α) (l : Logged (Registry σ)) :
    Adds l ((settle r).run l).2 [] := by
  have hr := adds_rollBack { l with state := { l.state with rollbackOnly := false } }
  cases r with
  | error e =>
    rw [run_settle_error]
    exact hr.congr ⟨rfl, rfl⟩ ⟨rfl, rfl⟩
  | ok a =>
    rw [run_settle_ok]
    split
    · exact hr.congr ⟨rfl, rfl⟩ ⟨rfl, rfl⟩
    · rw [commit, Action.run_bind, run_control]
      dsimp only
      cases (Engine.control l.state.session .commit).2 with
      | none => exact .of_events rfl rfl
      | some f => exact .of_events rfl rfl

variable [Transactional σ]

/-- What is inside of a unit that is announced by an event. -/
def within (l : Logged (Registry σ)) (e : Log.Event) (inside : Logged (Registry σ) → List Span) :
    List Span :=
  match l.entered e with
  | none => []
  | some m => inside m

/-- A unit writes what its body does. Its own beginning and end are not in the log. -/
theorem adds_unit (l : Logged (Registry σ)) (e : Log.Event) (skipped : τ)
    (body : Action (Registry σ) (Outcome τ α)) {inside : Logged (Registry σ) → List Span}
    (h : ∀ m : Logged (Registry σ), m.state.depth = l.state.depth + 1 →
      Adds m (body.run m).2 (inside m)) :
    Adds (l.noting e) ((unit skipped body).run (l.noting e)).2 (within l e inside) := by
  rw [within, Logged.entered]
  by_cases hd : 0 < l.state.depth
  · have hn : 0 < (l.noting e).state.depth := hd
    rw [if_pos hd, run_unit_of_pos hn, run_joined]
    exact (h (l.noting e).deeper rfl).congr ⟨rfl, rfl⟩ ⟨rfl, rfl⟩
  · have hn : (l.noting e).state.depth = 0 := Nat.eq_zero_of_not_pos hd
    rw [if_neg hd, run_unit_of_zero hn]
    cases ha : isAutocommit l.state.session with
    | false =>
      have hc : isAutocommit (l.noting e).state.session = false := ha
      rw [run_outermost_of_open hc]
      exact .refl _
    | true =>
      have hc : isAutocommit (l.noting e).state.session = true := ha
      rw [run_outermost hc]
      have hb : Adds (l.noting e)
          (body.run { l.noting e with state := l.state.begun }).2.shallower
          (inside { l.noting e with state := l.state.begun }) :=
        (h { l.noting e with state := l.state.begun } rfl).congr ⟨rfl, rfl⟩ ⟨rfl, rfl⟩
      have hs := hb.trans
        (adds_settle (body.run { l.noting e with state := l.state.begun }).1.result _)
      rwa [List.append_nil] at hs

end Registry

/-! ### The operations in a step -/

/-- The number of records of a batch, whichever of them can be inserted. -/
def Batch.length : Batch → Nat
  | .nil => 0
  | .cons _ _ rest => rest.length + 1

variable [Engine σ]

/-- A batch that ends well has inserted all of its records. -/
theorem Batch.count_run {q : Query} : ∀ (b : Batch) {last last' : Option Int64} {count n : Nat}
    {l : Logged (Registry σ)}, ((b.run q last count).run l).1.result = .ok (last', n) →
    n = count + b.length
  | .nil, _, _, _, _, _, h => by
    cases h
    rfl
  | .cons before record rest, last, last', count, n, l, h => by
    rw [Batch.run_cons] at h
    dsimp only at h
    cases hw : written q (.named record) (before.runAll.run l).2.state.session with
    | error e =>
      rw [hw] at h
      cases h
    | ok r =>
      rw [hw] at h
      rw [rest.count_run h, Batch.length]
      omega

open Registry (within)

variable [Transactional σ]

mutual

/-- The operations in a step, while so many units are open around it. -/
def Step.spans (units : Nat) (l : Logged (Registry σ)) : Step → List Span
  | .insertMany name batch =>
    match l.state.chosen .insert name with
    | .error _ => []
    | .ok q =>
      [.mk Registry.batchName [(Log.FieldName.queryName.key, .text name)]
        [(Log.FieldName.batchLen.key, .integer batch.length)]
        (within l (batchStart l name) fun m => batch.spans q (units + 1) m)
        ((Step.insertMany name batch).run.run l).1.error?]
  | .transaction body finish =>
    [.mk Registry.transactionName [("nested", .flag (decide (0 < units)))] []
      (within l (transactionStart l) fun m => body.spans (units + 1) m)
      ((Step.transaction body finish).run.run l).1.error?]
  | _ => []

/-- The operations in a script, up to the first decisive step that fails. -/
def Script.spans (units : Nat) (l : Logged (Registry σ)) : Script → List Span
  | .nil => []
  | .cons decisive step rest =>
    let p := step.run.run l
    step.spans units l ++
      match if decisive then p.1.error? else none with
      | some _ => []
      | none => rest.spans units p.2

/-- The operations in a script of which every step is run, in the order of the steps. -/
def Script.spansAll (units : Nat) (l : Logged (Registry σ)) : Script → List Span
  | .nil => []
  | .cons _ step rest => step.spans units l ++ rest.spansAll units (step.run.run l).2

/-- The operations in the scripts before the records of a batch. The insertions themselves are
bracketed by nothing. -/
def Batch.spans (q : Query) (units : Nat) (l : Logged (Registry σ)) : Batch → List Span
  | .nil => []
  | .cons before record rest =>
    let m := (before.runAll.run l).2
    before.spansAll units l ++
      match written q (.named record) m.state.session with
      | .error _ => []
      | .ok _ => rest.spans q units (m.invoked ⟨q, .named record⟩)

end

mutual

/-- **A step writes the events of the operations in it**, and notes. -/
theorem Step.adds : ∀ (s : Step) {l : Logged (Registry σ)} {units : Nat}, l.state.depth = units →
    Adds l (s.run.run l).2 (s.spans units l)
  | .names, l, _, _ | .contains _, l, _, _ | .hasFunction _, l, _, _ | .query _, l, _, _ => .refl l
  | .call name params, l, units, hl => by
    change Adds l ((Registry.call name params).run.run l).2 []
    rw [Registry.state_run_call]
    exact Registry.adds_foldl_invoked l _
  | .access a name params, l, units, hl => by
    change Adds l ((Registry.access a name params).run.run l).2 []
    rw [Registry.state_run_access]
    exact Registry.adds_foldl_invoked l _
  | .insertOne name record, l, units, hl => by
    change Adds l ((Registry.insertOne name record).run.run l).2 []
    rw [Registry.state_run_insertOne]
    exact Registry.adds_foldl_invoked l _
  | .insertMany name batch, l, units, hl => by
    rw [Step.spans, Registry.run_step_insertMany]
    cases hc : l.state.chosen .insert name with
    | error e => exact .refl l
    | ok q =>
      subst hl
      dsimp only
      have hb : Adds (l.noting (batchStart l name)) _
          (within l (batchStart l name) fun m => batch.spans q (l.state.depth + 1) m) :=
        Registry.adds_unit l _ [] (batch.run q none 0) fun m hm =>
          batch.adds q none 0 (Nat.succ_pos l.state.depth) hm
      rw [Answer.error?_insertedMany, errorOf?_map, Registry.batchEnd,
        closing_eq [(Log.FieldName.batchLen.key, .integer batch.length)]]
      · exact hb.span
      · rintro ⟨last, n⟩ hr
        obtain ⟨m, -, hm, -⟩ := Registry.exists_run_of_unit hr
        rw [batch.count_run hm, Nat.zero_add]
  | .transaction body finish, l, units, hl => by
    subst hl
    rw [Step.spans, Registry.run_step_transaction]
    dsimp only
    have hb : Adds (l.noting (transactionStart l)) _
        (within l (transactionStart l) fun m => body.spans (l.state.depth + 1) m) :=
      Registry.adds_unit l _ [] (body.closure fun _ => finish.result) fun m hm =>
        body.adds (Nat.succ_pos l.state.depth) hm
    rw [Answer.error?_transaction, Registry.transactionEnd, closing_eq [] fun _ _ => rfl]
    exact hb.span

theorem Script.adds : ∀ (s : Script) {l : Logged (Registry σ)} {units : Nat}, 0 < units →
    l.state.depth = units → Adds l (s.run.run l).2 (s.spans units l)
  | .nil, l, _, _, _ => .refl l
  | .cons decisive step rest, l, units, hu, hl => by
    have hs := step.adds hl
    have hd : (step.run.run l).2.state.depth = units := by
      rw [step.state_run (hl ▸ hu)]
      exact hl
    rw [Script.run_cons, Script.spans]
    dsimp only
    cases if decisive then (step.run.run l).1.error? else none with
    | some e =>
      rw [List.append_nil]
      exact hs
    | none => exact hs.trans (rest.adds hu hd)

theorem Script.addsAll : ∀ (s : Script) {l : Logged (Registry σ)} {units : Nat}, 0 < units →
    l.state.depth = units → Adds l (s.runAll.run l).2 (s.spansAll units l)
  | .nil, l, _, _, _ => .refl l
  | .cons decisive step rest, l, units, hu, hl => by
    have hs := step.adds hl
    have hd : (step.run.run l).2.state.depth = units := by
      rw [step.state_run (hl ▸ hu)]
      exact hl
    rw [Script.runAll_cons, Script.spansAll]
    exact hs.trans (rest.addsAll hu hd)

theorem Batch.adds : ∀ (b : Batch) (q : Query) (last : Option Int64) (count : Nat)
    {l : Logged (Registry σ)} {units : Nat}, 0 < units → l.state.depth = units →
    Adds l ((b.run q last count).run l).2 (b.spans q units l)
  | .nil, q, last, count, l, units, hu, hl => .refl l
  | .cons before record rest, q, last, count, l, units, hu, hl => by
    have hp := before.addsAll hu hl
    have hm : ((before.runAll.run l).2.invoked ⟨q, .named record⟩).state.depth = units := by
      rw [Registry.state_invoked, before.state_runAll (hl ▸ hu)]
      exact hl
    have hi := hp.trans (Registry.adds_invoked (before.runAll.run l).2 ⟨q, .named record⟩)
    rw [List.append_nil] at hi
    rw [Batch.run_cons, Batch.spans]
    dsimp only
    cases written q (.named record) (before.runAll.run l).2.state.session with
    | error e =>
      dsimp only
      rw [List.append_nil]
      exact hi
    | ok r => exact hi.trans (rest.adds q (some r.lastRowid) (count + 1) hu hm)

end

/-! ### Loads, functions and opening -/

namespace Registry

open Op

omit [Transactional σ]

/-- The number of specifications that have been read, and none if the text could not be read. -/
def specCount (read : Except Error (List QuerySpec)) : Nat :=
  match read with
  | .ok specs => specs.length
  | .error _ => 0

theorem Accepted.length {held : String → Bool} {seen : List String} {specs : List QuerySpec}
    {queries : List Query} (h : Accepted held seen specs queries) :
    queries.length = specs.length := by
  have hl := congrArg List.length h.names
  rwa [List.length_map, List.length_map] at hl

/-- The load of what has been read from a source, which counts the specifications if it ends
well. -/
def loadSpan (source : String) (read : Except Error (List QuerySpec)) (error? : Option Error) :
    Span :=
  .mk "load_queries" [(Log.FieldName.source.key, .text source)]
    [(Log.FieldName.queryCount.key, .integer (specCount read))] [] error?

theorem adds_load (source : String) (read : Except Error (List QuerySpec))
    (l : Logged (Registry σ)) :
    Adds l ((load source read).run.run l).2
      [loadSpan source read (errorOf? ((load source read).run.run l).1)] := by
  refine NotesOnly.adds_bracket ?_ _ _ fun count hk => ?_
  · refine (notesOnly_ofResult _).bind fun specs => (notesOnly_change _).bind fun _ => ?_
    refine notesOnly_state.bind fun r => (notesOnly_checkAll _ _ _).bind fun queries => ?_
    exact (notesOnly_change _).bind fun _ => notesOnly_pure _
  · rcases run_load_cases source read l with ⟨e, he, -⟩ | ⟨specs, queries, r, hr, ha, -, hq, -⟩
    · rw [load, hk] at he
      cases he
    · rw [load, hk] at hq
      cases hq
      rw [hr, specCount, ha.length]

theorem adds_loadText (text : String) (l : Logged (Registry σ)) :
    Adds l ((loadText text).run.run l).2
      [loadSpan textSource (QuerySpec.readAll text) (errorOf? ((loadText text).run.run l).1)] := by
  have h := adds_load textSource (QuerySpec.readAll text) l
  rw [loadText, Op.run_bind]
  generalize (load textSource (QuerySpec.readAll text)).run.run l = p at h ⊢
  obtain ⟨e | count, m⟩ := p
  · exact h
  · exact h

/-- The load of a file, which is no operation if the file cannot be found or was loaded before. -/
def fileSpans (f : Files) (path : String) (l : Logged (Registry σ)) : List Span :=
  match f.canonical path with
  | .error _ => []
  | .ok place =>
    if l.state.sources.contains place then []
    else
      [loadSpan path (readQueries (f.absolute place) (f.textAt place))
        (errorOf? ((loadFile f path).run.run l).1)]

theorem adds_loadFile (f : Files) (path : String) (l : Logged (Registry σ)) :
    Adds l ((loadFile f path).run.run l).2 (fileSpans f path l) := by
  rw [fileSpans, loadFile]
  cases f.canonical path with
  | error fault => exact .refl l
  | ok place =>
    dsimp only
    rw [Op.run_bind, Op.run_state]
    dsimp only
    cases l.state.sources.contains place with
    | true =>
      have hn : (alreadyLoadedNote path).isNote = true := rfl
      exact .of_note hn rfl rfl
    | false =>
      have h := adds_load path (readQueries (f.absolute place) (f.textAt place)) l
      rw [if_neg Bool.false_ne_true, if_neg Bool.false_ne_true, Op.run_bind]
      generalize (load path (readQueries (f.absolute place) (f.textAt place))).run.run l = p at h ⊢
      obtain ⟨e | count, m⟩ := p
      · exact h
      · exact h.congr ⟨rfl, rfl⟩ ⟨rfl, rfl⟩

/-- The registration of a function. -/
def registerSpan (name : String) (arity : Int) (error? : Option Error) : Span :=
  .mk "register_function" [(Log.FieldName.functionName.key, .text name), ("arity", .integer arity)]
    [] [] error?

theorem adds_registerFunction (name : String) (arity : Int)
    (body : List Value → Except Sql.FunctionFault Value)
    (complaint : Option Sql.Fault) (l : Logged (Registry σ)) :
    Adds l ((registerFunction name arity body complaint).run.run l).2
      [registerSpan name arity
        (errorOf? ((registerFunction name arity body complaint).run.run l).1)] := by
  refine NotesOnly.adds_bracket ?_ _ _ fun _ _ => rfl
  refine notesOnly_state.bind fun r => ?_
  cases refusal? complaint name arity with
  | some cause =>
    dsimp only
    split
    · exact (notesOnly_throw _).bind fun _ => notesOnly_throw _
    · exact notesOnly_throw _
  | none =>
    dsimp only
    split
    · exact (notesOnly_throw _).bind fun _ => notesOnly_change _
    · exact notesOnly_change _

/-- The opening of a registry, which has its location at its start and its error at its end. -/
def openSpan (config : Config) (l : Logged Files) : Span :=
  .mk "open" [("location", .shown config.location)] [] []
    (errorOf? ((Registry.open config).run.run l).1)

theorem adds_open (config : Config) (l : Logged Files) :
    Adds l ((Registry.open config).run.run l).2 [openSpan config l] :=
  (notesOnly_connect config).adds_bracket _ _ fun _ _ => rfl

end Registry

/-! ### Runs of operations -/

open Registry

/-- The operations that are logged when something is done with a registry from outside. -/
def Operation.spans (l : Logged (Registry σ)) : Operation → List Span
  | .loadText text =>
    [loadSpan textSource (QuerySpec.readAll text)
      (errorOf? ((Registry.loadText text).run.run l).1)]
  | .loadFile f path => fileSpans f path l
  | .registerFunction name arity body complaint =>
    [registerSpan name arity
      (errorOf? ((Registry.registerFunction name arity body complaint).run.run l).1)]
  | .step s => s.spans 0 l

theorem Operation.adds {l : Logged (Registry σ)} (h : AtRest l.state) (o : Operation) :
    Adds l (o.after l) (o.spans l) := by
  cases o with
  | loadText text => exact adds_loadText text l
  | loadFile f path => exact adds_loadFile f path l
  | registerFunction name arity body complaint =>
    exact adds_registerFunction name arity body complaint l
  | step s => exact s.adds h.outside

namespace Registry

/-- The operations of a run, in order. -/
def spansOf (l : Logged (Registry σ)) : List Operation → List Span
  | [] => []
  | o :: rest => o.spans l ++ spansOf (o.after l) rest

theorem adds_later {l : Logged (Registry σ)} (h : AtRest l.state) (ops : List Operation) :
    Adds l (later l ops) (spansOf l ops) := by
  induction ops generalizing l with
  | nil => exact .refl l
  | cons o rest ih => exact (o.adds h).trans (ih (h.after o))

/-- A registry that has been opened, with the log of its opening. -/
def launched (config : Config) (l : Logged Files) (r : Registry) : Logged Registry where
  state := r
  component := ((Registry.open config).run.run l).2.component
  events := ((Registry.open config).run.run l).2.events

/-- **The log of every run is that of its operations**: what stands in it at the bounds of
operations are the events of a tree, in which an operation stands inside of another one if it was
done there. So the log stays well nested. The last event of each operation tells whether it has
returned an error, and which. The tree gives the number of specifications to a load and of records
to a batch, and marks a transaction as nested if units are open around it. Behind the opening this
holds of a registry on any engine. -/
theorem operation_log (config : Config) (l : Logged Files) :
    (Adds l ((Registry.open config).run.run l).2 [openSpan config l] ∧
      (Log.WellNested l.events → Log.WellNested ((Registry.open config).run.run l).2.events)) ∧
    (∀ r, ((Registry.open config).run.run l).1 = .ok r → ∀ ops,
      Adds l (later (launched config l r) ops)
        (openSpan config l :: spansOf (launched config l r) ops) ∧
      (Log.WellNested l.events → Log.WellNested (later (launched config l r) ops).events)) ∧
    (∀ {σ : Type} [Engine σ] [Transactional σ] (m : Logged (Registry σ)), AtRest m.state → ∀ ops,
      Adds m (later m ops) (spansOf m ops) ∧
      (Log.WellNested m.events → Log.WellNested (later m ops).events)) ∧
    ∀ s : Span, s.Tells l.component := by
  have ho := adds_open config l
  refine ⟨⟨ho, Log.wellNested_of_bounds ho.bounds⟩, fun r hr ops => ?_, fun m hm ops => ?_,
    Span.tells l.component⟩
  · have hrest : AtRest r := Opened.atRest ⟨config, l, hr⟩
    have hl : Adds l (launched config l r) [openSpan config l] := ⟨ho.component, ho.bounds⟩
    have hrun : AtRest (launched config l r).state := hrest
    have ha := hl.trans (adds_later hrun ops)
    exact ⟨ha, Log.wellNested_of_bounds ha.bounds⟩
  · have ha := adds_later hm ops
    exact ⟨ha, Log.wellNested_of_bounds ha.bounds⟩

/-- The configuration of a registry in memory with a table whose codes may not occur twice. -/
def distinctConfig : Config := { Config.memory with schemaSql := some distinctSchema }

/-- No file, and an empty log. -/
def blank : Logged Files := ⟨⟨"/", []⟩, "store", []⟩

/-- The log of a batch that fails inside of a transaction, and of what is around them, is well
nested, and the batch stands inside of the transaction. -/
theorem operation_log_failingFirst :
    ∃ l, l = launched distinctConfig blank (inMemory distinctSchema).state ∧
      Log.WellNested (later l failingFirst).events ∧
      (Log.bounds (later l failingFirst).events).map (fun e => (e.op?, e.phase?)) =
        [(some "open", some "start"), (some "open", some "end"),
          (some "load_queries", some "start"), (some "load_queries", some "end"),
          (some "transaction", some "start"), (some "insert_many", some "start"),
          (some "insert_many", some "end_error"), (some "transaction", some "end_error"),
          (some "transaction", some "start"), (some "transaction", some "end")] := by
  have ho : ((Registry.open distinctConfig).run.run blank).1 =
      .ok (inMemory distinctSchema).state := by
    have hk : (openInMemory distinctSchema).isOk = true := by decide +kernel
    change openInMemory distinctSchema = _
    rw [inMemory]
    cases hr : openInMemory distinctSchema with
    | error e =>
      rw [hr] at hk
      cases hk
    | ok r => rfl
  obtain ⟨-, hl, -⟩ := operation_log distinctConfig blank
  refine ⟨_, rfl, (hl _ ho failingFirst).2 rfl, ?_⟩
  decide +kernel

end Registry

end NamedSql
