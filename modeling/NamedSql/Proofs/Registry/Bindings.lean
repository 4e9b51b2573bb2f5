import NamedSql.Proofs.Registry.Alike
import NamedSql.Proofs.Sql.Binding

/-!
# Parameters of calls

A query is called with values in the order of its parameters, or with a record that has them under
the names of the parameters. Both come to the same. If the parameters do not fit, nothing is
executed, and the error says what was wrong with them.

A call that fails so has still looked for the statement of its query. As long as no load has failed
the statement is there, and the call leaves no trace: whatever is done next comes out as if the call
had not been made. After a load that has failed the statement may have been given up, and is
prepared anew by the call. That makes a difference if the statement is one that sets whether keys of
other tables are enforced, because it sets that when it is prepared.

## Scope

If the statement of a query is not there and can no longer be prepared, every call fails on account
of that, whatever its parameters are. An insertion of one record is a call by its accessor with the
values of the record. Logs are left out.

## Main definitions

* `Deed`, `Registry.replies` — what may be done with a registry, also from inside of a unit of work,
  and what comes of it
* `Registry.Unspoilt` — no load of the registry has failed
* `Query.parameters`, `Query.keys` — the parameters of a query, and the names of their values
* `Registry.callBy` — a call in general or by an accessor
* `Registry.Unexecuted`, `Registry.Binds` — how calls of a query bind their parameters

## Main results

* `Registry.Alike.replies` — registries that are alike reply the same
* `Registry.Unspoilt.alike` — what is kept prepared as long as no load has failed
* `Registry.parameters_bound` — how calls bind their parameters, and what is left if they do not fit
* `Registry.dropped_statement_sets` — a statement that is prepared anew may set what it is to set
-/

namespace NamedSql

/-! ### Deeds -/

/-- Something that is done with a registry, from outside or from inside of a unit of work. -/
inductive Deed where
  | operation (o : Operation)
  /-- The body of a unit starts, after the events and the control statement that precede it. -/
  | enter
  /-- The body of the innermost unit comes to a result, and the unit is concluded by it. -/
  | leave (x : Except Error Unit)

/-- What comes of a deed, as far as whoever does it can see. -/
inductive Reply where
  | result (x : Except Error Unit)
  | answer (a : Answer)
  /-- Whether the body of a unit has started; an outermost unit may fail to begin. -/
  | entered (b : Bool)

namespace Operation

variable {σ : Type} [Engine σ]

/-- What an operation returns, which for a load or a registration is nothing or an error. -/
def reply (l : Logged (Registry σ)) : Operation → Reply
  | .loadText text => .result ((Registry.loadText text).run.run l).1
  | .loadFile f path => .result ((Registry.loadFile f path).run.run l).1
  | .registerFunction name arity body complaint =>
    .result ((Registry.registerFunction name arity body complaint).run.run l).1
  | .step s => .answer (s.run.run l).1

/-- Whether an operation is a load that fails. -/
def isFailedLoad (l : Logged (Registry σ)) : Operation → Bool
  | .loadText text => !((Registry.loadText text).run.run l).1.isOk
  | .loadFile f path => !((Registry.loadFile f path).run.run l).1.isOk
  | _ => false

end Operation

namespace Deed

open Registry

/-- What comes of a deed, and the state that it leaves. A unit that cannot begin or that is not open
leaves it alone. -/
def done (l : Logged Registry) : Deed → Reply × Logged Registry
  | .operation o => (o.reply l, o.after l)
  | .enter =>
    match l.entered (transactionStart l) with
    | some m => (.entered true, m)
    | none => (.entered false, l)
  | .leave x =>
    if l.state.depth = 1 then
      let p := (settle x).run l.shallower
      (.result p.1, p.2)
    else if 1 < l.state.depth then (.result x, l.shallower.marked (!x.isOk))
    else (.result x, l)

/-- Whether a deed is a load that fails. -/
def isFailedLoad (l : Logged Registry) : Deed → Bool
  | .operation o => o.isFailedLoad l
  | _ => false

/-- A deed is a move, or nothing is done. So deeds lead where the moves of a registry lead. -/
theorem leads (d : Deed) (l : Logged Registry) : Leads l.state (d.done l).2.state := by
  cases d with
  | operation o => exact .single (o.move l)
  | enter =>
    rw [done]
    unfold Logged.entered
    rcases Nat.eq_zero_or_pos l.state.depth with hd | hd
    · rw [if_neg (by omega)]
      cases ha : Transactional.isAutocommit l.state.session with
      | false => exact .refl
      | true => exact .single (.began hd (Transactional.begin_of_isAutocommit ha).1)
    · rw [if_pos hd]
      exact .single (.joined hd)
  | leave x =>
    rw [done]
    split
    · rename_i hd
      exact .single (.settled x hd)
    · split
      · rename_i hd
        exact .single (.left (!x.isOk) hd)
      · exact .refl

end Deed

namespace Registry

variable {l m : Logged Registry} {qs : List Query}

/-- What comes of deeds in order, up to the first load that fails. -/
def replies (l : Logged Registry) : List Deed → List Reply
  | [] => []
  | d :: rest => (d.done l).1 :: if d.isFailedLoad l then [] else replies (d.done l).2 rest

/-- No load of the registry has failed since it was opened, whatever else was done with it. -/
inductive Unspoilt : Registry → Prop
  | opened {r : Registry} (h : Opened r) : Unspoilt r
  | done {l : Logged Registry} (h : Unspoilt l.state) (d : Deed) (hd : d.isFailedLoad l = false) :
    Unspoilt (d.done l).2.state

theorem Unspoilt.reachable {r : Registry} (h : Unspoilt r) : Reachable r := by
  induction h with
  | opened h => exact h.reachable
  | @done l _ d _ ih =>
    obtain ⟨r₀, ho, hl⟩ := ih
    exact ⟨r₀, ho, hl.trans (d.leads l)⟩

/-! ### What registries reply that are alike -/

theorem eq_ok_unit {x : Except Error Unit} (h : (!x.isOk) = false) : x = .ok () := by
  cases x with
  | error e => cases h
  | ok _ => rfl

namespace Alike

variable (h : Alike qs l.state m.state)
include h

theorem operation (o : Operation) :
    o.reply m = o.reply l ∧ o.isFailedLoad m = o.isFailedLoad l ∧
      (o.isFailedLoad l = false → ∃ qs', Alike qs' (o.after l).state (o.after m).state) := by
  cases o with
  | loadText text =>
    obtain ⟨he, hq⟩ := h.loadText text
    simp only [Operation.reply, Operation.isFailedLoad, Operation.after, he]
    exact ⟨trivial, trivial, fun hd => hq (eq_ok_unit hd)⟩
  | loadFile f path =>
    obtain ⟨he, hq⟩ := h.loadFile f path
    simp only [Operation.reply, Operation.isFailedLoad, Operation.after, he]
    exact ⟨trivial, trivial, fun hd => hq (eq_ok_unit hd)⟩
  | registerFunction name arity body complaint =>
    obtain ⟨he, hs⟩ := respects_registerFunction name arity body complaint l m h
    exact ⟨congrArg Reply.result he, rfl, fun _ => ⟨qs, hs⟩⟩
  | step s =>
    obtain ⟨he, hs⟩ := s.respects l m h
    exact ⟨congrArg Reply.answer he, rfl, fun _ => ⟨qs, hs⟩⟩

theorem begun : Alike qs l.state.begun m.state.begun := by
  have hc := h.of_session (h.shuffled.control .begin).2
  exact hc.counted (congrArg (· + 1) h.depth) rfl

/-- **Registries that are alike come to the same by a deed**, and are alike again, unless it is a
load that fails. -/
theorem done (d : Deed) :
    (d.done m).1 = (d.done l).1 ∧ d.isFailedLoad m = d.isFailedLoad l ∧
      (d.isFailedLoad l = false → ∃ qs', Alike qs' (d.done l).2.state (d.done m).2.state) := by
  cases d with
  | operation o => exact h.operation o
  | enter =>
    have ha := congrArg Sql.Connection.isAutocommit h.shuffled.connection
    simp only [Deed.done, Logged.entered, h.depth, Transactional.isAutocommit_session, ha]
    by_cases hd : 0 < l.state.depth
    · simp only [if_pos hd]
      exact ⟨trivial, rfl, fun _ => ⟨qs, h.deeper⟩⟩
    · cases l.state.session.connection.isAutocommit with
      | true =>
        simp only [if_neg hd, if_true]
        exact ⟨trivial, rfl, fun _ => ⟨qs, h.begun⟩⟩
      | false =>
        simp only [if_neg hd, Bool.false_eq_true, if_false]
        exact ⟨trivial, rfl, fun _ => ⟨qs, h⟩⟩
  | leave x =>
    obtain ⟨he, hs⟩ := respects_settle x _ _ h.shallower
    simp only [Deed.done, h.depth]
    split
    · exact ⟨congrArg Reply.result he, rfl, fun _ => ⟨qs, hs⟩⟩
    · split
      · exact ⟨rfl, rfl, fun _ => ⟨qs, h.shallower.marked _⟩⟩
      · exact ⟨rfl, rfl, fun _ => ⟨qs, h⟩⟩

/-- **Registries that are alike reply the same** for the rest of their history. -/
theorem replies (ds : List Deed) : replies m ds = replies l ds := by
  induction ds generalizing l m qs with
  | nil => rfl
  | cons d rest ih =>
    obtain ⟨he, hf, hs⟩ := h.done d
    rw [Registry.replies, Registry.replies, he, hf]
    cases hd : d.isFailedLoad l with
    | true => rfl
    | false =>
      obtain ⟨qs', hs⟩ := hs hd
      exact congrArg _ (ih hs)

end Alike

/-- The schema of a registry that is opened leaves no statement prepared. -/
theorem Opened.alike {r : Registry} (h : Opened r) : Alike [] r r := by
  obtain ⟨config, files, c, session, -, hr, rfl⟩ := h.cases
  have hp : session.prepared = [] := by
    have hn := preserves_runSchema (P := fun s => s.prepared = [])
      (fun sql hs => (Sql.Session.prepared_runFrom _ _ _).trans hs)
      (rfl : (Sql.Session.new c leastCapacity).prepared = []) config files
    rwa [hr] at hn
  refine ⟨fun name q hq => ?_, Nat.zero_le _, session, rfl,
    Sql.Session.Keeps.shuffled ⟨?_, fun text => ?_, Nat.zero_le _⟩⟩
  · simp [query?, new] at hq
  · change (session.prepared.map Prod.fst).Nodup
    rw [hp]
    exact List.nodup_nil
  · change text ∈ session.prepared.map Prod.fst ↔ text ∈ []
    rw [hp]
    exact Iff.rfl

/-- **As long as no load has failed the statements of the queries are kept**, and no others. -/
theorem Unspoilt.alike {r : Registry} (h : Unspoilt r) : ∃ qs, Alike qs r r := by
  induction h with
  | opened h => exact ⟨[], h.alike⟩
  | @done l _ d hd ih =>
    obtain ⟨qs, ha⟩ := ih
    exact (ha.done d).2.2 hd

end Registry

/-! ### Calls of queries -/

namespace Query

/-- The parameters of the statement of a query, by number, with their names where they have names.
-/
def parameters (q : Query) : List (Option String) := Sql.parametersOf (Text.trimmed q.sql)

/-- The names by which the values of the parameters are looked up. -/
def keys (q : Query) : List String := Sql.keys q.parameters

end Query

namespace Registry

/-- The statement of a query is there, or can be prepared in the database as it is. -/
def Finds (r : Registry) (q : Query) : Prop := r.session.Finds (Text.trimmed q.sql)

/-- A call in general, or by an accessor, which also asks for the kind of the query. -/
def callBy : Option Accessor → String → Params → Op Registry QueryOutput
  | none => call
  | some a => access a

/-- The query that such a call is for, or why there is none. -/
def foundBy (r : Registry) : Option Accessor → String → Except Error Query
  | none, name => r.found name
  | some a, name => r.chosen a name

/-- Two runs return the same and leave the same registry, whatever they have logged. -/
def SameEffect (x y : Except Error QueryOutput × Logged Registry) : Prop :=
  x.1 = y.1 ∧ x.2.state = y.2.state

/-- A run has executed the statement of a query with certain values, and fails if what that has
delivered cannot be read. -/
def Executes (l : Logged Registry) (q : Query) (values : List Value)
    (x : Except Error QueryOutput × Logged Registry) : Prop :=
  ∃ t p, l.state.session.find (Text.trimmed q.sql) = (t, .ok p) ∧
    let executed := t.execute (Text.trimmed q.sql) p values
    x.2.state = { l.state with session := executed.1 } ∧
      errorOf? x.1 = (errorOf? (readAs q.shape executed.2)).map (callError q)

/-- A run has executed nothing, so that no row was looked at and none was changed. -/
structure Unexecuted (l : Logged Registry) (q : Query) (r : Registry) : Prop where
  /-- The connection is as it was, but for one setting that a statement may make when it is
  prepared. -/
  untouched : ∃ session on, r = { l.state with session } ∧
    session.connection = l.state.session.connection.enforcing on
  /-- If the statement has been kept prepared, the setting is as it was as well. -/
  kept : (l.state.session.prepared.lookup (Text.trimmed q.sql)).isSome = true →
    r.session.connection = l.state.session.connection
  /-- As long as no load has failed, whatever is done next comes out as if nothing had been done. -/
  later : Unspoilt l.state → ∀ m : Logged Registry, m.state = r → ∀ ds, replies m ds = replies l ds

/-- How the calls of a query bind its parameters, by what they come to. -/
structure Binds (l : Logged Registry) (q : Query)
    (run : Params → Except Error QueryOutput × Logged Registry) : Prop where
  /-- Values under the names of the parameters are those of the parameters in their order. -/
  named : ∀ (r : Record) (values : List Value), q.keys.map r.get? = values.map some →
    SameEffect (run (.named r)) (run (.positional values))
  /-- If one of the names is missing, the first parameter is reported whose name is. -/
  missing : ∀ r : Record, (¬∃ values : List Value, q.keys.map r.get? = values.map some) →
    ∃ p, r.missing? q.parameters = some p ∧
      (l.state.Finds q → (run (.named r)).1 = .error (callError q (.parameterName p)))
  /-- As many values as there are parameters are bound in their order. -/
  accepted : ∀ values : List Value, values.length = q.parameters.length → l.state.Finds q →
    Executes l q (values.map Sql.bound) (run (.positional values))
  /-- Any other number of values is reported. -/
  refused : ∀ values : List Value, values.length ≠ q.parameters.length → l.state.Finds q →
    (run (.positional values)).1 =
      .error (callError q (.parameterCount values.length q.parameters.length))
  /-- No parameters are no values: both ways of giving none have the same effect. -/
  none : SameEffect (run .none) (run (.positional []))
  /-- Parameters that do not fit execute nothing, whatever it is about them that does not fit. -/
  unexecuted : ∀ params f, Sql.bindParameters q.parameters params = .error f →
    Unexecuted l q (run params).2.state
  /-- If the statement is not there and cannot be prepared, this is what is reported. -/
  unfound : ¬l.state.Finds q → ∃ f, ∀ params, (run params).1 = .error (callError q f)
  /-- As long as no load has failed, the statement is there, and need not be prepared to be called.
  -/
  found : Unspoilt l.state → l.state.Finds q

variable {l : Logged Registry} {q : Query} {way : Option Accessor} {name : String}
  {params params' : Params} {f : Sql.Failure}

theorem run_callBy (h : l.state.foundBy way name = .ok q) (params : Params) :
    (callBy way name params).run.run l = (perform q params).run.run l := by
  cases way with
  | none =>
    change l.state.found name = .ok q at h
    change (call name params).run.run l = _
    rw [call, Op.run_bind, run_lookUp, h]
  | some a =>
    change l.state.chosen a name = .ok q at h
    change (access a name params).run.run l = _
    rw [run_access, h]

theorem Alike.mem_of_foundBy {r r' : Registry} (h : Alike qs r r')
    (hf : r.foundBy way name = .ok q) : q ∈ qs := by
  cases way with
  | none => exact h.mem_of_found hf
  | some a => exact h.mem_of_chosen hf

/-- What a query does depends on its parameters by the call of its statement. -/
theorem perform_congr
    (h : l.state.session.call q.sql params = l.state.session.call q.sql params') :
    SameEffect ((perform q params).run.run l) ((perform q params').run.run l) := by
  refine ⟨?_, ?_⟩
  · unfold perform
    split <;>
      simp only [Op.run_map, run_write, firstRow, everyRow, firstValue, everyValue, hasRow,
        run_invoke, written, Engine.call_session, h]
  · rw [state_run_perform, state_run_perform, Logged.invoked, Logged.invoked, Engine.call_session,
      Engine.call_session, h]

/-- A query whose statement cannot be called fails on account of that. -/
theorem fst_perform_of_error (h : (l.state.session.call q.sql params).2 = .error f) :
    ((perform q params).run.run l).1 = .error (callError q f) := by
  rw [← errorOf?_eq_some_iff, errorOf?_perform, failure?, Engine.call_session, h]
  rfl

theorem executes_perform {values : List Value}
    (h : l.state.session.Runs (Text.trimmed q.sql) values (l.state.session.call q.sql params)) :
    Executes l q values ((perform q params).run.run l) := by
  obtain ⟨t, p, hf, hc⟩ := h
  refine ⟨t, p, hf, ?_, ?_⟩
  · rw [state_run_perform, Logged.invoked, Engine.call_session, hc]
  · rw [errorOf?_perform, failure?, Engine.call_session, hc]
    rfl

/-- **Parameters that do not fit leave no trace**, as long as the statement is there. -/
theorem unexecuted_perform (hs : l.state.session.Sound)
    (hb : Sql.bindParameters q.parameters params = .error f)
    (hq : ∀ qs, Alike qs l.state l.state → q ∈ qs) :
    Unexecuted l q ((perform q params).run.run l).2.state := by
  have hstate : ((perform q params).run.run l).2.state =
      { l.state with session := (l.state.session.call q.sql params).1 } := by
    rw [state_run_perform, Logged.invoked, Engine.call_session]
  rw [hstate]
  refine ⟨?_, fun hk => ?_, fun hu m hm ds => ?_⟩
  · obtain ⟨on, hon⟩ := hs.exists_enforcing_call hb
    exact ⟨_, on, rfl, hon⟩
  · obtain ⟨p, hp⟩ := Option.isSome_iff_exists.mp hk
    rw [hs.call_of_kept hb hp]
    rfl
  · obtain ⟨qs, ha⟩ := hu.alike
    obtain ⟨p, hp⟩ := ha.shuffled.keeps.exists_lookup (mem_texts (hq _ ha))
    rw [hs.call_of_kept hb hp] at hm
    have hx : Alike qs l.state m.state :=
      ⟨ha.mem_of_query?, ha.length_le, _, hm, ha.shuffled.keeps.shuffled_keep hp⟩
    exact hx.replies ds

/-- **How calls bind their parameters**, in every registry and of every query. Values that come
under names are bound like the values that are looked up under the names of the parameters, whatever
else the record has and in whatever order; if one is missing, the first such parameter is reported.
Values in order are bound if there are as many as parameters, and otherwise both numbers are
reported. A call whose parameters do not fit executes nothing, and as long as no load has failed
everything that is done afterwards comes out as if it had not been made. -/
theorem parameters_bound (hr : Reachable l.state) (hq : l.state.foundBy way name = .ok q) :
    Binds l q fun params => (callBy way name params).run.run l := by
  have hs := hr.sound
  have he : ∀ {params f}, Sql.bindParameters q.parameters params = .error f → l.state.Finds q →
      ((perform q params).run.run l).1 = .error (callError q f) :=
    fun hb hf => fst_perform_of_error (hs.error_of_unbound hb hf)
  simp only [run_callBy hq]
  exact {
    named := fun r values hv =>
      perform_congr (hs.call_congr (Sql.bindParameters_named hv))
    missing := fun r hn => by
      cases hm : r.missing? q.parameters with
      | none => exact absurd (Sql.exists_supplied hm) hn
      | some p => exact ⟨p, rfl, he (Sql.bindParameters_missing hm)⟩
    accepted := fun values hl hf =>
      executes_perform (hs.runs_of_bound (if_pos hl) hf)
    refused := fun values hl hf => he (if_neg hl) hf
    none := perform_congr (hs.call_congr rfl)
    unexecuted := fun params f hb =>
      unexecuted_perform hs hb fun qs ha => ha.mem_of_foundBy hq
    unfound := fun hn => by
      obtain ⟨t, f, hc⟩ := (l.state.session.finds_or_fails q.sql).resolve_left hn
      exact ⟨f, fun params => fst_perform_of_error (congrArg Prod.snd (hc params))⟩
    found := fun hu => by
      obtain ⟨qs, ha⟩ := hu.alike
      obtain ⟨p, hp⟩ := ha.shuffled.keeps.exists_lookup (mem_texts (ha.mem_of_foundBy hq))
      exact ⟨_, p, Sql.Session.find_of_lookup_eq_some hp⟩ }

/-! ### Statements that are prepared anew -/

/-- A query is found in a registry in memory if its load has not failed. -/
theorem unspoilt_memoryWith {sql text : String} {q : Query}
    (h : (memoryWith sql text).state.query? name = some q) :
    Unspoilt (memoryWith sql text).state := by
  rw [memoryWith] at h ⊢
  cases ho : openInMemory sql with
  | error e =>
    rw [ho] at h
    cases h
  | ok r =>
    rw [ho] at h
    have hopened : Opened r := ⟨_, _, ho⟩
    have hl := loads_loadText text ⟨r, "store", []⟩
    refine Unspoilt.done (l := ⟨r, "store", []⟩) (.opened hopened) (.operation (.loadText text)) ?_
    change (!((loadText text).run.run ⟨r, "store", []⟩).1.isOk) = false
    cases hr : ((loadText text).run.run ⟨r, "store", []⟩).1 with
    | ok _ => rfl
    | error e =>
      rw [hr] at hl
      cases hl with
      | failed _ hl =>
        obtain ⟨config, files, c, session, -, -, rfl⟩ := hopened.cases
        rw [query?, hl.restored.queries] at h
        simp [new] at h

theorem Reachable.loads (h : Reachable l.state) (texts : List String) :
    Reachable (texts.foldl (fun l text => ((loadText text).run.run l).2) l).state := by
  induction texts generalizing l with
  | nil => exact h
  | cons text rest ih => exact ih (h.move (.loadText text l))

/-- Persons, who may be children of others, and who have to be there to be parents. -/
def familySchema : String := "create table p (id integer primary key, of references p)"

/-- Queries that set whether the parent of a child must be there, and one that adds a child. -/
def familyQueries : String :=
  "-- :name off :run\npragma foreign_keys = off
-- :name on :run\npragma foreign_keys = on
-- :name add :insert\ninsert into p values (1, :of)\n"

/-- The registry of these queries. -/
def family : Logged Registry := memoryWith familySchema familyQueries

/-- The query that sets that the parent need not be there, if it is prepared outside of a
transaction. -/
def letOff : Query := ⟨"off", "pragma foreign_keys = off\n", 1, .run⟩

/-- The query that adds a child. -/
def addChild : Query := ⟨"add", "insert into p values (1, :of)\n", 5, .insert⟩

/-- A query, and another one of the same name, for which the whole text fails to load. -/
def twice (n : Nat) : String :=
  "-- :name n :one\nselect " ++ toString n ++ "\n-- :name n :one\nselect 0\n"

/-- The registry once loads have failed until no statement of a query is left. -/
def crowdedOut : Logged Registry :=
  ((List.range 16).map twice).foldl (fun l text => ((loadText text).run.run l).2) family

/-- The registry once a query without parameters has been called with a value. -/
def switchedOff : Logged Registry :=
  ((call "off" (.positional [.integer 7])).run.run crowdedOut).2

theorem run_family :
    family.state.query? "add" = some addChild ∧ addChild.parameters = [some ":of"] ∧
      crowdedOut.state.query? "off" = some letOff ∧
      ((call "off" (.positional [.integer 7])).run.run crowdedOut).1 =
        .error (callError letOff (.parameterCount 1 0)) ∧
      ((call "add" (.positional [.integer 7])).run.run crowdedOut).1 =
        .error (.queryExecution "add" "FOREIGN KEY constraint failed" (some 787)) ∧
      ((call "add" (.positional [.integer 7])).run.run switchedOff).1 = .ok (.insertId 1) := by
  decide +kernel

/-- The call that adds a child wants one value. -/
theorem parameters_bound_family :
    Unspoilt family.state ∧ family.state.foundBy none "add" = .ok addChild ∧
      (Binds family addChild fun params => (callBy none "add" params).run.run family) ∧
      ((callBy none "add" (.positional [])).run.run family).1 =
        .error (callError addChild (.parameterCount 0 1)) := by
  obtain ⟨hq, hp, -⟩ := run_family
  have hu : Unspoilt family.state := unspoilt_memoryWith hq
  generalize family = l at hq hu ⊢
  have hf : l.state.foundBy none "add" = .ok addChild := found_of_query? hq
  have hb := parameters_bound hu.reachable hf
  refine ⟨hu, hf, hb, ?_⟩
  have hr := hb.refused [] (by rw [hp]; decide) (hb.found hu)
  rwa [hp] at hr

/-- **A statement that is prepared anew may set what it is to set.** The call that has a value too
many fails, but as the statement had been given up it is prepared for it, and from then on a child
is added whose parent is not there. -/
theorem dropped_statement_sets :
    Reachable crowdedOut.state ∧ crowdedOut.state.query? "off" = some letOff ∧
      ((call "off" (.positional [.integer 7])).run.run crowdedOut).1 =
        .error (callError letOff (.parameterCount 1 0)) ∧
      ((call "add" (.positional [.integer 7])).run.run crowdedOut).1 =
        .error (.queryExecution "add" "FOREIGN KEY constraint failed" (some 787)) ∧
      ((call "add" (.positional [.integer 7])).run.run switchedOff).1 = .ok (.insertId 1) := by
  obtain ⟨hq, -, hoff⟩ := run_family
  have hr : Reachable crowdedOut.state := (unspoilt_memoryWith hq).reachable.loads _
  exact ⟨hr, hoff⟩

end Registry

end NamedSql
