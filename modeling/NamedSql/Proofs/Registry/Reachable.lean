import NamedSql.Proofs.Registry.Effects
import NamedSql.Proofs.Registry.Loading
import NamedSql.Registry.Functions

/-!
# Reachable registries

The registries that come of opening one and doing things with it: loading texts and files,
registering functions, and running steps, all of which may fail. A unit of work is one step if it is
looked at from outside. To speak of what is seen inside of it, its beginning and its end are moves
of their own, with any moves between them.

## Scope

A move is taken from the state of an operation to the state that the operation leaves; results and
logs are left out. Loads and registrations are moves at any depth, although a caller can do them
only outside of units of work; this makes more registries reachable and no law weaker. Moves are
those of a registry on any engine, but a registry is opened on a session.

## Main definitions

* `Registry.Opened` — registries as they are opened
* `Registry.Move`, `Registry.Leads` — one thing that is done with a registry, and any number of them
* `Registry.Reachable` — what an opened registry leads to
* `Registry.Within` — any number of moves inside of an open unit of work

## Main results

* `Registry.Opened.cases` — how a registry is opened
* `Registry.Move.cases` — a move is a load, a registration, or consists of effects
* `Registry.Leads.preserves`, `Registry.Reachable.preserves` — what these preserve holds of every
  reachable registry
* `Registry.Reachable.preserves_session` — the same for what holds of a session
* `Registry.unit_fails_of_marked` — a marked unit fails, whatever is done while it is open
* `Registry.Reachable.sound` — the prepared statements of a reachable registry are those of their
  texts
-/

namespace NamedSql

namespace Registry

/-! ### Opening -/

/-- The registry has just been opened, with whatever configuration. -/
def Opened (r : Registry) : Prop :=
  ∃ config l, ((Registry.open config).run.run l).1 = .ok r

/-- A registry is opened on a connection with its settings, on which the SQL of the configuration
has run. -/
theorem cases_of_open {config : Config} {l : Logged Files} {r : Registry}
    (h : ((Registry.open config).run.run l).1 = .ok r) :
    ∃ files c session, (∃ c₀, Sql.Connection.openAt config.location l.state = .ok (c₀, files) ∧
        c₀.configure = (c, .ok ())) ∧
      runSchema config files (.new c leastCapacity) = (session, .ok ()) ∧
      r = { Registry.new c config.verbose with session } := by
  rw [Registry.open, Op.run_bracket] at h
  dsimp only at h
  obtain ⟨m, hm, h⟩ : ∃ m : Logged Files, m.state = l.state ∧
      ((connect config).run.run m).1 = .ok r := ⟨_, l.state_noting _, h⟩
  rw [connect, Op.run_bind, Op.run_state] at h
  dsimp only at h
  rw [Op.run_bind, Op.run_ofResult] at h
  cases ho : Sql.Connection.openAt config.location m.state with
  | error e =>
    rw [ho] at h
    cases h
  | ok opened =>
    obtain ⟨c₀, files⟩ := opened
    rw [ho] at h
    dsimp only at h
    rw [Op.run_bind, Op.run_change] at h
    dsimp only at h
    rw [Op.run_bind, Op.run_ofResult] at h
    generalize hc : c₀.configure = configured at h
    obtain ⟨c, e | _⟩ := configured
    · cases h
    · dsimp only at h
      rw [Op.run_bind, Op.run_ofResult] at h
      cases hj : c.journalModeName with
      | error e =>
        rw [hj] at h
        cases h
      | ok mode =>
        rw [hj] at h
        dsimp only at h
        rw [Op.run_bind, Op.run_log] at h
        dsimp only at h
        generalize hr : runSchema config files (Registry.new c config.verbose).session = ran at h
        obtain ⟨session, e | _⟩ := ran
        · cases h
        · cases h
          exact ⟨files, c, session, ⟨c₀, by rw [← hm, ho], hc⟩, hr, rfl⟩

theorem Opened.cases {r : Registry} (h : Opened r) :
    ∃ config files c session, (∃ c₀ files₀, Sql.Connection.openAt config.location files₀ =
        .ok (c₀, files) ∧ c₀.configure = (c, .ok ())) ∧
      runSchema config files (.new c leastCapacity) = (session, .ok ()) ∧
      r = { Registry.new c config.verbose with session } := by
  obtain ⟨config, l, h⟩ := h
  obtain ⟨files, c, session, ⟨c₀, ho, hc⟩, hr, rfl⟩ := cases_of_open h
  exact ⟨config, files, c, session, ⟨c₀, l.state, ho, hc⟩, hr, rfl⟩

theorem isAutocommit_connect (f : Files) (l : Sql.Location) (place : Place)
    (journal : Sql.JournalMode) (spills : Bool) (d : Sql.Database) :
    (f.connect l place journal spills d).1.isAutocommit = true := by
  rw [Files.connect]
  dsimp only
  split <;> rfl

theorem isAutocommit_openDatabase {f : Files} {l : Sql.Location} {p : Sql.Connection × Files}
    (h : f.openDatabase l = some p) : p.1.isAutocommit = true := by
  obtain ⟨q, ho, rfl⟩ := Option.map_eq_some_iff.mp h
  change q.1.isAutocommit = true
  split at ho
  · cases ho
    rfl
  · split at ho
    · cases ho
      rfl
    · obtain ⟨place, -, ho⟩ := Option.bind_eq_some_iff.mp ho
      simp only [Files.openAt, Files.openAt.create] at ho
      repeat' split at ho
      all_goals first
        | contradiction
        | exact Option.some.inj ho ▸ rfl
        | exact Option.some.inj ho ▸ isAutocommit_connect ..

/-- No transaction is open on a connection that has just been opened and configured. -/
theorem isAutocommit_configure {location : String} {f files : Files} {c c' : Sql.Connection}
    {outcome : Except Error Unit} (ho : Sql.Connection.openAt location f = .ok (c, files))
    (hc : c.configure = (c', outcome)) : c'.isAutocommit = true := by
  have ha : c.isAutocommit = true := by
    rw [Sql.Connection.openAt] at ho
    split at ho
    · cases ho
    · split at ho
      · rename_i h
        cases ho
        exact isAutocommit_openDatabase h
      · cases ho
  have hj := Sql.Connection.origin_journalMode { c with foreignKeys := true } (some "WAL")
  rw [Sql.Connection.isAutocommit_iff] at ha ⊢
  rw [Sql.Connection.configure] at hc
  dsimp only at hc
  split at hc
  · cases hc
    exact hj.trans ha
  · cases hc
    exact hj.trans ha

/-! ### Moves -/

section

variable {σ : Type} [Engine σ]

/-- What may be done next with a registry: an operation from outside, or the beginning or the end of
a unit of work. -/
inductive Move : Registry σ → Registry σ → Prop
  | loadText (text : String) (l : Logged (Registry σ)) :
    Move l.state ((loadText text).run.run l).2.state
  | loadFile (f : Files) (path : String) (l : Logged (Registry σ)) :
    Move l.state ((loadFile f path).run.run l).2.state
  | registerFunction (name : String) (arity : Int)
      (body : List Value → Except Sql.FunctionFault Value)
      (complaint : Option Sql.Fault) (l : Logged (Registry σ)) :
    Move l.state ((registerFunction name arity body complaint).run.run l).2.state
  /-- A call, an insertion or a whole unit of work, with whatever is done inside of it. -/
  | step (s : Step) (l : Logged (Registry σ)) : Move l.state (s.run.run l).2.state
  /-- The body of an outermost unit starts, and no mark is left from an earlier one. -/
  | began {r : Registry σ} (hd : r.depth = 0) (hb : (Engine.control r.session .begin).2 = none) :
    Move r r.begun
  /-- The body of a unit inside another one starts, in the transaction of the outermost. -/
  | joined {r : Registry σ} (hd : 0 < r.depth) : Move r { r with depth := r.depth + 1 }
  /-- The body of the outermost unit has come to a result, and the transaction is committed or
  rolled back. -/
  | settled (x : Except Error Unit) {l : Logged (Registry σ)} (hd : l.state.depth = 1) :
    Move l.state ((settle x).run l.shallower).2.state
  /-- The body of a unit inside another one has come to a result. -/
  | left (failed : Bool) {l : Logged (Registry σ)} (hd : 1 < l.state.depth) :
    Move l.state (l.shallower.marked failed).state

/-- Any number of moves, from one registry to another. -/
abbrev Leads : Registry σ → Registry σ → Prop := Relation.ReflTransGen Move

theorem move_call (name : String) (params : Params) (l : Logged (Registry σ)) :
    Move l.state ((call name params).run.run l).2.state := by
  have h := Move.step (.call name params) l
  rwa [Step.run] at h

theorem move_insertOne (name : String) (record : Record) (l : Logged (Registry σ)) :
    Move l.state ((insertOne name record).run.run l).2.state := by
  have h := Move.step (.insertOne name record) l
  rwa [Step.run] at h

/-- A registration adds a function under a name that was free, or does nothing. -/
theorem state_run_registerFunction (name : String) (arity : Int)
    (body : List Value → Except Sql.FunctionFault Value)
    (complaint : Option Sql.Fault) (l : Logged (Registry σ)) :
    ((registerFunction name arity body complaint).run.run l).2.state = l.state ∨
      ∃ f, l.state.hasFunction f.name = false ∧
        ((registerFunction name arity body complaint).run.run l).2.state =
          l.state.addFunction f := by
  rw [registerFunction, Op.run_bracket]
  dsimp only
  rw [Logged.state_noting, Op.run_bind, Op.run_state]
  dsimp only
  split
  · exact Or.inl rfl
  · rename_i hn
    cases refusal? complaint name arity with
    | some cause => exact Or.inl rfl
    | none => exact Or.inr ⟨engineFunction name arity body, Bool.eq_false_iff.mpr hn, rfl⟩

/-- A move is a load or a registration, or it consists of effects. -/
theorem Move.cases {r r' : Registry σ} (h : Move r r') :
    Gained r r' ∨ (∃ f, r.hasFunction f.name = false ∧ r' = r.addFunction f) ∨
      Effects r r' := by
  cases h with
  | loadText text l => exact Or.inl (gained_loadText text l)
  | loadFile f path l => exact Or.inl (gained_loadFile f path l)
  | registerFunction name arity body complaint l =>
    rcases state_run_registerFunction name arity body complaint l with h | h
    · rw [h]
      exact Or.inr (Or.inr .refl)
    · exact Or.inr (Or.inl h)
  | step s l => exact Or.inr (Or.inr (s.works l))
  | began hd hb =>
    exact Or.inr (Or.inr ((effects_counted _ _ _).head (.controlled .begin)))
  | joined hd => exact Or.inr (Or.inr (effects_counted _ _ _))
  | @settled x l hd =>
    exact Or.inr (Or.inr ((effects_counted _ _ _).trans (works_settle x l.shallower)))
  | left failed hd => exact Or.inr (Or.inr (effects_counted _ _ _))

/-! ### Laws of runs -/

section

variable {P : Registry σ → Prop} (gained : ∀ {r r'}, Gained r r' → P r → P r')
  (function : ∀ {r} f, r.hasFunction f.name = false → P r → P (r.addFunction f))
  (effect : ∀ {r r'}, Effect r r' → P r → P r')
include gained function effect

/-- What loads, registrations and effects preserve is preserved by every run. -/
theorem Leads.preserves {r r' : Registry σ} (h : Leads r r') (hp : P r) : P r' := by
  induction h with
  | refl => exact hp
  | tail _ hm ih =>
    rcases hm.cases with hg | ⟨f, hf, rfl⟩ | he
    · exact gained hg ih
    · exact function f hf ih
    · clear hm
      induction he with
      | refl => exact ih
      | tail _ he ih => exact effect he ih

end

/-! ### Marks of failed units -/

/-- A load leaves the units of work alone that are open around it. -/
theorem Gained.units {r r' : Registry σ} (h : Gained r r') :
    r'.depth = r.depth ∧ r'.rollbackOnly = r.rollbackOnly := by
  cases h with
  | nothing prepared =>
    obtain ⟨session, rfl, -⟩ := prepared
    exact ⟨rfl, rfl⟩
  | added sources read accepted prepared hr =>
    obtain ⟨session, rfl, -⟩ := prepared
    rw [hr, addQueries_eq]
    exact ⟨rfl, rfl⟩

/-- The outermost unit stays marked as long as it is open. -/
theorem Move.rollbackOnly {r r' : Registry σ} (h : Move r r') (hd : 0 < r.depth)
    (hd' : 0 < r'.depth) (hm : r.rollbackOnly = true) : r'.rollbackOnly = true := by
  cases h with
  | loadText text l => exact (gained_loadText text l).units.2.trans hm
  | loadFile f path l => exact (gained_loadFile f path l).units.2.trans hm
  | registerFunction name arity body complaint l =>
    rcases state_run_registerFunction name arity body complaint l with h | ⟨f, -, h⟩
    · rw [h]
      exact hm
    · rw [h]
      exact hm
  | step s l =>
    rw [s.state_run hd]
    exact Bool.or_eq_true_iff.mpr (Or.inl hm)
  | began h₀ hb =>
    rw [h₀] at hd
    cases hd
  | joined _ => exact hm
  | @settled x l h₁ =>
    rw [state_run_settle] at hd'
    change 0 < l.state.depth - 1 at hd'
    rw [h₁] at hd'
    cases hd'
  | left failed _ => exact Bool.or_eq_true_iff.mpr (Or.inl hm)

/-- Any number of moves inside of an open unit of work, which stays open through all of them. -/
abbrev Within : Registry σ → Registry σ → Prop :=
  Relation.ReflTransGen fun r r' => Move r r' ∧ 0 < r'.depth

theorem Within.rollbackOnly {r r' : Registry σ} (h : Within r r') (hd : 0 < r.depth)
    (hm : r.rollbackOnly = true) : r'.rollbackOnly = true := by
  have hr : 0 < r'.depth ∧ r'.rollbackOnly = true := by
    induction h with
    | refl => exact ⟨hd, hm⟩
    | tail _ hs ih => exact ⟨hs.2, hs.1.rollbackOnly ih.1 hs.2 ih.2⟩
  exact hr.2

/-- **An outermost unit that has been marked fails, whatever its body returns.** Nothing that is
done while the unit is open removes the mark. -/
theorem unit_fails_of_marked [Transactional σ] {τ α : Type} {r : Registry σ} (hd : 0 < r.depth)
    (hm : r.rollbackOnly = true) (skipped : τ) (body : Action (Registry σ) (Outcome τ α))
    {l : Logged (Registry σ)} (hl : l.state.depth = 0)
    (hw : Within r (body.run { l with state := l.state.begun }).2.state) :
    ∃ e, ((unit skipped body).run l).1.result = .error e := by
  rw [run_unit_of_zero hl]
  cases ha : Transactional.isAutocommit l.state.session with
  | false =>
    rw [run_outermost_of_open ha]
    exact ⟨_, rfl⟩
  | true =>
    rw [run_outermost ha]
    dsimp only
    rw [fst_run_settle]
    have hb := hw.rollbackOnly hd hm
    cases (body.run { l with state := l.state.begun }).1.result with
    | error e => exact ⟨e, rfl⟩
    | ok a => exact ⟨.rollbackOnly, if_pos hb⟩

/-! ### Engines in a run -/

theorem Gained.preserves {P : σ → Prop}
    (readies : ∀ {s t : σ}, Engine.Readies s t → P s → P t) {r r' : Registry σ}
    (h : Gained r r') (hp : P r.session) : P r'.session := by
  cases h with
  | nothing prepared => exact prepared.preserves readies hp
  | added sources read accepted prepared hr =>
    have hs := prepared.preserves readies hp
    rw [hr, addQueries_eq]
    exact hs

variable {P : σ → Prop}

/-- What everything preserves that is done with an engine is preserved by every run. -/
theorem Leads.preserves_session {r r' : Registry σ} (h : Leads r r')
    (readies : ∀ {s t : σ}, Engine.Readies s t → P s → P t)
    (function : ∀ {s} f, P s → P (Engine.addFunction s f))
    (call : ∀ {s} sql params, P s → P (Engine.call s sql params).1)
    (control : ∀ {s} command, P s → P (Engine.control s command).1) (hp : P r.session) :
    P r'.session := by
  refine Leads.preserves (P := fun r => P r.session) (fun hg hs => hg.preserves readies hs)
    (fun f _ hs => function f hs) (fun he hs => ?_) h hp
  cases he with
  | executed i => exact call i.query.sql i.params hs
  | controlled command => exact control command hs
  | counted depth rollbackOnly => exact hs

end

/-! ### Reachable registries -/

/-- The registry comes of opening one and of moves, which is all that can have been done with it. -/
def Reachable (r : Registry) : Prop := ∃ r₀, Opened r₀ ∧ Leads r₀ r

theorem Opened.reachable {r : Registry} (h : Opened r) : Reachable r := ⟨r, h, .refl⟩

theorem Reachable.move {r r' : Registry} (h : Reachable r) (hm : Move r r') : Reachable r' := by
  obtain ⟨r₀, ho, hl⟩ := h
  exact ⟨r₀, ho, hl.tail hm⟩

/-- What loads, registrations and effects preserve holds of every reachable registry, if it holds of
every opened one. -/
theorem Reachable.preserves {P : Registry → Prop} (gained : ∀ {r r'}, Gained r r' → P r → P r')
    (function : ∀ {r} f, r.hasFunction f.name = false → P r → P (r.addFunction f))
    (effect : ∀ {r r'}, Effect r r' → P r → P r') {r : Registry} (h : Reachable r)
    (opened : ∀ {r}, Opened r → P r) : P r := by
  obtain ⟨r₀, ho, hl⟩ := h
  exact hl.preserves gained function effect (opened ho)

theorem Gained.untouched {r r' : Registry} (h : Gained r r') : Untouched r r' := by
  cases h with
  | nothing hp => exact hp.restored.toUntouched
  | added sources read accepted prepared hr =>
    rw [hr]
    exact { prepared.restored.toUntouched.addQueries _ with }

section

variable {P : Sql.Session → Prop} (batch : ∀ {s} sql, P s → P (s.runBatch sql).1)
include batch

theorem preserves_runSql {s : Sql.Session} (h : P s) (sql : String) : P (runSql s sql).1 := by
  have hb := batch sql h
  rw [runSql]
  split
  · rename_i t ht
    rwa [ht] at hb
  · rename_i t fault ht
    rwa [ht] at hb

theorem preserves_runSchema {s : Sql.Session} (h : P s) (config : Config) (f : Files) :
    P (runSchema config f s).1 := by
  have hf : P (runSchemaFile config f s).1 := by
    rw [runSchemaFile]
    split
    · exact h
    · split
      · exact preserves_runSql batch h _
      · exact h
  rw [runSchema]
  split
  · rename_i t sql ht _
    rw [ht] at hf
    exact preserves_runSql batch hf sql
  · exact hf

/-- What everything preserves that is done with a session holds of the session of every reachable
registry, if it holds of a new one. -/
theorem Reachable.preserves_session {r : Registry} (h : Reachable r)
    (readies : ∀ {s t : Sql.Session}, s.Readies t → P s → P t)
    (function : ∀ {s} f, P s → P { s with connection := s.connection.addFunction f })
    (call : ∀ {s} sql params, P s → P (s.call sql params).1)
    (control : ∀ {s} command, P s → P (s.control command).1)
    (new : ∀ {c : Sql.Connection}, c.isAutocommit = true → P (.new c leastCapacity)) :
    P r.session := by
  obtain ⟨r₀, hopened, hl⟩ := h
  refine hl.preserves_session (fun hs => readies hs.session) function call control ?_
  obtain ⟨config, files, c, session, ⟨c₀, files₀, ho, hc⟩, hr, rfl⟩ := hopened.cases
  have hn := preserves_runSchema batch (new (isAutocommit_configure ho hc)) config files
  rw [hr] at hn
  exact hn

end

/-- In every reachable registry the prepared statements are those of their texts. -/
theorem Reachable.sound {r : Registry} (h : Reachable r) : r.session.Sound :=
  h.preserves_session (fun sql hs => hs.runBatch sql) Sql.Session.Readies.sound (fun _ hs => hs)
    (fun sql params hs => hs.call sql params) (fun command hs => hs.control command)
    fun _ => Sql.Session.sound_new _ leastCapacity

/-! ### Registries in memory -/

/-- Opens a registry in memory, on which some SQL is run. -/
def openInMemory (sql : String) : Except Error Registry :=
  ((Registry.open { Config.memory with schemaSql := some sql }).run.run
    ⟨⟨"/", []⟩, "store", []⟩).1

/-- A registry in memory on which some SQL has run, and which has loaded a text. -/
def memoryWith (sql text : String) : Logged Registry :=
  match openInMemory sql with
  | .ok r => ((loadText text).run.run ⟨r, "store", []⟩).2
  | .error _ => ⟨.new .inMemory false, "store", []⟩

/-- A registry in memory in which a query is found has been opened. -/
theorem isOk_of_query? {sql text name : String} {q : Query}
    (h : (memoryWith sql text).state.query? name = some q) : (openInMemory sql).isOk = true := by
  rw [memoryWith] at h
  cases ho : openInMemory sql with
  | error e =>
    rw [ho] at h
    cases h
  | ok r => rfl

theorem reachable_memoryWith {sql : String} (text : String)
    (h : (openInMemory sql).isOk = true) : Reachable (memoryWith sql text).state := by
  rw [memoryWith]
  cases ho : openInMemory sql with
  | error e =>
    rw [ho] at h
    cases h
  | ok r => exact (Opened.reachable ⟨_, _, ho⟩).move (.loadText text ⟨r, "store", []⟩)

end Registry

end NamedSql
