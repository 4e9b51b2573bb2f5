import NamedSql.Proofs.Sql.Autocommit
import NamedSql.Proofs.Sql.Definitions
import NamedSql.Proofs.Sql.Stopping

/-!
# How a connection ages

What may put prepared statements out of date is counted: the definitions of tables, and what
concerns every statement. The counts are what a prepared statement is compared by, so they have to
tell all that matters. They do: as long as both of them stay, no table has another definition, and
no call means another function, with one exception. That holds of everything that is done with a
connection, a rollback included, which brings old definitions back but counts as a change.

## Scope

The exception are functions that take any number of arguments. One that is registered under the
name of a function that is always there hides it, and is not counted.

That rows are changed leaves definitions alone only if their table is there, as it is when the
statement has just been prepared. So plans are taken to fit the database here; that they do is
shown where statements are prepared.

## Main definitions

* `Function.Hides` — a function comes in the place of one that is always there
* `Plan.Fits` — the table whose rows a plan changes is there
* `Connection.Aligned` — a transaction can be brought back to its definitions, or has new ones
* `Connection.Follows` — one connection is another one at a later time
* `Connection.Evolves` — what keeps a connection aligned and makes it the later one

## Main results

* `Plan.definitions_of_change?` — a change of rows leaves the definitions alone, wherever it stops
* `Connection.evolves_control`, `Connection.evolves_define`, `Connection.evolves_addFunction` — what
  makes a connection older
* `Connection.evolves_perform` — statements do nothing to the definitions that is not counted
-/

namespace NamedSql.Sql

/-! ### Functions -/

namespace Function

/-- Some calls that could be meant for the function find one that is always there, as long as the
function is not registered. -/
def Hides (f : Function) : Prop :=
  ∃ count callee, f.accepts count = true ∧ builtIn f.name count = .found callee

/-- No two functions have the same name. -/
def Distinct (functions : List Function) : Prop :=
  functions.Pairwise fun f g => Token.sameName f.name g.name = false

/-- A function that comes in the place of none is added to the others. -/
theorem filter_not_replaces {functions : List Function} {f : Function}
    (h : functions.any f.replaces = false) :
    functions.filter (fun g => !f.replaces g) = functions := by
  rw [List.any_eq_false] at h
  exact List.filter_eq_self.mpr fun g hg => by rw [Bool.eq_false_iff.mpr (h g hg), Bool.not_false]

end Function

/-! ### Rows and definitions -/

namespace Database

variable {d : Database} {name : String} {t : Table}

theorem sameName_self (name : String) : Token.sameName name name = true := by
  rw [Token.sameName, beq_self_eq_true]

theorem sameName_of_sameName {s t u : String} (h : Token.sameName t u = true) :
    Token.sameName s t = Token.sameName s u := by
  rw [Token.sameName, beq_iff_eq] at h
  rw [Token.sameName, Token.sameName, h]

theorem definitions_putTable {tables : List Table} (rows : List Row)
    (h : tables.find? (fun t => Token.sameName t.name name) = some t) :
    (putTable { t with rows } tables).map Table.definition = tables.map Table.definition := by
  induction tables with
  | nil => cases h
  | cons u rest ih =>
    rw [List.find?_cons] at h
    cases hu : Token.sameName u.name name with
    | true =>
      rw [hu] at h
      cases h
      rw [putTable, if_pos (sameName_self _)]
      rfl
    | false =>
      rw [hu] at h
      change rest.find? _ = some t at h
      have hn := List.find?_some (p := fun t : Table => Token.sameName t.name name) h
      have hs : Token.sameName u.name t.name = false := by
        rw [sameName_of_sameName hn]
        exact hu
      rw [putTable, if_neg (Bool.eq_false_iff.mp hs)]
      exact congrArg (u.definition :: ·) (ih h)

/-- A table is found under its own name too. -/
theorem find?_name (h : d.find? name = some t) : d.find? t.name = some t := by
  have hn := List.find?_some (p := fun t : Table => Token.sameName t.name name) h
  have hp : (fun u : Table => Token.sameName u.name t.name) =
      fun u => Token.sameName u.name name := funext fun u => sameName_of_sameName hn
  rw [find?, hp]
  exact h

/-- Other rows in a table leave the definitions as they are. -/
theorem definitions_put (h : d.find? name = some t) (rows : List Row) :
    (d.put { t with rows }).definitions = d.definitions :=
  definitions_putTable rows h

theorem isSome_find?_of_definitions {d' : Database} (h : d'.definitions = d.definitions)
    (name : String) : (d'.find? name).isSome = (d.find? name).isSome := by
  rw [← Option.isSome_map (f := Table.definition), map_definition_find?, h, ← map_definition_find?,
    Option.isSome_map]

end Database

namespace Plan

/-- The table whose rows a plan changes is there. -/
def Fits (p : Plan) (d : Database) : Prop :=
  ∀ table, p.changed? = some table → (d.find? table).isSome = true

theorem Fits.of_changed? {p : Plan} {d : Database} {name : String} (hp : p.changed? = some name)
    (hn : (d.find? name).isSome = true) : p.Fits d := by
  intro table ht
  rw [hp] at ht
  cases ht
  exact hn

theorem Fits.of_changed?_eq_none {p : Plan} {d : Database} (hp : p.changed? = none) : p.Fits d := by
  intro table ht
  rw [hp] at ht
  cases ht

theorem fits_of_definitions {p : Plan} {d d' : Database} (h : d'.definitions = d.definitions)
    (hp : p.Fits d) : p.Fits d' := by
  intro table ht
  rw [Database.isSome_find?_of_definitions h]
  exact hp table ht

/-- A change of rows leaves the definitions of the tables as they are. -/
theorem definitions_of_change? {p : Plan} {parameters : List Value} {c change : Change}
    {stop : Option Stop} (hf : p.Fits c.database)
    (hp : p.change? parameters c = some (change, stop)) :
    change.database.definitions = c.database.definitions := by
  have hrows : ∀ table, p.changed? = some table → ∀ d : Database,
      d.definitions = c.database.definitions →
      ∀ rows, (d.put { (d.find? table).getD default with rows }).definitions =
        c.database.definitions := by
    intro table ht d hd rows
    have hs := hf table ht
    rw [← Database.isSome_find?_of_definitions hd] at hs
    obtain ⟨t, ht⟩ := Option.isSome_iff_exists.mp hs
    rw [ht]
    exact (Database.definitions_put ht rows).trans hd
  exact (ends_of_change? (P := fun d _ => d.definitions = c.database.definitions)
    (Q := fun _ => True) (fun _ => trivial)
    (fun table ht => ⟨fun d _ _ hd => hrows table ht d hd _, fun d _ _ hd => hrows table ht d hd _⟩)
    (fun _ => trivial) (Or.inr fun _ _ _ => id) rfl hp).1

end Plan

theorem Age.eq_of_fields {a b : Age} (hd : a.definitions = b.definitions) (ha : a.all = b.all) :
    a = b := by
  cases a
  cases b
  cases hd
  cases ha
  rfl

namespace Connection

variable {c c' c'' : Connection}

/-! ### How a connection ages -/

/-- What an open transaction can be brought back to has the definitions that there are now, unless
the transaction has made new ones. -/
def Aligned (c : Connection) : Prop :=
  ∀ t, c.transaction = some t → t.redefined = false →
    t.before.definitions = c.database.definitions ∧
      ∀ s ∈ t.savepoints, s.database.definitions = c.database.definitions

/-- The second connection is the first at a later time, as far as prepared statements are concerned:
as long as it is not older, the tables have the same definitions, and no call means another
function, unless a function was registered that takes any number of arguments, or two that have one
name. -/
structure Follows (c c' : Connection) : Prop where
  all : c.age.all ≤ c'.age.all
  definitions : c.age.definitions ≤ c'.age.definitions
  tables : c'.age = c.age → c'.database.definitions = c.database.definitions
  functions : c'.age.all = c.age.all → ∃ more, c'.functions = c.functions ++ more ∧
    (Function.Distinct c'.functions → ∀ f ∈ more, f.arity.isSome = true → ¬f.Hides)

theorem Follows.trans (h : c.Follows c') (h' : c'.Follows c'') : c.Follows c'' where
  all := Nat.le_trans h.all h'.all
  definitions := Nat.le_trans h.definitions h'.definitions
  tables := fun he => by
    have hm : c'.age = c.age := Age.eq_of_fields
      (Nat.le_antisymm (he ▸ h'.definitions) h.definitions) (Nat.le_antisymm (he ▸ h'.all) h.all)
    rw [h'.tables (he.trans hm.symm), h.tables hm]
  functions := fun he => by
    have hm : c'.age.all = c.age.all := Nat.le_antisymm (he ▸ h'.all) h.all
    obtain ⟨more, hf, hh⟩ := h.functions hm
    obtain ⟨more', hf', hh'⟩ := h'.functions (he.trans hm.symm)
    refine ⟨more ++ more', by rw [hf', hf, List.append_assoc], fun hd f hm => ?_⟩
    have hd' := hd
    rw [hf'] at hd'
    exact (List.mem_append.mp hm).elim (hh (List.pairwise_append.mp hd').1 f) (hh' hd f)

theorem follows_of_age (ha : c'.age = c.age) (hf : c'.functions = c.functions)
    (hd : c'.database.definitions = c.database.definitions) : c.Follows c' where
  all := Nat.le_of_eq (congrArg Age.all ha).symm
  definitions := Nat.le_of_eq (congrArg Age.definitions ha).symm
  tables := fun _ => hd
  functions := fun _ => ⟨[], by rw [hf, List.append_nil], fun _ => nofun⟩

theorem Follows.refl (c : Connection) : c.Follows c := follows_of_age rfl rfl rfl

/-- An aligned connection stays aligned and becomes the other one. -/
def Evolves (c c' : Connection) : Prop := c.Aligned → c'.Aligned ∧ c.Follows c'

theorem Evolves.refl (c : Connection) : c.Evolves c := fun h => ⟨h, .refl c⟩

theorem Evolves.trans (h : c.Evolves c') (h' : c'.Evolves c'') : c.Evolves c'' := by
  intro ha
  obtain ⟨ha', hf⟩ := h ha
  obtain ⟨ha'', hf'⟩ := h' ha'
  exact ⟨ha'', hf.trans hf'⟩

/-! #### What leaves the age alone -/

/-- The second connection is as old as the first and has the same definitions and functions; what
its transaction can be brought back to, the transaction of the first can. -/
structure Keeps (c c' : Connection) : Prop where
  age : c'.age = c.age
  functions : c'.functions = c.functions
  definitions : c'.database.definitions = c.database.definitions
  transaction : ∀ t', c'.transaction = some t' → ∃ t, c.transaction = some t ∧
    t'.before = t.before ∧ t'.savepoints ⊆ t.savepoints ∧ t'.redefined = t.redefined

theorem Keeps.of_transaction (ha : c'.age = c.age) (hf : c'.functions = c.functions)
    (hd : c'.database.definitions = c.database.definitions)
    (ht : c'.transaction = c.transaction) : c.Keeps c' :=
  ⟨ha, hf, hd, fun t h => ⟨t, ht ▸ h, rfl, fun _ => id, rfl⟩⟩

theorem Keeps.of_transaction_eq_none (ha : c'.age = c.age) (hf : c'.functions = c.functions)
    (hd : c'.database.definitions = c.database.definitions) (ht : c'.transaction = none) :
    c.Keeps c' := by
  refine ⟨ha, hf, hd, fun t' ht' => ?_⟩
  rw [ht] at ht'
  cases ht'

theorem Keeps.refl (c : Connection) : c.Keeps c := .of_transaction rfl rfl rfl rfl

theorem Keeps.trans (h : c.Keeps c') (h' : c'.Keeps c'') : c.Keeps c'' where
  age := h'.age.trans h.age
  functions := h'.functions.trans h.functions
  definitions := h'.definitions.trans h.definitions
  transaction := fun t'' ht'' => by
    obtain ⟨t', ht', hb', hs', hr'⟩ := h'.transaction t'' ht''
    obtain ⟨t, ht, hb, hs, hr⟩ := h.transaction t' ht'
    exact ⟨t, ht, hb'.trans hb, fun s hm => hs (hs' hm), hr'.trans hr⟩

theorem Keeps.aligned (h : c.Keeps c') (ha : c.Aligned) : c'.Aligned := by
  intro t' ht' hr'
  obtain ⟨t, ht, hb, hs, hr⟩ := h.transaction t' ht'
  obtain ⟨hbefore, hsaved⟩ := ha t ht (hr ▸ hr')
  rw [h.definitions, hb]
  exact ⟨hbefore, fun s hm => hsaved s (hs hm)⟩

theorem Keeps.evolves (h : c.Keeps c') : c.Evolves c' :=
  fun ha => ⟨h.aligned ha, follows_of_age h.age h.functions h.definitions⟩

theorem keeps_changes (c : Connection) (count : Nat) : c.Keeps { c with changes := count } :=
  .of_transaction rfl rfl rfl rfl

theorem keeps_wrote (c : Connection) : c.Keeps c.wrote := by
  refine ⟨rfl, rfl, rfl, fun t' ht' => ?_⟩
  obtain ⟨t, ht, rfl⟩ := Option.map_eq_some_iff.mp ht'
  exact ⟨t, ht, rfl, fun _ => id, rfl⟩

theorem keeps_changing (c : Connection) (change : Change) : c.Keeps (c.changing change) := by
  have h : c.Keeps { c with lastRowid := change.lastRowid.getD c.lastRowid, changes := 0 } :=
    .of_transaction rfl rfl rfl rfl
  rw [changing]
  split
  · exact h
  · exact h.trans (keeps_wrote _)

theorem keeps_undo {d : Database} (hd : d.definitions = c.database.definitions) :
    c.Keeps (c.undo d) := by
  unfold undo
  repeat' split
  all_goals first | exact .refl c | exact .of_transaction rfl rfl hd rfl

theorem keeps_keep {d : Database} (hd : d.definitions = c.database.definitions) (deferred : Int) :
    c.Keeps (c.keep d deferred).1 := by
  rw [keep]
  split
  · rename_i t ht
    refine ⟨rfl, rfl, hd, fun t' ht' => ?_⟩
    cases ht'
    exact ⟨t, ht, rfl, fun _ => id, rfl⟩
  · split
    · exact .refl c
    · exact .of_transaction rfl rfl hd rfl

theorem keeps_of_keep {d : Database} {deferred : Int} {f : Option Fault}
    (hd : d.definitions = c.database.definitions) (he : c.keep d deferred = (c', f)) :
    c.Keeps c' := by
  have hk := keeps_keep hd deferred
  rwa [he] at hk

theorem keeps_journalMode (c : Connection) (word : Option String) :
    c.Keeps (c.journalMode word).1 := by
  unfold journalMode changeMode
  dsimp only
  repeat' split
  all_goals exact .of_transaction rfl rfl rfl rfl

/-! #### What makes a connection older -/

theorem Aligned.of_transaction_eq_none (h : c.transaction = none) : c.Aligned := by
  intro t ht
  rw [h] at ht
  cases ht

theorem Aligned.of_redefined (h : ∀ t, c.transaction = some t → t.redefined = true) :
    c.Aligned := by
  intro t ht hr
  rw [h t ht] at hr
  cases hr

/-- What is older by what concerns all statements may have come of anything. -/
theorem follows_of_all_lt (ha : c.age.all < c'.age.all)
    (hd : c.age.definitions ≤ c'.age.definitions) : c.Follows c' where
  all := Nat.le_of_lt ha
  definitions := hd
  tables := fun he => absurd (congrArg Age.all he) (Nat.ne_of_gt ha)
  functions := fun he => absurd he (Nat.ne_of_gt ha)

theorem evolves_expire (c : Connection) : c.Evolves c.expire :=
  fun ha => ⟨ha, follows_of_all_lt (Nat.lt_succ_self _) (Nat.le_refl _)⟩

/-- New definitions make a connection older, and its transaction will not be taken for one that
has the old ones. -/
theorem evolves_define (c : Connection) (d : Database) : c.Evolves (c.define d) := by
  intro ha
  refine ⟨.of_redefined fun t' ht' => ?_, ?_⟩
  · obtain ⟨t, -, rfl⟩ := Option.map_eq_some_iff.mp ht'
    rfl
  · exact
      { all := Nat.le_refl _
        definitions := Nat.le_succ _
        tables := fun he => absurd (congrArg Age.definitions he) (Nat.succ_ne_self _)
        functions := fun _ => ⟨[], (List.append_nil _).symm, fun _ => nofun⟩ }

theorem addFunction_of_not_outdates {f : Function} (h : c.outdates f = false) :
    c.addFunction f = { c with functions := c.functions ++ [f] } := by
  rw [outdates, Bool.or_eq_false_iff] at h
  rw [addFunction, outdates, h.1, h.2, Function.filter_not_replaces h.1]
  rfl

/-- A function that puts nothing out of date hides no function that is always there, if it takes a
certain number of arguments and there was no other one of its name. -/
theorem not_hides_of_not_outdates {f : Function} (h : c.outdates f = false)
    (hd : Function.Distinct (c.functions ++ [f])) (hs : f.arity.isSome = true) : ¬f.Hides := by
  rintro ⟨count, callee, hc, hb⟩
  obtain ⟨arity, hf⟩ := Option.isSome_iff_exists.mp hs
  rw [Function.accepts, hf, Option.all_some, beq_iff_eq] at hc
  have hother : ∀ g ∈ c.functions, Token.sameName g.name f.name = false := fun g hg =>
    (List.pairwise_append.mp hd).2.2 g hg f List.mem_cons_self
  rw [outdates, Bool.or_eq_false_iff, hf, Option.any_some, hc,
    Function.resolve_eq_builtIn hother, Function.isBuiltIn_of_builtIn hb] at h
  cases h.2

/-- A function in whose place another one comes makes the connection older, as does one that hides a
function that is always there, if it takes a certain number of arguments. -/
theorem evolves_addFunction (c : Connection) (f : Function) : c.Evolves (c.addFunction f) := by
  intro ha
  cases ho : c.outdates f with
  | true =>
    rw [addFunction, if_pos ho]
    exact ⟨ha, follows_of_all_lt (Nat.lt_succ_self _) (Nat.le_refl _)⟩
  | false =>
    rw [addFunction_of_not_outdates ho]
    have hf : Function.Distinct (c.functions ++ [f]) → ∀ g ∈ [f], g.arity.isSome = true →
        ¬g.Hides := fun hd => List.forall_mem_singleton.mpr (not_hides_of_not_outdates ho hd)
    exact ⟨ha,
      { all := Nat.le_refl _
        definitions := Nat.le_refl _
        tables := fun _ => rfl
        functions := fun _ => ⟨[f], rfl, hf⟩ }⟩

/-! #### Control -/

/-- What a rollback brings back has the old definitions, and if there were new ones it makes the
connection older. -/
theorem evolves_rollBack (c : Connection) : c.Evolves c.rollBack := by
  intro ha
  rw [rollBack]
  extract_lets restored
  have hn : restored.transaction = none := rfl
  cases hr : c.hasRedefined with
  | true =>
    rw [if_pos rfl]
    exact ⟨.of_transaction_eq_none hn, follows_of_all_lt (Nat.lt_succ_self _) (Nat.le_refl _)⟩
  | false =>
    rw [if_neg Bool.false_ne_true]
    refine Keeps.evolves (.of_transaction_eq_none rfl rfl ?_ hn) ha
    change (if c.goesBack then c.committed else c.database).definitions = _
    split
    · rw [committed]
      cases ht : c.transaction with
      | none => rfl
      | some t =>
        rw [hasRedefined, ht] at hr
        exact (ha t ht hr).1
    · rfl

/-- A savepoint that is gone back to has the old definitions too. -/
theorem evolves_backTo {t : Transaction} {s : Savepoint} {earlier : List Savepoint}
    (open_ : c.transaction = some t) (kept : s :: earlier ⊆ t.savepoints) :
    c.Evolves (c.backTo t s earlier) := by
  have ht := c.transaction_backTo t s earlier
  cases hr : t.redefined with
  | true =>
    refine fun _ => ⟨.of_redefined fun t' ht' => ?_, ?_⟩
    · rw [ht] at ht'
      cases ht'
      exact hr
    · rw [backTo, hr, if_pos rfl]
      exact follows_of_all_lt (Nat.lt_succ_self _) (Nat.le_refl _)
  | false =>
    have hb : (c.backTo t s earlier).age = c.age ∧
        (c.backTo t s earlier).functions = c.functions := by
      rw [backTo, hr, if_neg Bool.false_ne_true]
      exact ⟨rfl, rfl⟩
    refine fun ha => Keeps.evolves ⟨hb.1, hb.2, ?_, fun t' ht' => ?_⟩ ha
    · rw [database_backTo]
      split
      · exact (ha t open_ hr).2 s (kept List.mem_cons_self)
      · rfl
    · rw [ht] at ht'
      cases ht'
      exact ⟨t, open_, rfl, kept, rfl⟩

theorem evolves_control (c : Connection) (command : Control) :
    c.Evolves (c.control command).1 := by
  have hc := c.controlled_control command
  generalize c.control command = controlled at hc
  cases hc with
  | refused f => exact .refl c
  | began closed before saved =>
    refine fun _ => ⟨fun t ht _ => ?_, follows_of_age rfl rfl rfl⟩
    cases ht
    exact ⟨congrArg Database.definitions before,
      fun s hm => congrArg Database.definitions (saved s hm)⟩
  | committed open_ => exact Keeps.evolves (.of_transaction_eq_none rfl rfl rfl rfl)
  | rolledBack open_ => exact c.evolves_rollBack
  | marked open_ name =>
    refine fun ha => ⟨fun t' ht' hr => ?_, follows_of_age rfl rfl rfl⟩
    cases ht'
    obtain ⟨hb, hs⟩ := ha _ open_ hr
    exact ⟨hb, List.forall_mem_cons.mpr ⟨rfl, hs⟩⟩
  | released open_ kept =>
    refine Keeps.evolves ⟨rfl, rfl, rfl, fun t' ht' => ?_⟩
    cases ht'
    exact ⟨_, open_, rfl, kept, rfl⟩
  | wentBack open_ kept => exact evolves_backTo open_ kept

/-! ### Statements -/

theorem evolves_applyChange {change : Change}
    (hd : change.database.definitions = c.database.definitions)
    (stop : Option Stop) : c.Evolves (c.applyChange change stop).1 := by
  have hk := c.keeps_changing change
  have hd' : change.database.definitions = (c.changing change).database.definitions :=
    hd.trans hk.definitions.symm
  have he := c.ending_applyChange change stop
  generalize c.applyChange change stop = ended at he
  cases he with
  | @kept e o keep output =>
    exact ((hk.trans (keeps_of_keep hd' keep)).trans (keeps_changes e change.count)).evolves
  | undone fault rows => exact (hk.trans (keeps_undo hd')).evolves
  | rolledBack f open_ =>
    refine Evolves.trans (Keeps.evolves (hk.trans ?_)) (evolves_rollBack _)
    exact .of_transaction rfl rfl hd' rfl

theorem definitions_emptied (c : Connection) {t : Table} {name : String}
    (ht : c.database.find? name = some t) (keys : KeyChecks) :
    (c.emptied t keys).1.definitions = c.database.definitions := by
  have hs : (c.database.find? t.name).isSome = true := by
    rw [Database.find?_name ht]
    rfl
  have hrows : ∀ (rows : List Row) (p : Database × Missing),
      p.1.definitions = c.database.definitions →
      (rows.foldl (fun p r =>
        let t := (p.1.find? t.name).getD t
        (p.1.put (t.erase r.rowid), p.2.dropping keys p.1 t r)) p).1.definitions =
        c.database.definitions := by
    intro rows
    induction rows with
    | nil => exact fun p => id
    | cons r rest ih =>
      intro p hp
      refine ih _ ?_
      have hf := hs
      rw [← Database.isSome_find?_of_definitions hp] at hf
      obtain ⟨u, hu⟩ := Option.isSome_iff_exists.mp hf
      dsimp only
      rw [hu]
      exact (Database.definitions_put hu _).trans hp
  exact hrows t.rows (c.database, ⟨0, c.deferred⟩) rfl

theorem evolves_dropTable {t : Table} {name : String} (ht : c.database.find? name = some t)
    (keys : KeyChecks) : c.Evolves (c.dropTable t keys).1 := by
  have hdef := c.definitions_emptied ht keys
  have hc := c.keeps_changes 0
  have hd := c.dropped_dropTable t keys
  generalize c.dropTable t keys = dropped at hd
  cases hd with
  | refused f => exact (hc.trans (keeps_undo hdef)).evolves
  | emptied keep =>
    refine Evolves.trans (Evolves.trans ?_ (evolves_define _ _)) (keeps_changes _ _).evolves
    exact (hc.trans (keeps_of_keep hdef keep)).evolves
  | erased same =>
    rcases same with rfl | rfl
    · exact evolves_define _ _
    · exact hc.evolves.trans (evolves_define _ _)

theorem evolves_addColumn (c : Connection) (p : ColumnPlan) : c.Evolves (c.addColumn p).1 := by
  unfold addColumn
  dsimp only
  split
  · exact .refl c
  · exact evolves_define _ _

theorem evolves_run {p : Plan} (hp : p.Fits c.database) (parameters : List Value) :
    c.Evolves (c.run parameters p).1 := by
  have hc : ∀ change stop, p.change? parameters c.beginChange = some (change, stop) →
      c.Evolves (c.applyChange change stop).1 := fun change stop h =>
    evolves_applyChange (Plan.definitions_of_change? (c := c.beginChange) hp h) stop
  cases p with
  | query q => exact .refl c
  | insert p => exact hc _ _ rfl
  | update p => exact hc _ _ rfl
  | delete p => exact hc _ _ rfl
  | createTable t =>
    cases t with
    | none => exact .refl c
    | some t => exact evolves_define _ _
  | dropTable table =>
    cases table with
    | none => exact .refl c
    | some dropped =>
      rw [run]
      split
      · exact .refl c
      · exact evolves_dropTable ‹_› _
  | addColumn p => exact c.evolves_addColumn p
  | control command => exact c.evolves_control command
  | journalMode word => exact (c.keeps_journalMode word).evolves
  | expire => exact c.evolves_expire
  | idle => exact .refl c

/-- **A statement that changes rows of a table that is there leaves the definitions of the tables
alone, or makes the connection older.** -/
theorem evolves_perform {p : Plan} (hp : p.Fits c.database) (parameters : List Value) :
    c.Evolves (c.perform parameters p).1 := by
  have hr := c.performed_perform parameters p
  generalize c.perform parameters p = performed at hr
  cases hr with
  | refused k writes count => exact Keeps.evolves (.of_transaction rfl rfl rfl rfl)
  | ran k =>
    have hk : c.Keeps { c with companions := k } := .of_transaction rfl rfl rfl rfl
    exact hk.evolves.trans (evolves_run (c := { c with companions := k }) hp parameters)

end Connection

end NamedSql.Sql
