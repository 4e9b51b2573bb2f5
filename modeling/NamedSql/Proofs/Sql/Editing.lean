import Mathlib.Algebra.Ring.Int.Defs
import NamedSql.Proofs.Sql.Storing
import NamedSql.Proofs.Sql.Tables

/-!
# Rows that a change edits

What a change of rows does to its table, edit by edit: a row is inserted, changed or deleted, or it
is displaced by another one that takes its place. Every edit is of a row that is there, or of one
that is not there yet where it is inserted. The statement asks for the edits that are not
displacements, one for each row that it is given or selects, and those are the ones that it counts.

## Scope

Only changes are looked at that come to their end; one that stops on its way is not counted. What
the rows hold is said of those only that are inserted (`InsertPlan.Enters`).

## Main definitions

* `Edit`, `Edit.isDirect` — what is done to a row, and whether the statement asks for it
* `Table.Becomes` — what some edits make of a table
* `InsertPlan.Does`, `UpdatePlan.Does`, `DeletePlan.Does` — what is done for one item of a statement
* `Treats`, `Plan.Edits` — what is done for all of them

## Main results

* `Table.Becomes.length` — how the number of rows goes with the edits
* `InsertPlan.of_store` — what is stored for the values that an insertion is given
* `InsertPlan.does_store`, `UpdatePlan.does_step`, `DeletePlan.does_step` — what a step does, and by
  how much it raises the count
* `Plan.edits_of_change?` — a change of rows edits them as its statement says, and counts the edits
  that the statement asks for
-/

namespace NamedSql.Sql

/-! ### Edits -/

/-- What is done to a row of a table, with the rows that are concerned. -/
inductive Edit where
  | insertion (r : Row)
  | change (old new : Row)
  | deletion (r : Row)
  /-- The row goes because another one takes its place, and not because the statement asks for it.
  -/
  | displacement (r : Row)

namespace Edit

/-- Whether a statement asks for the edit itself, and so counts it among its changes. -/
def isDirect : Edit → Bool
  | .displacement _ => false
  | _ => true

/-- By how much the edit raises the number of rows, which is less than nothing where one goes. -/
def growth : Edit → Int
  | .insertion _ => 1
  | .change .. => 0
  | .deletion _ | .displacement _ => -1

/-- The row is there, and no row is where one is to come. -/
def Fits (t : Table) : Edit → Prop
  | .insertion r => t.row? r.rowid = none
  | .change old new => t.row? old.rowid = some old ∧ (t.erase old.rowid).row? new.rowid = none
  | .deletion r | .displacement r => t.row? r.rowid = some r

/-- The table after the edit, if the edit fits the table. -/
def apply (t : Table) : Edit → Table
  | .insertion r => t.insert r
  | .change old new => (t.erase old.rowid).insert new
  | .deletion r | .displacement r => t.erase r.rowid

variable {t : Table}

theorem apply_name (e : Edit) : (e.apply t).name = t.name := by
  cases e <;> rfl

theorem wellFormed_apply (h : t.WellFormed) (e : Edit) : (e.apply t).WellFormed := by
  cases e with
  | insertion r => exact h.insert r
  | change old new => exact (h.erase _).insert new
  | deletion r => exact h.erase _
  | displacement r => exact h.erase _

theorem length_apply (h : t.WellFormed) {e : Edit} (he : e.Fits t) :
    ((e.apply t).rows.length : Int) = t.rows.length + e.growth := by
  cases e with
  | insertion r =>
    have hl := Table.length_insert he
    simp only [apply, growth]
    omega
  | change old new =>
    have hl := h.length_erase he.1
    have hl' := Table.length_insert he.2
    simp only [apply, growth]
    omega
  | deletion r =>
    have hl := h.length_erase he
    simp only [apply, growth]
    omega
  | displacement r =>
    have hl := h.length_erase he
    simp only [apply, growth]
    omega

/-- How many of some edits a statement asks for, which is the number that it counts. -/
def direct (es : List Edit) : Nat := es.countP isDirect

theorem direct_append (es fs : List Edit) : direct (es ++ fs) = direct es + direct fs :=
  List.countP_append

theorem direct_displaced (displaced : List Row) : direct (displaced.map .displacement) = 0 := by
  rw [direct, List.countP_map, List.countP_eq_zero]
  exact fun _ _ => nofun

end Edit

/-- What some edits make of a table, one after the other. Each fits the table that those before it
have made. -/
inductive Table.Becomes : Table → List Edit → Table → Prop
  | refl (t : Table) : Becomes t [] t
  | step {t u : Table} {e : Edit} {es : List Edit} (fits : e.Fits t)
      (rest : Becomes (e.apply t) es u) : Becomes t (e :: es) u

namespace Table

variable {t u v : Table} {es fs : List Edit}

theorem Becomes.trans (h : t.Becomes es u) (h' : u.Becomes fs v) : t.Becomes (es ++ fs) v := by
  induction h with
  | refl t => exact h'
  | step fits rest ih => exact .step fits (ih h')

theorem Becomes.single {e : Edit} (fits : e.Fits t) : t.Becomes [e] (e.apply t) :=
  .step fits (.refl _)

theorem Becomes.name (h : t.Becomes es u) : u.name = t.name := by
  induction h with
  | refl t => rfl
  | step fits rest ih => exact ih.trans (Edit.apply_name _)

theorem Becomes.wellFormed (h : t.Becomes es u) (ht : t.WellFormed) : u.WellFormed := by
  induction h with
  | refl t => exact ht
  | step fits rest ih => exact ih (Edit.wellFormed_apply ht _)

/-- **The number of rows goes with the edits**: it grows by their growth, taken together. -/
theorem Becomes.length (h : t.Becomes es u) (ht : t.WellFormed) :
    (u.rows.length : Int) = t.rows.length + (es.map Edit.growth).sum := by
  induction h with
  | refl t => simp
  | step fits rest ih =>
    rw [ih (Edit.wellFormed_apply ht _), Edit.length_apply ht fits, List.map_cons, List.sum_cons,
      Int.add_assoc]

/-- Displacing other rows leaves a row where it is. -/
theorem Becomes.row?_of_displaced {displaced : List Row} {rowid : Int64}
    (h : t.Becomes (displaced.map .displacement) u) (hne : ∀ r ∈ displaced, r.rowid ≠ rowid) :
    u.row? rowid = t.row? rowid := by
  induction displaced generalizing t with
  | nil =>
    cases h
    rfl
  | cons r rest ih =>
    obtain ⟨hr, hrest⟩ := List.forall_mem_cons.mp hne
    cases h with
    | step fits becomes => rw [ih becomes hrest, Edit.apply, row?_erase_of_ne (Ne.symm hr)]

/-- Displacing rows brings no row back. -/
theorem Becomes.row?_eq_none {displaced : List Row} {rowid : Int64}
    (h : t.Becomes (displaced.map .displacement) u) (hn : t.row? rowid = none) :
    u.row? rowid = none := by
  induction displaced generalizing t with
  | nil =>
    cases h
    exact hn
  | cons r rest ih =>
    cases h with
    | step fits becomes => exact ih becomes (row?_erase_eq_none hn _)

end Table

/-! ### What a statement does -/

/-- What is done for some items, one after the other, each as the table of that name is then. -/
inductive Treats {α : Type} (table : String)
    (does : α → Database → Table → List Edit → Prop) :
    List α → Database → List Edit → Database → Prop
  | nil (d : Database) : Treats table does [] d [] d
  | cons {a : α} {rest : List α} {d d' : Database} {t u : Table} {es fs : List Edit}
      (found : d.find? table = some t) (does_ : does a d t es) (becomes : t.Becomes es u)
      (rest_ : Treats table does rest (d.put u) fs d') :
      Treats table does (a :: rest) d (es ++ fs) d'

/-- All edits of a statement together are edits of its table. -/
theorem Treats.becomes {α : Type} {table : String}
    {does : α → Database → Table → List Edit → Prop} {items : List α} {d d' : Database} {t : Table}
    {es : List Edit} (h : Treats table does items d es d') (ht : d.find? table = some t) :
    ∃ u, t.Becomes es u ∧ d' = d.put u := by
  induction h generalizing t with
  | nil d => exact ⟨t, .refl t, (Database.put_self ht).symm⟩
  | @cons _ _ d d' t' u es fs found does_ becomes rest_ ih =>
    cases ht.symm.trans found
    obtain ⟨v, hv, rfl⟩ := ih (Database.find?_put ht becomes.name)
    exact ⟨v, becomes.trans hv, Database.put_put d hv.name⟩

/-- What an insertion does for a row that is given: it inserts a row, and displaces others only if
that is what it does about conflicts; or it leaves the row out, if that is what it does. -/
inductive InsertPlan.Does (p : InsertPlan) : List Edit → Prop
  | inserted (displaced : List Row) (r : Row)
      (replaces : p.conflict ≠ .replace → displaced = []) :
      Does p (displaced.map .displacement ++ [.insertion r])
  | leftOut (ignores : p.conflict = .ignore) : Does p []

/-- What a change of rows does for a rowid: it changes the row with the rowid, unless that row has
gone in the meantime, or is left out as it would violate a rule. -/
inductive UpdatePlan.Does (p : UpdatePlan) (rowid : Int64) (t : Table) : List Edit → Prop
  | changed (displaced : List Row) {old : Row} (new : Row) (same : old.rowid = rowid)
      (replaces : p.conflict ≠ .replace → displaced = []) :
      Does p rowid t (displaced.map .displacement ++ [.change old new])
  | leftOut (ignores : p.conflict = .ignore) : Does p rowid t []
  | gone (gone_ : t.row? rowid = none) : Does p rowid t []

/-- What a deletion does for a rowid: it deletes the row with the rowid, unless it is not there. -/
inductive DeletePlan.Does (rowid : Int64) (t : Table) : List Edit → Prop
  | deleted {old : Row} (same : old.rowid = rowid) : Does rowid t [.deletion old]
  | gone (gone_ : t.row? rowid = none) : Does rowid t []

namespace Selection

variable (rows : Selection) (values : List Value) (d : Database)

/-- A selection finds these rowids in a database, whatever else the change has come to. -/
def Finds (rowids : List Int64) : Prop :=
  ∃ missing c, (rows.rowids values).run (.start d missing) = .ok (rowids, c)

/-- A selection looks at these rows of a database, in this order. -/
def LooksAt (candidates : List Row) : Prop :=
  ∃ missing c, (rows.candidates values).run (.start d missing) = .ok (candidates, c)

/-- Whether a selection holds of a row, in a database and after what has been worked out before. -/
def Tells (r : Row) (holds : Bool) : Prop :=
  ∃ c e, c.database = d ∧ (rows.selects values r).run c = .ok (holds, e)

end Selection

/-- What a statement that changes rows does to a database: an insertion takes the rows that are
given, a deletion those that are selected, and so does a change of rows, which selects all of them
before the first one is changed, or each when its turn comes. -/
inductive Plan.Edits (values : List Value) (d : Database) : Plan → List Edit → Database → Prop
  | insert {p : InsertPlan} {es : List Edit} {d' : Database}
      (treats : Treats p.table (fun _ _ _ => p.Does) p.rows d es d') :
      Edits values d (.insert p) es d'
  | updateFound {p : UpdatePlan} {rowids : List Int64} {es : List Edit} {d' : Database}
      (ahead : p.ahead = true) (finds : p.rows.Finds values d rowids)
      (treats : Treats p.table (fun rowid _ t => p.Does rowid t) rowids d es d') :
      Edits values d (.update p) es d'
  | updateInTurn {p : UpdatePlan} {candidates : List Row} {es : List Edit} {d' : Database}
      (ahead : p.ahead = false) (looksAt : p.rows.LooksAt values d candidates)
      (treats : Treats p.table (fun r d t es =>
        p.rows.Tells values d r true ∧ p.Does r.rowid t es ∨
          p.rows.Tells values d r false ∧ es = []) candidates d es d') :
      Edits values d (.update p) es d'
  | delete {p : DeletePlan} {rowids : List Int64} {es : List Edit} {d' : Database}
      (finds : p.rows.Finds values d rowids)
      (treats : Treats p.table (fun rowid _ t => DeletePlan.Does rowid t) rowids d es d') :
      Edits values d (.delete p) es d'

/-! ### Steps that leave the rows alone -/

/-- Neither the rows nor their count have changed, and no row has been inserted. -/
structure Change.Still (c d : Change) : Prop where
  database : d.database = c.database
  count : d.count = c.count
  lastRowid : d.lastRowid = c.lastRowid

theorem Change.Still.refl (c : Change) : c.Still c := ⟨rfl, rfl, rfl⟩

theorem Change.Still.trans {c d e : Change} (h : c.Still d) (h' : d.Still e) : c.Still e :=
  ⟨h'.database.trans h.database, h'.count.trans h.count, h'.lastRowid.trans h.lastRowid⟩

namespace Changing

variable {α β : Type} {c d : Change} {a : α}

/-- The step leaves the rows and their count alone, whatever it makes of the rest. -/
def Calm (x : Changing α) : Prop := ∀ c a d, x.run c = .ok (a, d) → c.Still d

theorem calm_pure (a : α) : Calm (pure a) := by
  intro c b d h
  cases h
  exact .refl c

theorem calm_bind {x : Changing α} {f : α → Changing β} (hx : Calm x) (hf : ∀ a, Calm (f a)) :
    Calm (x >>= f) := by
  intro c b d h
  obtain ⟨a, e, hr, h⟩ := exists_of_run_bind h
  exact (hx c a e hr).trans (hf a e b d h)

theorem calm_mapM {f : α → Changing β} (hf : ∀ a, Calm (f a)) (items : List α) :
    Calm (items.mapM f) := by
  induction items with
  | nil => exact calm_pure []
  | cons a rest ih =>
    rw [List.mapM_cons]
    exact calm_bind (hf a) fun b => calm_bind ih fun bs => calm_pure _

theorem calm_filterM {p : α → Changing Bool} (hp : ∀ a, Calm (p a)) (items : List α) :
    Calm (items.filterM p) := by
  have haux : ∀ kept, Calm (items.filterAuxM p kept) := by
    induction items with
    | nil => exact fun kept => calm_pure kept
    | cons a rest ih => exact fun kept => calm_bind (hp a) fun b => ih _
  exact calm_bind (haux []) fun kept => calm_pure _

theorem calm_evaluate (parameters : List Value) (e : Scope → Eval α) :
    Calm (evaluate parameters e) := by
  intro c a d h
  change evaluate parameters e c = .ok (a, d) at h
  rw [evaluate] at h
  split at h
  · cases h
    exact ⟨rfl, rfl, rfl⟩
  · cases h

theorem calm_rowids (rows : Selection) (parameters : List Value) :
    Calm (rows.rowids parameters) := by
  rw [Selection.rowids]
  refine calm_bind (calm_evaluate parameters _) fun candidates => ?_
  exact calm_bind (calm_filterM (fun r => calm_evaluate parameters _) candidates) fun _ =>
    calm_pure _

theorem of_run_lift {x : Except Stop α} (h : (liftM x : Changing α).run c = .ok (a, d)) :
    x = .ok a ∧ c = d := by
  cases x with
  | error stop => cases h
  | ok b =>
    cases h
    exact ⟨rfl, rfl⟩

theorem of_run_table {name : String} {t u : Table} (ht : c.database.find? name = some t)
    (h : (table name).run c = .ok (u, d)) : t = u ∧ c = d := by
  cases h
  exact ⟨by rw [ht]; rfl, rfl⟩

theorem of_run_erase {keys : KeyChecks} {name : String} {t : Table} {r : Row} {u : Unit}
    (ht : c.database.find? name = some t) (h : (erase keys name r).run c = .ok (u, d)) :
    d.database = c.database.put (t.erase r.rowid) ∧ d.count = c.count ∧
      d.lastRowid = c.lastRowid := by
  cases h
  exact ⟨by rw [ht]; rfl, rfl, rfl⟩

theorem of_run_finish {parameters : List Value} {returning : List Term} {r : Row} {u : Unit}
    (h : (finish parameters returning r).run c = .ok (u, d)) :
    d.database = c.database ∧ d.count = c.count + 1 ∧ d.lastRowid = c.lastRowid := by
  obtain ⟨_, c₁, h₁, h⟩ := exists_of_run_bind h
  cases h₁
  split at h
  · obtain ⟨values, c₂, h₂, h⟩ := exists_of_run_bind h
    have hs := calm_evaluate _ _ _ _ _ h₂
    cases h
    exact ⟨hs.database, hs.count, hs.lastRowid⟩
  · cases h
    exact ⟨rfl, rfl, rfl⟩

end Changing

open Changing

theorem of_checkConditions {conflict : Conflict} {parameters : List Value}
    {checks : List CheckPlan} {r : Row} {c d : Change} {o : Option Row}
    (h : (checkConditions conflict parameters checks r).run c = .ok (o, d)) :
    c.Still d ∧ (o = none ∧ conflict = .ignore ∨ o = some r) := by
  induction checks generalizing c with
  | nil =>
    cases h
    exact ⟨.refl _, Or.inr rfl⟩
  | cons check rest ih =>
    rw [checkConditions] at h
    obtain ⟨v, c₁, h₁, h⟩ := exists_of_run_bind h
    have hs := calm_evaluate _ _ _ _ _ h₁
    split at h
    · obtain ⟨hv, rfl⟩ := of_run_lift h
      exact ⟨hs, Or.inl (of_violated hv)⟩
    · obtain ⟨hs', ho⟩ := ih h
      exact ⟨hs.trans hs', ho⟩

/-! ### Room for a row -/

namespace Storing

variable {s : Storing} {kept : Option Int64} {c d e : Change} {t u v : Table}

/-- Rows have been displaced, if that is what is done about conflicts, but not the row that the new
one takes the place of. -/
structure Clears (s : Storing) (kept : Option Int64) (c : Change) (t : Table) (d : Change)
    (u : Table) (displaced : List Row) : Prop where
  becomes : t.Becomes (displaced.map .displacement) u
  replaces : s.conflict ≠ .replace → displaced = []
  others : ∀ r ∈ displaced, some r.rowid ≠ kept
  database : d.database = c.database.put u
  count : d.count = c.count
  lastRowid : d.lastRowid = c.lastRowid

theorem clears_of_still (ht : c.database.find? s.table = some t) (h : c.Still d) :
    s.Clears kept c t d t [] where
  becomes := .refl t
  replaces _ := rfl
  others _ hr := absurd hr List.not_mem_nil
  database := by rw [h.database, Database.put_self ht]
  count := h.count
  lastRowid := h.lastRowid

theorem Clears.trans {displaced more : List Row} (h : s.Clears kept c t d u displaced)
    (h' : s.Clears kept d u e v more) : s.Clears kept c t e v (displaced ++ more) where
  becomes := by
    rw [List.map_append]
    exact h.becomes.trans h'.becomes
  replaces := fun hc => by rw [h.replaces hc, h'.replaces hc, List.append_nil]
  others := fun r hr => (List.mem_append.mp hr).elim (h.others r) (h'.others r)
  database := by rw [h'.database, h.database, Database.put_put _ h'.becomes.name]
  count := h'.count.trans h.count
  lastRowid := h'.lastRowid.trans h.lastRowid

theorem Clears.find? {displaced : List Row} (h : s.Clears kept c t d u displaced)
    (ht : c.database.find? s.table = some t) : d.database.find? s.table = some u := by
  rw [h.database]
  exact Database.find?_put ht h.becomes.name

/-- Where rows are left out none is displaced. -/
theorem Clears.still {displaced : List Row} (h : s.Clears kept c t d u displaced)
    (ht : c.database.find? s.table = some t) (hc : s.conflict = .ignore) : c.Still d := by
  have hnil : displaced = [] := h.replaces (by rw [hc]; nofun)
  subst hnil
  have hd := h.database
  cases h.becomes
  rw [Database.put_self ht] at hd
  exact ⟨hd, h.count, h.lastRowid⟩

/-- Once there is room, a row can be changed into the one for which there is. -/
theorem Clears.fits_change {displaced : List Row} {rowid newRowid : Int64} {old r : Row}
    (h : s.Clears (some rowid) c t d u displaced) (hold : t.row? rowid = some old)
    (hr : r.rowid = newRowid) (hfree : some rowid = some newRowid ∨ u.row? newRowid = none) :
    (Edit.change old r).Fits u := by
  obtain ⟨-, hrowid⟩ := Table.mem_of_row? hold
  rw [Edit.Fits, hrowid, hr]
  constructor
  · rw [h.becomes.row?_of_displaced fun o ho hn => h.others o ho (congrArg some hn)]
    exact hold
  · rcases hfree with hsame | hnone
    · rw [Option.some.inj hsame]
      exact u.row?_erase_self _
    · exact Table.row?_erase_eq_none hnone _

/-- Another row that is in the way is displaced; or else there is none. -/
theorem of_makeRoom {other : Option Row} {f : Fault} {room : Bool}
    (ht : c.database.find? s.table = some t)
    (ho : ∀ r, other = some r → t.row? r.rowid = some r ∧ some r.rowid ≠ kept)
    (h : (s.makeRoom other f).run c = .ok (room, d)) :
    room = false ∧ s.conflict = .ignore ∧ c.Still d ∨
      room = true ∧ ∃ u displaced, s.Clears kept c t d u displaced ∧
        ∀ r, other = some r → u.row? r.rowid = none := by
  unfold makeRoom at h
  split at h
  · cases h
    exact Or.inr ⟨rfl, t, [], clears_of_still ht (.refl c), nofun⟩
  · cases h
    exact Or.inl ⟨rfl, ‹_›, .refl c⟩
  · rename_i r hc
    obtain ⟨_, c₁, h₁, h⟩ := exists_of_run_bind h
    cases h
    obtain ⟨hd, hn, hl⟩ := of_run_erase ht h₁
    obtain ⟨hr, hself⟩ := ho r rfl
    refine Or.inr ⟨rfl, t.erase r.rowid, [r],
      ⟨.single (e := .displacement r) hr, ?_, ?_, hd, hn, hl⟩, fun r' hr' => ?_⟩
    · exact fun hne => absurd hc hne
    · exact List.forall_mem_singleton.mpr hself
    · cases hr'
      exact t.row?_erase_self r.rowid
  · cases h

theorem mem_of_duplicate? {columns : List Nat} {values : List Value} {r : Row}
    (h : t.duplicate? columns values kept = some r) : r ∈ t.rows ∧ some r.rowid ≠ kept := by
  rw [Table.duplicate?] at h
  split at h
  · cases h
  · have hp := List.find?_some h
    simp only [Bool.and_eq_true, bne_iff_ne] at hp
    exact ⟨List.mem_of_find?_eq_some h, hp.1.1⟩

theorem of_makeRoomInKeys {r : Row} {keys : List Key} {room : Bool}
    (ht : c.database.find? s.table = some t) (hw : t.WellFormed)
    (h : (s.makeRoomInKeys r kept keys).run c = .ok (room, d)) :
    room = false ∧ s.conflict = .ignore ∧ c.Still d ∨
      room = true ∧ ∃ u displaced, s.Clears kept c t d u displaced := by
  induction keys generalizing c t with
  | nil =>
    cases h
    exact Or.inr ⟨rfl, t, [], clears_of_still ht (.refl _)⟩
  | cons key rest ih =>
    rw [makeRoomInKeys] at h
    obtain ⟨t', c₁, h₁, h⟩ := exists_of_run_bind h
    obtain ⟨rfl, rfl⟩ := of_run_table ht h₁
    dsimp only at h
    obtain ⟨room', c₂, h₂, h⟩ := exists_of_run_bind h
    have hother : ∀ other, t.duplicate? key.columns (r.key key.columns) kept = some other →
        t.row? other.rowid = some other ∧ some other.rowid ≠ kept := by
      intro other ho
      obtain ⟨hm, hne⟩ := mem_of_duplicate? ho
      exact ⟨hw.row?_eq_some_iff.mpr ⟨hm, rfl⟩, hne⟩
    rcases of_makeRoom ht hother h₂ with ⟨rfl, hc, hs⟩ | ⟨rfl, u, displaced, hu, -⟩
    · cases h
      exact Or.inl ⟨rfl, hc, hs⟩
    · rw [if_pos rfl] at h
      have hw' := hu.becomes.wellFormed hw
      rcases ih (hu.find? ht) hw' h with ⟨rfl, hc, hs⟩ | ⟨rfl, v, more, hv⟩
      · exact Or.inl ⟨rfl, hc, (hu.still ht hc).trans hs⟩
      · exact Or.inr ⟨rfl, v, displaced ++ more, hu.trans hv⟩

/-- **A row that is accepted has room**: others have been displaced, and no row is left where it is
to come but the one that it takes the place of. It is as the table stores it. -/
theorem of_accept {r : Row} {o : Option Row} (ht : c.database.find? s.table = some t)
    (hw : t.WellFormed) (h : (s.accept kept r).run c = .ok (o, d)) :
    o = none ∧ s.conflict = .ignore ∧ c.Still d ∨
      ∃ r' u displaced, o = some r' ∧ t.Stores s.conflict r r' ∧ s.Clears kept c t d u displaced ∧
        (kept = some r.rowid ∨ u.row? r.rowid = none) := by
  rw [accept] at h
  obtain ⟨t', c₁, h₁, h⟩ := exists_of_run_bind h
  obtain ⟨rfl, rfl⟩ := of_run_table ht h₁
  dsimp only at h
  obtain ⟨complete, c₂, h₂, h⟩ := exists_of_run_bind h
  obtain ⟨hnulls, rfl⟩ := of_run_lift h₂
  obtain _ | r₁ := complete
  · cases h
    exact Or.inl ⟨rfl, conflict_of_checkNulls hnulls, .refl _⟩
  have hstores := Table.stores_of_checkNulls hnulls
  dsimp only at h
  obtain ⟨checked, c₃, h₃, h⟩ := exists_of_run_bind h
  obtain ⟨hs, hchecked⟩ := of_checkConditions h₃
  rcases hchecked with ⟨rfl, hc⟩ | rfl
  · cases h
    exact Or.inl ⟨rfl, hc, hs⟩
  dsimp only at h
  have ht₃ : c₃.database.find? s.table = some t := by
    rw [hs.database]
    exact ht
  have hrowid : (t.stored r₁).rowid = r.rowid := hstores.rowid
  obtain ⟨room, c₄, h₄, h⟩ := exists_of_run_bind h
  have hother : ∀ other, (if kept = some (t.stored r₁).rowid then none
      else t.row? (t.stored r₁).rowid) = some other →
      t.row? other.rowid = some other ∧ some other.rowid ≠ kept := by
    intro other ho
    split at ho
    · cases ho
    · rename_i hself
      obtain ⟨hm, he⟩ := Table.mem_of_row? ho
      exact ⟨hw.row?_eq_some_iff.mpr ⟨hm, rfl⟩, fun hn => hself (by rw [← hn, he])⟩
  rcases of_makeRoom ht₃ hother h₄ with ⟨rfl, hc, hs'⟩ | ⟨rfl, u, displaced, hu, hfree⟩
  · cases h
    exact Or.inl ⟨rfl, hc, hs.trans hs'⟩
  have hfree' : kept = some r.rowid ∨ u.row? r.rowid = none := by
    by_cases hself : kept = some r.rowid
    · exact Or.inl hself
    · refine Or.inr ?_
      rw [hrowid, if_neg hself] at hfree
      cases hrow : t.row? r.rowid with
      | none => exact hu.becomes.row?_eq_none hrow
      | some other =>
        have hn := hfree other hrow
        rwa [(Table.mem_of_row? hrow).2] at hn
  have hstill : s.Clears kept _ t _ t [] := clears_of_still ht hs
  have hu₁ := hstill.trans hu
  obtain ⟨room', c₅, h₅, h⟩ := exists_of_run_bind h
  rcases of_makeRoomInKeys (hu.find? ht₃) (hu.becomes.wellFormed hw) h₅ with
    ⟨rfl, hc, hs'⟩ | ⟨rfl, v, more, hv⟩
  · cases h
    exact Or.inl ⟨rfl, hc, hs.trans ((hu.still ht₃ hc).trans hs')⟩
  · cases h
    refine Or.inr ⟨_, v, [] ++ displaced ++ more, rfl, hstores, hu₁.trans hv, ?_⟩
    exact hfree'.imp_right hv.becomes.row?_eq_none

theorem of_enter {keys : KeyChecks} {r : Row} {x : Unit} (ht : c.database.find? s.table = some t)
    (h : (s.enter keys r).run c = .ok (x, d)) :
    d.database = c.database.put (t.insert r) ∧ d.count = c.count ∧
      d.lastRowid = c.lastRowid := by
  cases h
  exact ⟨by rw [ht]; rfl, rfl, rfl⟩

end Storing

/-! ### Steps -/

/-- A step treats an item as it should, and counts the edits that the statement asks for. -/
def Counts {α : Type} (table : String) (does : α → Database → Table → List Edit → Prop) (a : α)
    (x : Changing Unit) : Prop :=
  ∀ c t d, c.database.find? table = some t → t.WellFormed → x.run c = .ok ((), d) →
    ∃ es u, does a c.database t es ∧ t.Becomes es u ∧ d.database = c.database.put u ∧
      d.count = c.count + Edit.direct es

theorem counts_of_still {c d : Change} {t : Table} {table : String}
    (ht : c.database.find? table = some t) (h : c.Still d) :
    t.Becomes [] t ∧ d.database = c.database.put t ∧ d.count = c.count + Edit.direct [] :=
  ⟨.refl t, by rw [h.database, Database.put_self ht], h.count⟩

namespace InsertPlan

variable {p : InsertPlan} {c d : Change}

theorem of_refuseOrphan {u : Unit} (h : p.refuseOrphan.run c = .ok (u, d)) : c = d := by
  obtain ⟨c', c₁, h₁, h⟩ := exists_of_run_bind h
  cases h₁
  split at h
  · cases h
  · cases h
    rfl

/-- The rowid of a row that is given some values: the one that they ask for, or a fresh one. -/
structure Numbers (p : InsertPlan) (t : Table) (given : List Value) (rowid : Int64) : Prop where
  asked : ∀ v, p.rowid.bind (given[·]?) = some v → v ≠ .null → rowidOf v = .ok rowid
  fresh : (∀ v, p.rowid.bind (given[·]?) = some v → v = .null) → rowid = t.freshRowid

/-- The values of a row that is given some; a column that is given none has its default. -/
def values (p : InsertPlan) (t : Table) (given : List Value) : List Value :=
  (p.positions.zip t.columns).map fun a => (a.1.bind (given[·]?)).getD a.2.default

/-- The row that is to be stored for some values, with the rowid in the column that stands for it.
-/
def row (p : InsertPlan) (t : Table) (given : List Value) (rowid : Int64) : Row :=
  let values := p.values t given
  ⟨rowid, t.rowidColumn.elim values fun i => values.set i (.integer rowid)⟩

/-- A row is put into a table for some values, and others are displaced for it only if that is what
is done about conflicts. -/
structure Enters (p : InsertPlan) (t : Table) (given : List Value) (displaced : List Row) (r : Row)
    (u : Table) : Prop where
  stores : ∃ rowid, p.Numbers t given rowid ∧ t.Stores p.conflict (p.row t given rowid) r
  replaces : p.conflict ≠ .replace → displaced = []
  becomes : t.Becomes (displaced.map .displacement ++ [.insertion r]) u
  own : u.row? r.rowid = some r

/-- **What is done with values that are given**: a row is put in for them, and its rowid is that of
the row inserted last; or they are left out, if that is what is done about conflicts. -/
theorem of_store {parameters given : List Value} {t : Table}
    (ht : c.database.find? p.table = some t) (hw : t.WellFormed)
    (h : (p.store parameters given).run c = .ok ((), d)) :
    p.conflict = .ignore ∧ c.Still d ∨
      ∃ displaced r u, p.Enters t given displaced r u ∧ d.database = c.database.put u ∧
        d.count = c.count + 1 ∧ d.lastRowid = some r.rowid := by
  rw [store] at h
  obtain ⟨t', c₁, h₁, h⟩ := exists_of_run_bind h
  obtain ⟨rfl, rfl⟩ := of_run_table ht h₁
  extract_lets values storing withRowid at h
  have hrow : ∀ rowid, p.Numbers t given rowid → (withRowid rowid).run c = .ok ((), d) →
      p.conflict = .ignore ∧ c.Still d ∨
        ∃ displaced r u, p.Enters t given displaced r u ∧ d.database = c.database.put u ∧
          d.count = c.count + 1 ∧ d.lastRowid = some r.rowid := by
    intro rowid hrowid h
    obtain ⟨accepted, c₁, h₁, h⟩ := exists_of_run_bind h
    rcases (p.storing parameters).of_accept ht hw h₁ with
      ⟨rfl, hc, hs⟩ | ⟨r, u, displaced, rfl, hr, hu, hfree⟩
    · cases h
      exact Or.inl ⟨hc, hs⟩
    · obtain ⟨_, c₂, h₂, h⟩ := exists_of_run_bind h
      obtain ⟨hd₂, hn₂, -⟩ := Storing.of_enter (s := p.storing parameters) (hu.find? ht) h₂
      obtain ⟨_, c₃, h₃, h⟩ := exists_of_run_bind h
      cases of_refuseOrphan h₃
      obtain ⟨_, c₄, h₄, h⟩ := exists_of_run_bind h
      cases h₄
      obtain ⟨hd, hn, hl⟩ := of_run_finish h
      have hfits : (Edit.insertion r).Fits u := by
        rw [Edit.Fits, hr.rowid]
        exact hfree.resolve_left fun hn => by cases hn
      refine Or.inr ⟨displaced, r, u.insert r, ⟨⟨rowid, hrowid, hr⟩, hu.replaces,
        hu.becomes.trans (.single (e := .insertion r) hfits),
        (hu.becomes.wellFormed hw).row?_insert_self r⟩, ?_, ?_, hl⟩
      · rw [hd]
        change c₂.database = _
        rw [hd₂, hu.database, Database.put_put]
        rfl
      · rw [hn]
        change c₂.count + 1 = _
        rw [hn₂, hu.count]
  split at h
  · rename_i hnull
    obtain ⟨rowid, c₁, h₁, h⟩ := exists_of_run_bind h
    cases h₁
    refine hrow _ ⟨fun v hv hne => ?_, fun _ => rfl⟩ h
    rw [hv] at hnull
    exact absurd hnull hne
  · rename_i v hnull
    obtain ⟨rowid, c₁, h₁, h⟩ := exists_of_run_bind h
    obtain ⟨hv, rfl⟩ := of_run_lift h₁
    refine hrow _ ⟨fun v hasked _ => ?_, fun hall => ?_⟩ h
    · rwa [hasked] at hv
    · cases hasked : p.rowid.bind (given[·]?) with
      | none => exact absurd (by rw [hasked]; rfl) hnull
      | some v => exact absurd (by rw [hasked, hall v hasked]; rfl) hnull

theorem does_store (p : InsertPlan) (parameters given : List Value) :
    Counts p.table (fun _ _ _ => p.Does) given (p.store parameters given) := by
  intro c t d ht hw h
  rcases of_store ht hw h with ⟨hc, hs⟩ | ⟨displaced, r, u, hu, hd, hn, -⟩
  · exact ⟨[], t, .leftOut hc, counts_of_still ht hs⟩
  · refine ⟨_, u, .inserted displaced r hu.replaces, hu.becomes, hd, ?_⟩
    rw [hn, Edit.direct_append, Edit.direct_displaced]
    rfl

end InsertPlan

theorem UpdatePlan.does_step (p : UpdatePlan) (parameters : List Value) (rowid : Int64) :
    Counts p.table (fun rowid _ t => p.Does rowid t) rowid (p.step parameters rowid) := by
  intro c t d ht hw h
  rw [step] at h
  obtain ⟨t', c₁, h₁, h⟩ := exists_of_run_bind h
  obtain ⟨rfl, rfl⟩ := of_run_table ht h₁
  split at h
  · rename_i old hold
    obtain ⟨rowids, c₁, h₁, h⟩ := exists_of_run_bind h
    have hs₁ := calm_evaluate _ _ _ _ _ h₁
    extract_lets storing withRowid at h
    have hrow : ∀ newRowid, (withRowid newRowid).run c₁ = .ok ((), d) →
        ∃ es u, p.Does rowid t es ∧ t.Becomes es u ∧ d.database = c.database.put u ∧
          d.count = c.count + Edit.direct es := by
      intro newRowid h
      obtain ⟨given, c₂, h₂, h⟩ := exists_of_run_bind h
      have hs₂ := hs₁.trans (calm_evaluate _ _ _ _ _ h₂)
      extract_lets values stored at h
      have ht₂ : c₂.database.find? storing.table = some t := by
        rw [hs₂.database]
        exact ht
      obtain ⟨accepted, c₃, h₃, h⟩ := exists_of_run_bind h
      rcases storing.of_accept ht₂ hw h₃ with
        ⟨rfl, hc, hs⟩ | ⟨r, u, displaced, rfl, hr, hu, hfree⟩
      · cases h
        exact ⟨[], t, .leftOut hc, counts_of_still ht (hs₂.trans hs)⟩
      · obtain ⟨-, hrowid⟩ := Table.mem_of_row? hold
        have ht₃ : c₃.database.find? p.table = some u := hu.find? ht₂
        have hfits := hu.fits_change hold hr.rowid hfree
        obtain ⟨_, c₄, h₄, h⟩ := exists_of_run_bind h
        obtain ⟨hd₄, hn₄, -⟩ := of_run_erase ht₃ h₄
        have ht₄ : c₄.database.find? storing.table = some (u.erase old.rowid) := by
          rw [hd₄]
          exact Database.find?_put ht₃ rfl
        obtain ⟨_, c₅, h₅, h⟩ := exists_of_run_bind h
        obtain ⟨hd₅, hn₅, -⟩ := Storing.of_enter ht₄ h₅
        obtain ⟨hd, hn, -⟩ := of_run_finish h
        refine ⟨_, _, .changed displaced r hrowid hu.replaces,
          hu.becomes.trans (.single (e := .change old r) hfits), ?_, ?_⟩
        · rw [hd, hd₅, hd₄, hu.database, hs₂.database, Database.put_put, Database.put_put]
          · rfl
          · rfl
          · rfl
        · rw [hn, hn₅, hn₄, hu.count, hs₂.count, Edit.direct_append, Edit.direct_displaced]
          rfl
    split at h
    · obtain ⟨newRowid, c₂, h₂, h⟩ := exists_of_run_bind h
      obtain ⟨-, rfl⟩ := of_run_lift h₂
      exact hrow _ h
    · obtain ⟨newRowid, c₂, h₂, h⟩ := exists_of_run_bind h
      cases h₂
      exact hrow _ h
  · rename_i hgone
    cases h
    refine ⟨[], t, .gone ?_, counts_of_still ht (.refl _)⟩
    cases hrow : t.row? rowid with
    | none => rfl
    | some old => exact absurd hrow (hgone old)

theorem DeletePlan.does_step (p : DeletePlan) (parameters : List Value) (rowid : Int64) :
    Counts p.table (fun rowid _ t => DeletePlan.Does rowid t) rowid (p.step parameters rowid) := by
  intro c t d ht hw h
  rw [step] at h
  obtain ⟨t', c₁, h₁, h⟩ := exists_of_run_bind h
  obtain ⟨rfl, rfl⟩ := of_run_table ht h₁
  split at h
  · rename_i old hold
    obtain ⟨-, hrowid⟩ := Table.mem_of_row? hold
    obtain ⟨_, c₁, h₁, h⟩ := exists_of_run_bind h
    obtain ⟨hd₁, hn₁, -⟩ := of_run_erase ht h₁
    obtain ⟨hd, hn, -⟩ := of_run_finish h
    refine ⟨[.deletion old], _, .deleted hrowid, .single (e := .deletion old) ?_, ?_, ?_⟩
    · rw [Edit.Fits, hrowid]
      exact hold
    · rw [hd, hd₁]
      rfl
    · rw [hn, hn₁]
      rfl
  · rename_i hgone
    cases h
    refine ⟨[], t, .gone ?_, counts_of_still ht (.refl _)⟩
    cases hrow : t.row? rowid with
    | none => rfl
    | some old => exact absurd hrow (hgone old)

/-! ### Whole statements -/

/-- If every step treats its item as it should, all of them together do. -/
theorem treats_of_through {α : Type} {table : String}
    {does : α → Database → Table → List Edit → Prop} {step : α → Changing Unit} {items : List α}
    {c d : Change} (hs : ∀ a, Counts table does a (step a))
    (hc : (c.database.find? table).isSome = true) (hw : c.database.WellFormed)
    (h : Change.through step items c = (d, none)) :
    ∃ es, Treats table does items c.database es d.database ∧
      d.count = c.count + Edit.direct es := by
  induction items generalizing c with
  | nil =>
    cases h
    exact ⟨[], .nil _, rfl⟩
  | cons a rest ih =>
    cases hr : (step a).run c with
    | error stop =>
      rw [Change.through_cons_error hr] at h
      cases h
    | ok p =>
      obtain ⟨⟨⟩, e⟩ := p
      rw [Change.through_cons_ok hr] at h
      obtain ⟨t, ht⟩ := Option.isSome_iff_exists.mp hc
      have htw := hw.find? ht
      obtain ⟨es, u, hdoes, hbecomes, hd, hn⟩ := hs a c t e ht htw hr
      have hfound : e.database.find? table = some u := by
        rw [hd]
        exact Database.find?_put ht hbecomes.name
      have hw' : e.database.WellFormed := by
        rw [hd]
        exact hw.put (hbecomes.wellFormed htw)
      obtain ⟨fs, htreats, hn'⟩ := ih (Option.isSome_iff_exists.mpr ⟨u, hfound⟩) hw' h
      rw [hd] at htreats
      exact ⟨es ++ fs, .cons ht hdoes hbecomes htreats, by
        rw [hn', hn, Edit.direct_append, Nat.add_assoc]⟩

/-- What is done for items of which nothing is looked at, is done for as many others. -/
theorem Treats.congr {α β : Type} {table : String} {does : Database → Table → List Edit → Prop}
    {items : List α} {others : List β} {d d' : Database} {es : List Edit}
    (h : Treats table (fun _ => does) items d es d') (hl : others.length = items.length) :
    Treats table (fun _ => does) others d es d' := by
  induction h generalizing others with
  | nil d =>
    cases List.length_eq_zero_iff.mp hl
    exact .nil d
  | cons found does_ becomes rest_ ih =>
    cases others with
    | nil => cases hl
    | cons b rest => exact .cons found does_ becomes (ih (Nat.succ.inj hl))

section Plans

variable {d : Database} {missing : Missing} {values : List Value} {change : Change}
  (hw : d.WellFormed)
include hw

theorem treats_of_throughFound {α : Type} {table : String}
    {does : α → Database → Table → List Edit → Prop} {found : Changing (List α)}
    {step : α → Changing Unit} (hcalm : Calm found) (hs : ∀ a, Counts table does a (step a))
    (hf : (d.find? table).isSome = true)
    (h : throughFound found step (.start d missing) = (change, none)) :
    ∃ items c es, found.run (.start d missing) = .ok (items, c) ∧
      Treats table does items d es change.database ∧ change.count = Edit.direct es := by
  rw [throughFound] at h
  split at h
  · rename_i items c hr
    have hstill := hcalm _ _ _ hr
    obtain ⟨es, htreats, hn⟩ := treats_of_through hs (by rw [hstill.database]; exact hf)
      (by rw [hstill.database]; exact hw) h
    rw [hstill.database] at htreats
    exact ⟨items, c, es, hr, htreats, by rw [hn, hstill.count]; exact Nat.zero_add _⟩
  · cases h

theorem InsertPlan.edits_run {p : InsertPlan} (hf : (d.find? p.table).isSome = true)
    (h : p.run values (.start d missing) = (change, none)) :
    ∃ es, Plan.Edits values d (.insert p) es change.database ∧
      change.count = Edit.direct es := by
  have hgiven : ∀ row, Calm (given values row) := fun row => calm_evaluate values _
  cases ha : p.ahead with
  | true =>
    rw [run_of_ahead ha] at h
    obtain ⟨rows, c, es, hr, htreats, hn⟩ :=
      treats_of_throughFound hw (calm_mapM hgiven p.rows) (p.does_store values) hf h
    exact ⟨es, .insert (htreats.congr (gives_mapM _ p.rows _ _ _ hr).symm), hn⟩
  | false =>
    rw [run_of_not_ahead ha] at h
    have hstep : ∀ row, Counts p.table (fun _ _ _ => p.Does) row
        (do p.store values (← given values row)) := by
      intro row c t d ht hw h
      obtain ⟨given, e, hr, h⟩ := exists_of_run_bind h
      have hs := hgiven row _ _ _ hr
      rw [← hs.database, ← hs.count]
      exact p.does_store values given e t d (by rw [hs.database]; exact ht) hw h
    obtain ⟨es, htreats, hn⟩ := treats_of_through hstep hf hw h
    exact ⟨es, .insert htreats, by rw [hn]; exact Nat.zero_add _⟩

theorem UpdatePlan.edits_run {p : UpdatePlan} (hf : (d.find? p.table).isSome = true)
    (h : p.run values (.start d missing) = (change, none)) :
    ∃ es, Plan.Edits values d (.update p) es change.database ∧
      change.count = Edit.direct es := by
  rw [run] at h
  split at h
  · rename_i ha
    obtain ⟨rowids, c, es, hr, htreats, hn⟩ :=
      treats_of_throughFound hw (calm_rowids _ _) (p.does_step values) hf h
    exact ⟨es, .updateFound ha ⟨missing, c, hr⟩ htreats, hn⟩
  · rename_i ha
    have hstep : ∀ r : Row, Counts p.table (fun r d t es =>
        p.rows.Tells values d r true ∧ p.Does r.rowid t es ∨
          p.rows.Tells values d r false ∧ es = []) r
        (do if ← p.rows.selects values r then p.step values r.rowid) := by
      intro r c t e ht hw h
      obtain ⟨holds, c₁, hr, h⟩ := exists_of_run_bind h
      have hs : c.Still c₁ := calm_evaluate values _ _ _ _ hr
      have htells : p.rows.Tells values c.database r holds := ⟨c, c₁, rfl, hr⟩
      cases holds with
      | true =>
        rw [if_pos rfl] at h
        rw [← hs.database] at ht
        obtain ⟨es, u, hdoes, hrest⟩ := p.does_step values r.rowid c₁ t e ht hw h
        rw [hs.database, hs.count] at hrest
        exact ⟨es, u, Or.inl ⟨htells, hdoes⟩, hrest⟩
      | false =>
        rw [if_neg Bool.false_ne_true] at h
        cases h
        exact ⟨[], t, Or.inr ⟨htells, rfl⟩, counts_of_still ht hs⟩
    obtain ⟨candidates, c, es, hr, htreats, hn⟩ :=
      treats_of_throughFound hw (calm_evaluate _ _) hstep hf h
    exact ⟨es, .updateInTurn (Bool.eq_false_iff.mpr ha) ⟨missing, c, hr⟩ htreats, hn⟩

theorem DeletePlan.edits_run {p : DeletePlan} (hf : (d.find? p.table).isSome = true)
    (h : p.run values (.start d missing) = (change, none)) :
    ∃ es, Plan.Edits values d (.delete p) es change.database ∧
      change.count = Edit.direct es := by
  obtain ⟨rowids, c, es, hr, htreats, hn⟩ :=
    treats_of_throughFound hw (calm_rowids _ _) (p.does_step values) hf h
  exact ⟨es, .delete ⟨missing, c, hr⟩ htreats, hn⟩

/-- **A change of rows edits them as its statement says, and counts the edits that the statement
asks for.** -/
theorem Plan.edits_of_change? {p : Plan} (hf : p.Fits d)
    (h : p.change? values (.start d missing) = some (change, none)) :
    ∃ es, p.Edits values d es change.database ∧ change.count = Edit.direct es := by
  cases p with
  | insert p => exact InsertPlan.edits_run hw (hf _ rfl) (Option.some.inj h)
  | update p => exact UpdatePlan.edits_run hw (hf _ rfl) (Option.some.inj h)
  | delete p => exact DeletePlan.edits_run hw (hf _ rfl) (Option.some.inj h)
  | _ => cases h

end Plans

/-- The edits of a statement are edits of its table. -/
theorem Plan.Edits.becomes {p : Plan} {values : List Value} {d d' : Database} {es : List Edit}
    (h : p.Edits values d es d') {table : String} (hp : p.changed? = some table) {t : Table}
    (ht : d.find? table = some t) : ∃ u, t.Becomes es u ∧ d' = d.put u := by
  cases h with
  | insert treats => cases hp; exact treats.becomes ht
  | updateFound _ _ treats => cases hp; exact treats.becomes ht
  | updateInTurn _ _ treats => cases hp; exact treats.becomes ht
  | delete _ treats => cases hp; exact treats.becomes ht

end NamedSql.Sql
