import NamedSql.Proofs.Sql.RowWidths
import NamedSql.Sql.Change
import NamedSql.Sql.Plan

/-!
# Why changes of rows stop

A change of rows treats one row after the other and stops at the first that cannot be stored. Here
it is shown what such a stop may ask for, and when a change returns nothing: it asks for what the
conflict clause of its statement says, or to undo the statement, and it returns rows only if its
statement has a list of what to return.

## Scope

Which rows are stored, and where a change stops, is not said here.

## Main definitions

* `Changing.Obeys` — a step that keeps a property of the tables and of what is returned, or stops
  for a reason of some kind
* `Plan.returns`, `Plan.conflict` — whether a plan returns what it changes, and what becomes of a
  conflict
* `Plan.change?` — the change of rows that a plan makes

## Main results

* `Plan.returned_of_change?` — a plan that returns nothing has returned nothing
* `Plan.width_returned_of_change?` — what is returned has a value for each term
* `Plan.conflict_of_change?` — only a plan that says so stops by keeping what it has changed
-/

namespace NamedSql.Sql

namespace Changing

variable {α β : Type} {P : Database → List (List Value) → Prop} {Q : Stop → Prop}

/-- The step keeps a property of the tables and of what is returned, or stops for a reason of some
kind. -/
def Obeys (P : Database → List (List Value) → Prop) (Q : Stop → Prop) (x : Changing α) : Prop :=
  ∀ c : Change, P c.database c.returned →
    match x.run c with
    | .ok (_, d) => P d.database d.returned
    | .error stop => Q stop

/-- Whatever is returned, the property still holds. -/
def Ignores (P : Database → List (List Value) → Prop) : Prop :=
  ∀ d returned returned', P d returned → P d returned'

/-- If something is to be returned for a row, the property still holds once it has been. -/
def Accepts (P : Database → List (List Value) → Prop) (returning : List Term) : Prop :=
  returning ≠ [] → ∀ d returned values, values.length = returning.length → P d returned →
    P d (returned ++ [values])

theorem Ignores.accepts (h : Ignores P) (returning : List Term) : Accepts P returning :=
  fun _ _ _ _ _ => h _ _ _

/-- Whether a row is put into a table or taken out of it, the property still holds. -/
structure Outlasts (P : Database → List (List Value) → Prop) (table : String) : Prop where
  insert : ∀ d returned r, P d returned →
    P (d.put (((d.find? table).getD default).insert r)) returned
  erase : ∀ d returned rowid, P d returned →
    P (d.put (((d.find? table).getD default).erase rowid)) returned

/-- What is said of nothing but what is returned holds whatever becomes of the tables. -/
theorem outlasts_of_returned (R : List (List Value) → Prop) (table : String) :
    Outlasts (fun _ returned => R returned) table :=
  ⟨fun _ _ _ => id, fun _ _ _ => id⟩

theorem obeys_pure (a : α) : Obeys P Q (pure a) := fun _ hc => hc

theorem obeys_get : Obeys P Q get := fun _ hc => hc

theorem obeys_throw {stop : Stop} (h : Q stop) : Obeys P Q (throw stop : Changing α) :=
  fun _ _ => h

theorem obeys_modify {f : Change → Change}
    (h : ∀ c, P c.database c.returned → P (f c).database (f c).returned) :
    Obeys P Q (modify f) := h

theorem obeys_lift {x : Except Stop α} (h : ∀ stop, x = .error stop → Q stop) :
    Obeys P Q (liftM x) := by
  intro c hc
  cases x with
  | ok a => exact hc
  | error stop => exact h stop rfl

theorem obeys_bind_of {x : Changing α} {f : α → Changing β} {R : α → Prop} (hx : Obeys P Q x)
    (hg : Gives R x) (hf : ∀ a, R a → Obeys P Q (f a)) : Obeys P Q (x >>= f) := by
  intro c hc
  have h := hx c hc
  rw [StateT.run_bind]
  cases hr : x.run c with
  | error stop =>
    rw [hr] at h
    exact h
  | ok p =>
    rw [hr] at h
    exact hf p.1 (hg c p.1 p.2 hr) p.2 h

theorem obeys_bind {x : Changing α} {f : α → Changing β} (hx : Obeys P Q x)
    (hf : ∀ a, Obeys P Q (f a)) : Obeys P Q (x >>= f) :=
  obeys_bind_of (R := fun _ => True) hx (fun _ _ _ _ => trivial) fun a _ => hf a

theorem obeys_mapM {f : α → Changing β} (hf : ∀ a, Obeys P Q (f a)) (items : List α) :
    Obeys P Q (items.mapM f) := by
  induction items with
  | nil => exact obeys_pure []
  | cons a rest ih =>
    rw [List.mapM_cons]
    exact obeys_bind (hf a) fun b => obeys_bind ih fun bs => obeys_pure _

theorem obeys_filterM {p : α → Changing Bool} (hp : ∀ a, Obeys P Q (p a)) (items : List α) :
    Obeys P Q (items.filterM p) := by
  have haux : ∀ kept, Obeys P Q (items.filterAuxM p kept) := by
    induction items with
    | nil => exact fun kept => obeys_pure kept
    | cons a rest ih => exact fun kept => obeys_bind (hp a) fun b => ih _
  exact obeys_bind (haux []) fun kept => obeys_pure _

/-! ### Reading and writing tables -/

theorem obeys_table (name : String) : Obeys P Q (table name) :=
  obeys_bind obeys_get fun _ => obeys_pure _

theorem obeys_erase {table : String} (hw : Outlasts P table) (keys : KeyChecks) (r : Row) :
    Obeys P Q (erase keys table r) := fun c hc => hw.erase c.database c.returned r.rowid hc

theorem gives_evaluate {R : α → Prop} (parameters : List Value) {e : Scope → Eval α}
    (h : ∀ s, Gives R (e s)) : Gives R (evaluate parameters e) := by
  intro c a c' ha
  change evaluate parameters e c = .ok (a, c') at ha
  rw [evaluate] at ha
  cases hr : e ⟨c.database, parameters, []⟩ c.memo with
  | error f =>
    rw [hr] at ha
    cases ha
  | ok p =>
    rw [hr] at ha
    cases ha
    exact h _ c.memo p.1 p.2 hr

/-- A step may always stop by undoing its statement. -/
def Aborts (Q : Stop → Prop) : Prop := ∀ f, Q (.abort f)

section

variable (ha : Aborts Q)
include ha

theorem obeys_evaluate (parameters : List Value) (e : Scope → Eval α) :
    Obeys P Q (evaluate parameters e) := by
  intro c hc
  change match (evaluate parameters e) c with
    | .ok (_, d) => P d.database d.returned
    | .error stop => Q stop
  rw [evaluate]
  cases e ⟨c.database, parameters, []⟩ c.memo with
  | ok p => exact hc
  | error f => exact ha f

/-- A row is returned only if the statement says what to return, and has a value for each term. -/
theorem obeys_finish (parameters : List Value) {returning : List Term}
    (h : Accepts P returning) (r : Row) :
    Obeys P Q (finish parameters returning r) := by
  refine obeys_bind (obeys_modify fun _ => id) fun _ => ?_
  split
  · rename_i hn
    have hne : returning ≠ [] := by
      rintro rfl
      cases hn
    refine obeys_bind_of (obeys_evaluate ha parameters _) (gives_evaluate parameters fun s =>
      gives_evalAll (s.within r) returning) fun values hl => ?_
    exact obeys_modify fun c => h hne c.database c.returned values hl
  · exact obeys_pure ()

end

end Changing

open Changing

/-! ### Rules of a table -/

section Rules

variable {P : Database → List (List Value) → Prop} {Q : Stop → Prop} (ha : Aborts Q)

include ha

theorem obeys_rowidOf (v : Value) : Obeys P Q (liftM (rowidOf v) : Changing Int64) := by
  refine obeys_lift fun stop h => ?_
  rw [rowidOf] at h
  split at h
  · cases h
  · cases h
    exact ha _

variable {conflict : Conflict} (hc : ∀ f, Q ⟨f, conflict⟩)
include hc

theorem stop_of_violated {f : Fault} {stop : Stop} (h : violated conflict f = .error stop) :
    Q stop := by
  unfold violated at h
  split at h
  · cases h
  · cases h
    exact ha f
  · cases h
    exact hc f

theorem stop_of_checkNulls {t : Table} {columns : List Column} {stop : Stop} :
    ∀ {i r}, checkNulls conflict t i columns r = .error stop → Q stop := by
  induction columns with
  | nil =>
    intro i r h
    cases h
  | cons c rest ih =>
    intro i r h
    rw [checkNulls] at h
    split at h
    · split at h
      · exact ih h
      · exact stop_of_violated ha hc h
    · exact ih h

theorem obeys_checkConditions (parameters : List Value) (checks : List CheckPlan) (r : Row) :
    Obeys P Q (checkConditions conflict parameters checks r) := by
  induction checks with
  | nil => exact obeys_pure _
  | cons check rest ih =>
    rw [checkConditions]
    refine obeys_bind (obeys_evaluate ha parameters _) fun v => ?_
    split
    · exact obeys_lift fun stop h => stop_of_violated ha hc h
    · exact ih

end Rules

namespace Storing

variable {P : Database → List (List Value) → Prop} {Q : Stop → Prop} (ha : Aborts Q) {s : Storing}
  (hw : Outlasts P s.table) (hc : ∀ f, Q ⟨f, s.conflict⟩)

include hw

theorem obeys_enter (keys : KeyChecks) (r : Row) : Obeys P Q (s.enter keys r) :=
  fun c hd => hw.insert c.database c.returned r hd

include hc in
theorem obeys_makeRoom (other : Option Row) (f : Fault) : Obeys P Q (s.makeRoom other f) := by
  unfold makeRoom
  split
  · exact obeys_pure _
  · exact obeys_pure _
  · exact obeys_bind (obeys_erase hw _ _) fun _ => obeys_pure _
  · exact obeys_throw (hc f)

include hc in
theorem obeys_makeRoomInKeys (r : Row) (self : Option Int64) (keys : List Key) :
    Obeys P Q (s.makeRoomInKeys r self keys) := by
  induction keys with
  | nil => exact obeys_pure _
  | cons key rest ih =>
    rw [makeRoomInKeys]
    refine obeys_bind (obeys_table _) fun t => ?_
    refine obeys_bind (obeys_makeRoom hw hc _ _) fun room => ?_
    split
    · exact ih
    · exact obeys_pure _

include ha hc

theorem obeys_accept (self : Option Int64) (r : Row) : Obeys P Q (s.accept self r) := by
  rw [accept]
  refine obeys_bind (obeys_table _) fun t => ?_
  refine obeys_bind (obeys_lift fun stop h => stop_of_checkNulls ha hc h) fun complete => ?_
  cases complete with
  | none => exact obeys_pure _
  | some r =>
    dsimp only
    refine obeys_bind (obeys_checkConditions ha hc _ _ _) fun checked => ?_
    cases checked with
    | none => exact obeys_pure _
    | some r =>
      dsimp only
      refine obeys_bind (obeys_makeRoom hw hc _ _) fun room => ?_
      split
      · exact obeys_pure _
      · refine obeys_bind (obeys_makeRoomInKeys hw hc _ _ _) fun room => ?_
        split
        · exact obeys_pure _
        · exact obeys_pure _

end Storing

/-! ### Items in turn -/

section Turns

variable {α : Type} {P : Database → List (List Value) → Prop} {Q : Stop → Prop}

/-- A change keeps a property of the tables and of what is returned, and stops only for a reason of
some kind. -/
def Change.Ends (P : Database → List (List Value) → Prop) (Q : Stop → Prop)
    (p : Change × Option Stop) : Prop :=
  P p.1.database p.1.returned ∧ ∀ stop, p.2 = some stop → Q stop

theorem Change.ends_stop {c : Change} {stop : Stop} (hc : P c.database c.returned) (h : Q stop) :
    Ends P Q (c, some stop) := by
  refine ⟨hc, fun stop' hstop => ?_⟩
  cases hstop
  exact h

theorem Change.ends_through {step : α → Changing Unit} (hs : ∀ a, Obeys P Q (step a))
    (items : List α) {c : Change} (hc : P c.database c.returned) :
    Ends P Q (through step items c) := by
  induction items generalizing c with
  | nil => exact ⟨hc, nofun⟩
  | cons a rest ih =>
    have h := hs a c hc
    cases hr : (step a).run c with
    | ok p =>
      rw [hr] at h
      rw [through_cons_ok hr]
      exact ih h
    | error stop =>
      rw [hr] at h
      rw [through_cons_error hr]
      exact ends_stop hc h

theorem Change.ends_throughFound {found : Changing (List α)} {step : α → Changing Unit}
    (hf : Obeys P Q found) (hs : ∀ a, Obeys P Q (step a)) {c : Change}
    (hc : P c.database c.returned) :
    Ends P Q (throughFound found step c) := by
  have h := hf c hc
  rw [throughFound]
  cases hr : found.run c with
  | ok p =>
    rw [hr] at h
    exact ends_through hs p.1 h
  | error stop =>
    rw [hr] at h
    exact ends_stop hc h

end Turns

/-! ### Plans -/

/-- Rows that are evaluated before the first one is stored are found first. -/
theorem InsertPlan.run_of_ahead {p : InsertPlan} (h : p.ahead = true) (values : List Value)
    (c : Change) :
    p.run values c = throughFound (p.rows.mapM (given values)) (p.store values) c := by
  rw [run, throughFound, if_pos h]
  cases (p.rows.mapM (given values)).run c <;> rfl

theorem InsertPlan.run_of_not_ahead {p : InsertPlan} (h : p.ahead = false) (values : List Value)
    (c : Change) :
    p.run values c =
      Change.through (fun row => do p.store values (← given values row)) p.rows c := by
  rw [run, h]
  rfl

section Plans

variable {P : Database → List (List Value) → Prop} {Q : Stop → Prop} (ha : Aborts Q)
include ha

namespace InsertPlan

variable {p : InsertPlan}

theorem obeys_refuseOrphan (p : InsertPlan) : Obeys P Q p.refuseOrphan := by
  rw [refuseOrphan]
  refine obeys_bind obeys_get fun c => ?_
  split
  · exact obeys_throw (ha _)
  · exact obeys_pure _

variable (hw : Outlasts P p.table) (hc : ∀ f, Q ⟨f, p.conflict⟩)
  (hr : Accepts P p.returning)
include hw hc hr

theorem obeys_store (parameters given : List Value) : Obeys P Q (p.store parameters given) := by
  rw [store]
  refine obeys_bind (obeys_table _) fun t => ?_
  extract_lets values storing withRowid
  have hw : ∀ rowid, Obeys P Q (withRowid rowid) := by
    intro rowid
    refine obeys_bind (Storing.obeys_accept ha (s := p.storing parameters) hw hc _ _)
      fun accepted => ?_
    cases accepted with
    | none => exact obeys_pure _
    | some r =>
      exact obeys_bind (Storing.obeys_enter (s := p.storing parameters) hw _ _) fun _ =>
        obeys_bind (obeys_refuseOrphan ha p) fun _ =>
          obeys_bind (obeys_modify fun _ => id) fun _ => obeys_finish ha parameters hr r
  split
  · exact obeys_bind (obeys_pure _) hw
  · exact obeys_bind (obeys_rowidOf ha _) hw

theorem ends_run (parameters : List Value) {c : Change} (h : P c.database c.returned) :
    Change.Ends P Q (p.run parameters c) := by
  have hg : ∀ row, Obeys P Q (given parameters row) :=
    fun row => obeys_evaluate ha parameters _
  cases hahead : p.ahead with
  | true =>
    rw [run_of_ahead hahead]
    exact Change.ends_throughFound (obeys_mapM hg p.rows) (obeys_store ha hw hc hr parameters) h
  | false =>
    rw [run_of_not_ahead hahead]
    exact Change.ends_through (fun row => obeys_bind (hg row) (obeys_store ha hw hc hr parameters))
      p.rows h

end InsertPlan

theorem obeys_rowids (rows : Selection) (parameters : List Value) :
    Obeys P Q (rows.rowids parameters) := by
  rw [Selection.rowids]
  refine obeys_bind (obeys_evaluate ha parameters _) fun candidates => ?_
  refine obeys_bind (obeys_filterM (fun r => obeys_evaluate ha parameters _) candidates) fun _ => ?_
  exact obeys_pure _

namespace UpdatePlan

variable {p : UpdatePlan} (hw : Outlasts P p.table) (hc : ∀ f, Q ⟨f, p.conflict⟩)
  (hr : Accepts P p.returning)
include hw hc hr

theorem obeys_step (parameters : List Value) (rowid : Int64) :
    Obeys P Q (p.step parameters rowid) := by
  rw [step]
  refine obeys_bind (obeys_table _) fun t => ?_
  split
  · rename_i old _
    refine obeys_bind (obeys_evaluate ha parameters _) fun rowids => ?_
    extract_lets storing withRowid
    have hw : ∀ newRowid, Obeys P Q (withRowid newRowid) := by
      intro newRowid
      refine obeys_bind (obeys_evaluate ha parameters _) fun given => ?_
      refine obeys_bind (Storing.obeys_accept ha (s := storing) hw hc _ _) fun accepted => ?_
      cases accepted with
      | none => exact obeys_pure _
      | some r =>
        exact obeys_bind (obeys_erase hw _ _) fun _ =>
          obeys_bind (Storing.obeys_enter (s := storing) hw _ _) fun _ =>
            obeys_finish ha parameters hr r
    split
    · exact obeys_bind (obeys_rowidOf ha _) hw
    · exact obeys_bind (obeys_pure _) hw
  · exact obeys_pure _

theorem ends_run (parameters : List Value) {c : Change} (h : P c.database c.returned) :
    Change.Ends P Q (p.run parameters c) := by
  rw [run]
  split
  · exact Change.ends_throughFound (obeys_rowids ha _ _) (obeys_step ha hw hc hr parameters) h
  · refine Change.ends_throughFound (obeys_evaluate ha parameters _) (fun r => ?_) h
    refine obeys_bind (obeys_evaluate ha parameters _) fun selected => ?_
    split
    · exact obeys_step ha hw hc hr parameters _
    · exact obeys_pure _

end UpdatePlan

namespace DeletePlan

variable {p : DeletePlan} (hw : Outlasts P p.table)
  (hr : Accepts P p.returning)
include hw hr

theorem obeys_step (parameters : List Value) (rowid : Int64) :
    Obeys P Q (p.step parameters rowid) := by
  rw [step]
  refine obeys_bind (obeys_table _) fun t => ?_
  split
  · exact obeys_bind (obeys_erase hw _ _) fun _ => obeys_finish ha parameters hr _
  · exact obeys_pure _

theorem ends_run (parameters : List Value) {c : Change} (h : P c.database c.returned) :
    Change.Ends P Q (p.run parameters c) :=
  Change.ends_throughFound (obeys_rowids ha _ _) (obeys_step ha hw hr parameters) h

end DeletePlan

end Plans

namespace Plan

/-- Whether a plan returns the rows that it changes. -/
def returns : Plan → Bool
  | .insert p => !p.returning.isEmpty
  | .update p => !p.returning.isEmpty
  | .delete p => !p.returning.isEmpty
  | _ => false

/-- What a plan does about a row that would violate a constraint. -/
def conflict : Plan → Conflict
  | .insert p => p.conflict
  | .update p => p.conflict
  | _ => .abort

/-- What a plan returns for a row that it changes. -/
def returning : Plan → List Term
  | .insert p => p.returning
  | .update p => p.returning
  | .delete p => p.returning
  | _ => []

/-- The table whose rows a plan changes, if it changes rows. -/
def changed? : Plan → Option String
  | .insert p => some p.table
  | .update p => some p.table
  | .delete p => some p.table
  | _ => none

/-- The change of rows that a plan makes, if it makes one. -/
def change? (parameters : List Value) (c : Change) : Plan → Option (Change × Option Stop)
  | .insert p => some (p.run parameters c)
  | .update p => some (p.run parameters c)
  | .delete p => some (p.run parameters c)
  | _ => none

variable {p : Plan} {parameters : List Value} {c change : Change} {stop : Option Stop}

theorem isEmpty_returning (p : Plan) : p.returning.isEmpty = !p.returns := by
  cases p with
  | insert p => exact (Bool.not_not _).symm
  | update p => exact (Bool.not_not _).symm
  | delete p => exact (Bool.not_not _).symm
  | _ => rfl

theorem ends_of_accepts {P : Database → List (List Value) → Prop} {Q : Stop → Prop}
    (ha : Aborts Q) (hw : ∀ table, p.changed? = some table → Outlasts P table)
    (hc : ∀ f, Q ⟨f, p.conflict⟩) (hr : Accepts P p.returning)
    (h : P c.database c.returned) (hp : p.change? parameters c = some (change, stop)) :
    Change.Ends P Q (change, stop) := by
  cases p with
  | insert p =>
    rw [← Option.some.inj hp]
    exact InsertPlan.ends_run ha (hw _ rfl) hc hr parameters h
  | update p =>
    rw [← Option.some.inj hp]
    exact UpdatePlan.ends_run ha (hw _ rfl) hc hr parameters h
  | delete p =>
    rw [← Option.some.inj hp]
    exact DeletePlan.ends_run ha (hw _ rfl) hr parameters h
  | _ => cases hp

theorem ends_of_change? {P : Database → List (List Value) → Prop} {Q : Stop → Prop}
    (ha : Aborts Q) (hw : ∀ table, p.changed? = some table → Outlasts P table)
    (hc : ∀ f, Q ⟨f, p.conflict⟩) (hr : p.returns = false ∨ Ignores P)
    (h : P c.database c.returned) (hp : p.change? parameters c = some (change, stop)) :
    Change.Ends P Q (change, stop) := by
  refine ends_of_accepts ha hw hc ?_ h hp
  rcases hr with hr | hr
  · have hn := p.isEmpty_returning
    rw [hr] at hn
    exact fun hne => absurd (List.isEmpty_iff.mp hn) hne
  · exact hr.accepts p.returning

/-- **The rows that a change returns have a value for each term**, and there are terms if there are
rows. -/
theorem width_returned_of_change? (h : c.returned = [])
    (hp : p.change? parameters c = some (change, stop)) :
    ∀ row ∈ change.returned, row.length = p.returning.length ∧ row ≠ [] := by
  refine (ends_of_accepts (P := fun _ returned => ∀ row ∈ returned,
    row.length = p.returning.length ∧ row ≠ []) (Q := fun _ => True) (fun _ => trivial)
    (fun table _ => outlasts_of_returned _ table) (fun _ => trivial) ?_ (by simp [h]) hp).1
  intro hne d returned values hl hall row hrow
  rcases List.mem_append.mp hrow with hrow | hrow
  · exact hall row hrow
  · cases List.mem_singleton.mp hrow
    exact ⟨hl, fun hn => hne (List.eq_nil_of_length_eq_zero (by rw [← hl, hn]; rfl))⟩

/-- A plan that does not return the rows that it changes returns none. -/
theorem returned_of_change? (hr : p.returns = false) (h : c.returned = [])
    (hp : p.change? parameters c = some (change, stop)) : change.returned = [] :=
  (ends_of_change? (P := fun _ returned => returned = []) (Q := fun _ => True) (fun _ => trivial)
    (fun table _ => outlasts_of_returned _ table) (fun _ => trivial) (Or.inl hr) h hp).1

/-- A plan stops by keeping what it has changed only if that is what it does about conflicts. -/
theorem conflict_of_change? (hc : p.conflict ≠ .fail)
    (hp : p.change? parameters c = some (change, stop)) :
    ∀ s, stop = some s → s.conflict ≠ .fail :=
  (ends_of_change? (P := fun _ _ => True) (Q := fun s => s.conflict ≠ .fail) (fun _ => nofun)
    (fun table _ => outlasts_of_returned _ table) (fun _ => hc) (Or.inr fun _ _ _ => id) trivial
    hp).2

end Plan

end NamedSql.Sql
