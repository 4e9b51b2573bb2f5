import NamedSql.Proofs.Sql.Stopping

/-!
# Keys that are deferred

An open transaction owes the keys that may be missing until its end. A change of rows adds to that
debt and pays it off, but does not ask how much it is: which rows are changed, how many, and where
the change stops, is the same whatever is owed when it begins.

## Main definitions

* `Changing.Heedless` — a step that does the same whatever is owed
* `Plan.count` — the number of rows that a plan changes in a database

## Main results

* `Plan.settled_change?` — a change of rows is the same whatever is owed
* `Plan.count_of_change?` — and so is the number of rows that it changes
-/

namespace NamedSql.Sql

/-! ### Debts -/

namespace Missing

variable {m : Missing} {k : ForeignKey}

/-- Without what is owed at the end of the transaction. -/
def unowed (m : Missing) : Missing := { m with deferred := 0 }

theorem unowed_add (m : Missing) (k : ForeignKey) (n : Int) :
    (m.add k n).unowed = (m.unowed.add k n).unowed := by
  unfold add
  split <;> rfl

theorem unowed_lower (m : Missing) (k : ForeignKey) (n : Nat) :
    (m.lower k n).unowed = (m.unowed.lower k n).unowed := by
  cases hk : k.deferred with
  | true =>
    simp only [lower, count, add, hk, if_true]
    repeat' split
    all_goals rfl
  | false =>
    simp only [lower, count, add, hk, unowed, Bool.false_eq_true, if_false]
    split <;> rfl

/-- What is done for some keys in turn does not ask what is owed if it does not for any of them. -/
theorem unowed_foldl {α : Type} {f : Missing → α → Missing}
    (hf : ∀ m a, (f m a).unowed = (f m.unowed a).unowed) (items : List α) (m : Missing) :
    (items.foldl f m).unowed = (items.foldl f m.unowed).unowed := by
  have hcongr : ∀ m m' : Missing, m.unowed = m'.unowed →
      (items.foldl f m).unowed = (items.foldl f m').unowed := by
    induction items with
    | nil => exact fun m m' => id
    | cons a rest ih =>
      intro m m' h
      exact ih _ _ (by rw [hf, h, ← hf])
  exact hcongr m m.unowed rfl

theorem unowed_leaving (keys : KeyChecks) (d : Database) (t : Table) (r : Row) (m : Missing) :
    (m.leaving keys d t r).unowed = (m.unowed.leaving keys d t r).unowed := by
  have hown : ∀ m k, (if d.lacksParent k r then lower m k 1 else m).unowed =
      (if d.lacksParent k r then lower m.unowed k 1 else m.unowed).unowed := by
    intro m k
    split
    · exact unowed_lower m k 1
    · rfl
  have hreferring : ∀ (m : Missing) (p : String × ForeignKey),
      (m.add p.2 (d.children t p.1 p.2 r)).unowed =
        (m.unowed.add p.2 (d.children t p.1 p.2 r)).unowed := fun m p => unowed_add m p.2 _
  unfold leaving
  dsimp only
  rw [unowed_foldl hreferring, unowed_foldl hown, ← unowed_foldl hreferring]

theorem unowed_entering (keys : KeyChecks) (d : Database) (t : Table) (r : Row) (m : Missing) :
    (m.entering keys d t r).unowed = (m.unowed.entering keys d t r).unowed := by
  have hown : ∀ (m : Missing) (k : ForeignKey),
      (if d.lacksParent k r && !t.refersToItself k r then m.add k 1 else m).unowed =
        (if d.lacksParent k r && !t.refersToItself k r then m.unowed.add k 1
          else m.unowed).unowed := by
    intro m k
    split
    · exact unowed_add m k 1
    · rfl
  have hreferring : ∀ (m : Missing) (p : String × ForeignKey),
      (m.lower p.2 (d.children t p.1 p.2 r)).unowed =
        (m.unowed.lower p.2 (d.children t p.1 p.2 r)).unowed := fun m p => unowed_lower m p.2 _
  unfold entering
  dsimp only
  rw [unowed_foldl hreferring, unowed_foldl hown, ← unowed_foldl hreferring]

end Missing

/-- The change without what is owed at the end of the transaction. -/
def Change.unowed (c : Change) : Change := { c with missing := c.missing.unowed }

namespace Changing

variable {α β : Type}

/-- What a step comes to, without what is owed. -/
def settled (x : Except Stop (α × Change)) : Except Stop (α × Change) :=
  x.map fun p => (p.1, p.2.unowed)

/-- The step does the same whatever is owed. -/
def Heedless (x : Changing α) : Prop := ∀ c, settled (x.run c) = settled (x.run c.unowed)

theorem heedless_pure (a : α) : Heedless (pure a) := fun _ => rfl

theorem heedless_throw (stop : Stop) : Heedless (throw stop : Changing α) := fun _ => rfl

theorem heedless_lift (x : Except Stop α) : Heedless (liftM x) := by
  intro c
  cases x <;> rfl

theorem heedless_modify {f : Change → Change} (h : ∀ c, (f c).unowed = (f c.unowed).unowed) :
    Heedless (modify f) := fun c => congrArg (fun d => Except.ok ((), d)) (h c)

theorem heedless_bind {x : Changing α} {f : α → Changing β} (hx : Heedless x)
    (hf : ∀ a, Heedless (f a)) : Heedless (x >>= f) := by
  intro c
  have h := hx c
  rw [StateT.run_bind, StateT.run_bind]
  cases hr : x.run c with
  | error stop =>
    rw [hr] at h
    cases hr' : x.run c.unowed with
    | error stop' =>
      rw [hr'] at h
      cases h
      rfl
    | ok p' =>
      rw [hr'] at h
      cases h
  | ok p =>
    rw [hr] at h
    cases hr' : x.run c.unowed with
    | error stop' =>
      rw [hr'] at h
      cases h
    | ok p' =>
      rw [hr'] at h
      obtain ⟨ha, hd⟩ := Prod.mk.inj (Except.ok.inj h)
      change settled ((f p.1).run p.2) = settled ((f p'.1).run p'.2)
      rw [← ha, hf p.1 p.2, hd, ← hf p.1 p'.2]

theorem heedless_ite {b : Prop} [Decidable b] {x y : Changing α} (hx : Heedless x)
    (hy : Heedless y) : Heedless (if b then x else y) := by
  split
  · exact hx
  · exact hy

theorem heedless_mapM {f : α → Changing β} (hf : ∀ a, Heedless (f a)) (items : List α) :
    Heedless (items.mapM f) := by
  induction items with
  | nil => exact heedless_pure []
  | cons a rest ih =>
    rw [List.mapM_cons]
    exact heedless_bind (hf a) fun b => heedless_bind ih fun bs => heedless_pure _

theorem heedless_filterM {p : α → Changing Bool} (hp : ∀ a, Heedless (p a)) (items : List α) :
    Heedless (items.filterM p) := by
  have haux : ∀ kept, Heedless (items.filterAuxM p kept) := by
    induction items with
    | nil => exact fun kept => heedless_pure kept
    | cons a rest ih => exact fun kept => heedless_bind (hp a) fun b => ih _
  exact heedless_bind (haux []) fun kept => heedless_pure _

theorem heedless_table (name : String) : Heedless (table name) := fun _ => rfl

theorem heedless_evaluate (parameters : List Value) (e : Scope → Eval α) :
    Heedless (evaluate parameters e) := by
  intro c
  change settled (evaluate parameters e c) = settled (evaluate parameters e c.unowed)
  have hu : e ⟨c.unowed.database, parameters, []⟩ c.unowed.memo =
      e ⟨c.database, parameters, []⟩ c.memo := rfl
  rw [evaluate, evaluate, hu]
  cases e ⟨c.database, parameters, []⟩ c.memo <;> rfl

theorem heedless_count {f : Database → Missing → Missing}
    (h : ∀ d m, (f d m).unowed = (f d m.unowed).unowed) : Heedless (count f) :=
  heedless_modify fun c => congrArg (fun m => { c with missing := m }) (h c.database c.missing)

theorem heedless_putTable (t : Table) : Heedless (putTable t) := heedless_modify fun _ => rfl

theorem heedless_erase (keys : KeyChecks) (table : String) (r : Row) :
    Heedless (erase keys table r) :=
  heedless_bind (heedless_table table) fun t =>
    heedless_bind (heedless_count fun d m => Missing.unowed_leaving keys d t r m) fun _ =>
      heedless_putTable _

theorem heedless_finish (parameters : List Value) (returning : List Term) (r : Row) :
    Heedless (finish parameters returning r) := by
  refine heedless_bind (heedless_modify fun _ => rfl) fun _ => heedless_ite ?_ (heedless_pure ())
  exact heedless_bind (heedless_evaluate parameters _) fun values => heedless_modify fun _ => rfl

end Changing

open Changing

theorem heedless_checkConditions (conflict : Conflict) (parameters : List Value)
    (checks : List CheckPlan) (r : Row) :
    Heedless (checkConditions conflict parameters checks r) := by
  induction checks with
  | nil => exact heedless_pure _
  | cons check rest ih =>
    rw [checkConditions]
    refine heedless_bind (heedless_evaluate parameters _) fun v => ?_
    split
    · exact heedless_lift _
    · exact ih

namespace Storing

variable (s : Storing)

theorem heedless_makeRoom (other : Option Row) (f : Fault) : Heedless (s.makeRoom other f) := by
  unfold makeRoom
  split
  · exact heedless_pure _
  · exact heedless_pure _
  · exact heedless_bind (heedless_erase _ _ _) fun _ => heedless_pure _
  · exact heedless_throw _

theorem heedless_makeRoomInKeys (r : Row) (self : Option Int64) (keys : List Key) :
    Heedless (s.makeRoomInKeys r self keys) := by
  induction keys with
  | nil => exact heedless_pure _
  | cons key rest ih =>
    rw [makeRoomInKeys]
    refine heedless_bind (heedless_table _) fun t => ?_
    exact heedless_bind (s.heedless_makeRoom _ _) fun room => heedless_ite ih (heedless_pure _)

theorem heedless_accept (self : Option Int64) (r : Row) : Heedless (s.accept self r) := by
  rw [accept]
  refine heedless_bind (heedless_table _) fun t => ?_
  refine heedless_bind (heedless_lift _) fun complete => ?_
  cases complete with
  | none => exact heedless_pure _
  | some r =>
    dsimp only
    refine heedless_bind (heedless_checkConditions _ _ _ _) fun checked => ?_
    cases checked with
    | none => exact heedless_pure _
    | some r =>
      dsimp only
      refine heedless_bind (s.heedless_makeRoom _ _) fun room => heedless_ite (heedless_pure _) ?_
      exact heedless_bind (s.heedless_makeRoomInKeys _ _ _) fun room =>
        heedless_ite (heedless_pure _) (heedless_pure _)

theorem heedless_enter (keys : KeyChecks) (r : Row) : Heedless (s.enter keys r) :=
  heedless_bind (heedless_table _) fun t =>
    heedless_bind (heedless_count fun d m => Missing.unowed_entering keys d t r m) fun _ =>
      heedless_putTable _

end Storing

/-! ### Statements -/

theorem heedless_rowids (rows : Selection) (parameters : List Value) :
    Heedless (rows.rowids parameters) := by
  rw [Selection.rowids]
  refine heedless_bind (heedless_evaluate parameters _) fun candidates => ?_
  exact heedless_bind (heedless_filterM (fun r => heedless_evaluate parameters _) candidates)
    fun _ => heedless_pure _

/-- Only what may not be missing when the statement ends is asked for. -/
theorem InsertPlan.heedless_refuseOrphan (p : InsertPlan) : Heedless p.refuseOrphan := by
  have hite : ∀ c : Change, Heedless (if p.atOnce && 0 < c.missing.immediate then
      throw (.abort .foreignKey) else pure () : Changing Unit) :=
    fun c => heedless_ite (heedless_throw _) (heedless_pure ())
  exact fun c => hite c c

theorem InsertPlan.heedless_store (p : InsertPlan) (parameters given : List Value) :
    Heedless (p.store parameters given) := by
  rw [store]
  refine heedless_bind (heedless_table _) fun t => ?_
  extract_lets values storing withRowid
  have hrow : ∀ rowid, Heedless (withRowid rowid) := by
    intro rowid
    refine heedless_bind (storing.heedless_accept _ _) fun accepted => ?_
    cases accepted with
    | none => exact heedless_pure _
    | some r =>
      exact heedless_bind (storing.heedless_enter _ _) fun _ =>
        heedless_bind p.heedless_refuseOrphan fun _ =>
          heedless_bind (heedless_modify fun _ => rfl) fun _ => heedless_finish _ _ _
  split
  · exact heedless_bind (heedless_pure _) hrow
  · exact heedless_bind (heedless_lift _) hrow

theorem UpdatePlan.heedless_step (p : UpdatePlan) (parameters : List Value) (rowid : Int64) :
    Heedless (p.step parameters rowid) := by
  rw [step]
  refine heedless_bind (heedless_table _) fun t => ?_
  split
  · rename_i old _
    refine heedless_bind (heedless_evaluate parameters _) fun rowids => ?_
    extract_lets storing withRowid
    have hrow : ∀ newRowid, Heedless (withRowid newRowid) := by
      intro newRowid
      refine heedless_bind (heedless_evaluate parameters _) fun given => ?_
      refine heedless_bind (storing.heedless_accept _ _) fun accepted => ?_
      cases accepted with
      | none => exact heedless_pure _
      | some r =>
        exact heedless_bind (heedless_erase _ _ _) fun _ =>
          heedless_bind (storing.heedless_enter _ _) fun _ => heedless_finish _ _ _
    split
    · exact heedless_bind (heedless_lift _) hrow
    · exact heedless_bind (heedless_pure _) hrow
  · exact heedless_pure _

theorem DeletePlan.heedless_step (p : DeletePlan) (parameters : List Value) (rowid : Int64) :
    Heedless (p.step parameters rowid) := by
  rw [step]
  refine heedless_bind (heedless_table _) fun t => ?_
  split
  · exact heedless_bind (heedless_erase _ _ _) fun _ => heedless_finish _ _ _
  · exact heedless_pure _

/-- What a change has come to, without what is owed. -/
def Change.settled (p : Change × Option Stop) : Change × Option Stop := (p.1.unowed, p.2)

theorem settled_through {α : Type} {step : α → Changing Unit} (hs : ∀ a, Heedless (step a))
    (items : List α) {c c' : Change} (h : c.unowed = c'.unowed) :
    Change.settled (Change.through step items c) =
      Change.settled (Change.through step items c') := by
  induction items generalizing c c' with
  | nil => exact congrArg (fun c => (c, none)) h
  | cons a rest ih =>
    have hrun : settled ((step a).run c) = settled ((step a).run c') := by
      rw [hs a c, h, ← hs a c']
    cases hr : (step a).run c with
    | error stop =>
      rw [hr] at hrun
      cases hr' : (step a).run c' with
      | error stop' =>
        rw [hr'] at hrun
        cases hrun
        rw [Change.through_cons_error hr, Change.through_cons_error hr']
        exact congrArg (fun c => (c, some stop)) h
      | ok p' =>
        rw [hr'] at hrun
        cases hrun
    | ok p =>
      rw [hr] at hrun
      cases hr' : (step a).run c' with
      | error stop' =>
        rw [hr'] at hrun
        cases hrun
      | ok p' =>
        rw [hr'] at hrun
        rw [Change.through_cons_ok hr, Change.through_cons_ok hr']
        exact ih (Prod.mk.inj (Except.ok.inj hrun)).2

theorem settled_throughFound {α : Type} {found : Changing (List α)} {step : α → Changing Unit}
    (hf : Heedless found) (hs : ∀ a, Heedless (step a)) (c : Change) :
    Change.settled (throughFound found step c) =
      Change.settled (throughFound found step c.unowed) := by
  have hrun := hf c
  rw [throughFound, throughFound]
  cases hr : found.run c with
  | error stop =>
    rw [hr] at hrun
    cases hr' : found.run c.unowed with
    | error stop' =>
      rw [hr'] at hrun
      cases hrun
      rfl
    | ok p' =>
      rw [hr'] at hrun
      cases hrun
  | ok p =>
    rw [hr] at hrun
    cases hr' : found.run c.unowed with
    | error stop' =>
      rw [hr'] at hrun
      cases hrun
    | ok p' =>
      rw [hr'] at hrun
      obtain ⟨ha, hd⟩ := Prod.mk.inj (Except.ok.inj hrun)
      dsimp only at ha hd ⊢
      rw [ha]
      exact settled_through hs _ hd

namespace Plan

variable {p : Plan} {values : List Value}

/-- **A change of rows is the same whatever is owed**, but for what is owed in the end. -/
theorem settled_change? (p : Plan) (values : List Value) (c : Change) :
    (p.change? values c).map Change.settled = (p.change? values c.unowed).map Change.settled := by
  cases p with
  | insert p =>
    have hg : ∀ row, Heedless (InsertPlan.given values row) := fun row => heedless_evaluate values _
    refine congrArg some ?_
    cases ha : p.ahead with
    | true =>
      rw [InsertPlan.run_of_ahead ha, InsertPlan.run_of_ahead ha]
      exact settled_throughFound (heedless_mapM hg p.rows) (p.heedless_store values) c
    | false =>
      rw [InsertPlan.run_of_not_ahead ha, InsertPlan.run_of_not_ahead ha]
      exact settled_through (fun row => heedless_bind (hg row) (p.heedless_store values)) p.rows rfl
  | update p =>
    refine congrArg some ?_
    rw [UpdatePlan.run, UpdatePlan.run]
    split
    · exact settled_throughFound (heedless_rowids _ _) (p.heedless_step values) c
    · refine settled_throughFound (heedless_evaluate _ _) (fun r => ?_) c
      exact heedless_bind (heedless_evaluate _ _) fun selected =>
        heedless_ite (p.heedless_step values _) (heedless_pure _)
  | delete p =>
    exact congrArg some (settled_throughFound (heedless_rowids _ _) (p.heedless_step values) c)
  | _ => rfl

/-- The number of rows that a plan changes in a database. -/
def count (p : Plan) (values : List Value) (d : Database) : Nat :=
  ((p.change? values (.start d .none)).map fun q => q.1.count).getD 0

/-- **How many rows are changed does not depend on what is owed.** -/
theorem count_of_change? {d : Database} {deferred : Int} {change : Change} {stop : Option Stop}
    (h : p.change? values (.start d ⟨0, deferred⟩) = some (change, stop)) :
    change.count = p.count values d := by
  have hs := p.settled_change? values (.start d ⟨0, deferred⟩)
  rw [h] at hs
  obtain ⟨q, hq, hsettled⟩ := Option.map_eq_some_iff.mp hs.symm
  change p.change? values (.start d .none) = some q at hq
  rw [count, hq]
  exact congrArg (fun r : Change × Option Stop => r.1.count) hsettled.symm

end Plan

end NamedSql.Sql
