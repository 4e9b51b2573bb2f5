import NamedSql.Sql.Evaluation

/-!
# Widths of rows

Every row that a query delivers has as many values as the query has terms to return, whichever way
the rows are found: one after the other, all of them counted as one, or put in order.

## Scope

What the values are is not said here, nor how many rows there are.

## Main definitions

* `Gives` — what holds of everything that a computation may come to
* `QueryPlan.width` — how many values a row of a query has

## Main results

* `gives_evalAll` — the values of some terms are as many as the terms
* `QueryPlan.width_of_mem` — every row of a query is as wide as the query
-/

namespace NamedSql.Sql

/-! ### What a computation comes to -/

section Gives

variable {σ ε α β : Type} {P : α → Prop} {R : β → Prop}

/-- Whatever a computation with a state may come to has a property. -/
def Gives (P : α → Prop) (x : StateT σ (Except ε) α) : Prop :=
  ∀ s a s', x.run s = .ok (a, s') → P a

theorem gives_pure {a : α} (h : P a) : Gives P (pure a : StateT σ (Except ε) α) := by
  intro s b s' hb
  cases hb
  exact h

theorem gives_throw (e : ε) : Gives P (throw e : StateT σ (Except ε) α) := by
  intro s b s' hb
  cases hb

theorem gives_lift {x : Except ε α} (h : ∀ a, x = .ok a → P a) :
    Gives P (liftM x : StateT σ (Except ε) α) := by
  intro s a s' ha
  cases x with
  | error e => cases ha
  | ok b =>
    cases ha
    exact h a rfl

/-- What a computation of two steps comes to, the second step comes to after the first. -/
theorem exists_of_run_bind {x : StateT σ (Except ε) β} {f : β → StateT σ (Except ε) α} {s s' : σ}
    {a : α} (h : (x >>= f).run s = .ok (a, s')) :
    ∃ b t, x.run s = .ok (b, t) ∧ (f b).run t = .ok (a, s') := by
  rw [StateT.run_bind] at h
  cases hr : x.run s with
  | error e =>
    rw [hr] at h
    cases h
  | ok p =>
    rw [hr] at h
    exact ⟨p.1, p.2, rfl, h⟩

theorem gives_bind_of {x : StateT σ (Except ε) β} {f : β → StateT σ (Except ε) α}
    (hx : Gives R x) (h : ∀ b, R b → Gives P (f b)) : Gives P (x >>= f) := by
  intro s a s' ha
  obtain ⟨b, t, hb, ha⟩ := exists_of_run_bind ha
  exact h b (hx s b t hb) t a s' ha

theorem gives_bind {x : StateT σ (Except ε) β} {f : β → StateT σ (Except ε) α}
    (h : ∀ b, Gives P (f b)) : Gives P (x >>= f) :=
  gives_bind_of (R := fun _ => True) (fun _ _ _ _ => trivial) fun b _ => h b

/-- Items that are treated in turn come to as many results as they are. -/
theorem gives_mapM (f : β → StateT σ (Except ε) α) (items : List β) :
    Gives (fun results => results.length = items.length) (items.mapM f) := by
  induction items with
  | nil => exact gives_pure rfl
  | cons b rest ih =>
    rw [List.mapM_cons]
    exact gives_bind fun a => gives_bind_of ih fun as h => gives_pure (congrArg Nat.succ h)

theorem gives_ite {c : Prop} [Decidable c] {x y : StateT σ (Except ε) α} (hx : Gives P x)
    (hy : Gives P y) : Gives P (if c then x else y) := by
  split
  · exact hx
  · exact hy

theorem Gives.map {f : β → α} {x : StateT σ (Except ε) β} (h : Gives (fun b => P (f b)) x) :
    Gives P (f <$> x) := by
  intro s a s' ha
  rw [StateT.run_map] at ha
  cases hr : x.run s with
  | error e =>
    rw [hr] at ha
    cases ha
  | ok p =>
    rw [hr] at ha
    cases ha
    exact h s p.1 p.2 hr

end Gives

/-! ### Evaluations -/

/-- **Terms come to as many values as they are.** -/
theorem gives_evalAll (s : Scope) (terms : List Term) :
    Gives (fun values => values.length = terms.length) (evalAll s terms) := by
  induction terms with
  | nil => exact gives_pure rfl
  | cons t rest ih =>
    rw [evalAll]
    refine gives_bind fun v => ?_
    exact gives_bind_of ih fun values h => gives_pure (congrArg Nat.succ h)

/-- What is delivered is what the items come to. -/
theorem forall_items_collect {α β : Type} {P : β → Prop} {f : α → Eval (Option β)}
    (hf : ∀ a, Gives (fun o => ∀ b ∈ o, P b) (f a)) (single : Bool) (items : List α) (m : Memo) :
    ∀ b ∈ (collect single f items m).items, P b := by
  induction items generalizing m with
  | nil => exact List.forall_mem_nil P
  | cons a rest ih =>
    rw [collect]
    split
    · exact List.forall_mem_nil P
    · exact ih _
    · rename_i b m' hb
      refine List.forall_mem_cons.mpr ⟨hf a m (some b) m' hb b rfl, ?_⟩
      split
      · exact List.forall_mem_nil P
      · exact ih m'

/-- Putting rows in order adds none. -/
theorem forall_items_inOrder {β : Type} {P : β → Prop} {d : Delivery (List Value × β)}
    (h : ∀ p ∈ d.items, P p.2) (sorted : Nat) (directions : List Bool) :
    ∀ b ∈ (inOrder sorted directions d).items, P b := by
  intro b hb
  obtain ⟨p, hp, rfl⟩ := List.mem_map.mp hb
  have hfound := List.mem_mergeSort.mp hp
  refine h p ?_
  split at hfound
  · exact (List.mem_filter.mp hfound).1
  · exact hfound

namespace QueryPlan

/-- How many values a row of a query has. -/
def width : QueryPlan → Nat
  | .mk _ columns _ _ => columns.length

/-- **Every row that a query delivers is as wide as the query.** -/
theorem width_of_mem (s : Scope) (q : QueryPlan) (m : Memo) :
    ∀ row ∈ (q.results s false m).items, row.length = q.width := by
  obtain ⟨rows, columns, order, grouped⟩ := q
  -- Whatever a row comes to is delivered only if the row is selected.
  have hselected : ∀ {β : Type} {P : β → Prop} (r : Row) (e : Eval β), Gives P e →
      Gives (fun o : Option β => ∀ b ∈ o, P b)
        (do if ← rows.holds (s.within r) then some <$> e else return none) := by
    intro β P r e he
    refine gives_bind fun selected => ?_
    split
    · refine Gives.map fun m b m' hb b' hmem => ?_
      cases hmem
      exact he m b m' hb
    · exact gives_pure nofun
  rw [results, width]
  split
  · nofun
  · dsimp only
    split
    · split
      · nofun
      · rename_i group m' _
        rw [Delivery.ofEval]
        split
        · rename_i items m'' hi
          have hg : Gives (fun items => ∀ row ∈ items, row.length = columns.length)
              (do return [← evalAll (s.withGroup group) columns]) :=
            gives_bind_of (gives_evalAll _ _) fun values h =>
              gives_pure (List.forall_mem_singleton.mpr h)
          exact hg m' items m'' hi
        · nofun
    · split
      · exact forall_items_collect (fun r => hselected r _ (gives_evalAll _ _)) _ _ _
      · rw [if_neg Bool.false_ne_true]
        refine forall_items_inOrder (P := fun row : List Value => row.length = columns.length)
          ?_ _ _
        refine forall_items_collect
          (P := fun p : List Value × List Value => p.2.length = columns.length) ?_ _ _ _
        refine fun r => hselected r _ ?_
        exact gives_bind_of (gives_evalAll _ _) fun values h => gives_bind fun _ => gives_pure h

end QueryPlan

end NamedSql.Sql
