import NamedSql.Proofs.Sql.Definitions
import NamedSql.Proofs.Sql.PlanKinds

/-!
# Resolving a statement again

A statement that was resolved once is resolved in the same way in every place for names that is
alike: if the tables that it mentions have the same definitions, and if every call that has found a
function finds it again. So a prepared statement need not be prepared anew to mean what it says.

## Scope

What fails in the one place may succeed in the other: a function may be registered by then that was
missing before. A fault that is no reason to stop waits until the end of the search, so the law for
a part of a search speaks of faults that wait, too.

## Main definitions

* `Resolve.Agrees` — wherever one search succeeds, another one does the same

## Main results

* `Names.agrees_term`, `Names.agrees_query` — expressions and queries, by the recursion of the
  search
* `Names.agrees_statement` — statements, whatever they do
* `Names.resolve_of_like` — a statement that is resolved once is resolved in the same way again
-/

namespace NamedSql.Sql

namespace Resolve

variable {α β : Type} {x x' y y' : Resolve α}

/-- Wherever the one search succeeds without leaving the fault of a call to wait, none has waited
before, and the other search does the same. -/
def Agrees (x y : Resolve α) : Prop :=
  ∀ w a w', x.run w = .ok (a, w') → w'.call = none → w.call = none ∧ y.run w = .ok (a, w')

theorem agrees_pure (a : α) : Agrees (pure a) (pure a) := by
  intro w b w' h hw
  cases h
  exact ⟨hw, rfl⟩

theorem agrees_throw (f : Fault) (y : Resolve α) : Agrees (throw f) y := by
  intro w a w' h
  cases h

theorem agrees_throw_bind (f : Fault) (k : β → Resolve α) (y : Resolve α) :
    Agrees ((throw f : Resolve β) >>= k) y := by
  intro w a w' h
  cases h

theorem agrees_later (f : Fault) : Agrees (later f) (later f) := by
  intro w a w' h hw
  cases h
  exact ⟨hw, rfl⟩

theorem run_settle (w : Waiting) :
    settle.run w = match w.call with
      | some f => .error f
      | none => .ok ((), w) := by
  rw [settle, StateT.run_bind, StateT.run_get]
  cases h : w.call with
  | some f => simp only [pure_bind, h]; rfl
  | none => simp only [pure_bind, h]; rfl

theorem agrees_settle : Agrees settle settle := by
  intro w a w' h hw
  rw [run_settle] at h ⊢
  cases hc : w.call with
  | some f =>
    rw [hc] at h
    cases h
  | none =>
    rw [hc] at h
    cases h
    exact ⟨rfl, rfl⟩

theorem agrees_lift (x : Except Fault α) : Agrees (liftM x) (liftM x) := by
  intro w a w' h hw
  refine ⟨?_, h⟩
  cases x with
  | error f => cases h
  | ok b =>
    cases h
    exact hw

theorem agrees_bind {f g : α → Resolve β} (hx : Agrees x y) (hf : ∀ a, Agrees (f a) (g a)) :
    Agrees (x >>= f) (y >>= g) := by
  intro w b w' h hw
  rw [StateT.run_bind] at h ⊢
  cases hr : x.run w with
  | error e =>
    rw [hr] at h
    cases h
  | ok p =>
    rw [hr] at h
    obtain ⟨hc, hg⟩ := hf p.1 p.2 b w' h hw
    obtain ⟨hc, hy⟩ := hx w p.1 p.2 hr hc
    rw [hy]
    exact ⟨hc, hg⟩

/-- Searches that go on with what two others have found that match. -/
theorem agrees_lift_bind {γ : Type} {R : α → γ → Prop} {found : Except Fault α}
    {found' : Except Fault γ} (hm : Matches R found found') {f : α → Resolve β}
    {g : γ → Resolve β} (hf : ∀ a b, R a b → Agrees (f a) (g b)) :
    Agrees (liftM found >>= f) (liftM found' >>= g) := by
  cases hm with
  | error e => exact fun w a w' h => nomatch h
  | ok h => exact hf _ _ h

/-- The fault of a call that has come to wait does not go away. -/
theorem agrees_remember_bind (f : Fault) {k : Unit → Resolve α} {z : Resolve α}
    (hk : Agrees (k ()) z) (y : Resolve α) : Agrees (remember f >>= k) y := by
  intro w a w' h hw
  obtain ⟨hc, -⟩ := hk { w with call := some f } a w' h hw
  cases hc

theorem agrees_ite {c : Prop} [Decidable c] (hx : c → Agrees x y) (hx' : ¬c → Agrees x' y') :
    Agrees (if c then x else x') (if c then y else y') := by
  by_cases h : c
  · rw [if_pos h, if_pos h]
    exact hx h
  · rw [if_neg h, if_neg h]
    exact hx' h

theorem agrees_valueTerm (v : Except Fault Value) : Agrees (valueTerm v) (valueTerm v) := by
  cases v with
  | ok v => exact agrees_pure _
  | error f => exact agrees_bind (agrees_later f) fun _ => agrees_pure _

theorem agrees_forM (items : List β) {f g : β → Resolve Unit} (hf : ∀ a, Agrees (f a) (g a)) :
    Agrees (items.forM f) (items.forM g) := by
  induction items with
  | nil => exact agrees_pure ()
  | cons a rest ih => exact agrees_bind (hf a) fun _ => ih

theorem agrees_mapM (items : List β) {f g : β → Resolve α} (hf : ∀ a, Agrees (f a) (g a)) :
    Agrees (items.mapM f) (items.mapM g) := by
  induction items with
  | nil => exact agrees_pure []
  | cons a rest ih =>
    rw [List.mapM_cons, List.mapM_cons]
    exact agrees_bind (hf a) fun _ => agrees_bind ih fun _ => agrees_pure _

theorem agrees_tooEarly (aggregates : List Aggregate) :
    Agrees (tooEarly aggregates) (tooEarly aggregates) :=
  agrees_forM aggregates fun _ => agrees_later _

/-- A search that succeeds leaves no fault to wait, so every search that agrees with it comes to the
same. -/
theorem Agrees.start (h : Agrees x y) {a : α} (hx : start x = .ok a) : Resolve.start y = .ok a := by
  have hs : ∀ z : Resolve α, Resolve.start z =
      Prod.fst <$> (z >>= fun a => finish >>= fun _ => pure a : Resolve α).run ⟨none, none⟩ :=
    fun _ => rfl
  rw [hs, StateT.run_bind] at hx ⊢
  cases hr : x.run ⟨none, none⟩ with
  | error e =>
    rw [hr] at hx
    cases hx
  | ok p =>
    rw [hr] at hx
    have hc : p.2.call = none := by
      cases hc : p.2.call with
      | none => rfl
      | some f =>
        change ((finish >>= fun _ => pure p.1 : Resolve α).run p.2 >>= _) = _ at hx
        rw [finish, StateT.run_bind, StateT.run_bind, run_settle, hc] at hx
        cases hx
    rw [(h _ p.1 p.2 hr hc).2]
    exact hx

end Resolve

namespace Names

open Resolve

/-! ### Expressions -/

theorem everyColumn_of_sameSource {t t' : Option (String × Table)} (h : SameSource t t') :
    (t'.elim [] fun p => everyColumn p.2) = t.elim [] fun p => everyColumn p.2 := by
  cases h <;> rfl

theorem resultName_of_sameSource {t t' : Option (String × Table)} (h : SameSource t t')
    (label : Option String) (written : String) (v : Term) :
    resultName t' label written v = resultName t label written v := by
  cases h <;> rfl

mutual

theorem agrees_term {n n' : Names} (h : n.Like n') : ∀ e : Expr,
    (e.mentions = true → n.SameTables n') → Agrees (n.term e) (n'.term e)
  | .literal l offset, _ => by
    simp only [Names.term]
    exact agrees_bind agrees_settle fun _ => agrees_valueTerm _
  | .parameter number offset, _ => by
    simp only [Names.term, h.inCheck]
    exact agrees_ite (fun _ => agrees_throw_bind _ _ _) fun _ =>
      agrees_bind agrees_settle fun _ => agrees_pure _
  | .column c, _ => by
    simp only [Names.term, h.column]
    exact agrees_lift _
  | .not e, ht => by
    have he := agrees_term h e fun hm => ht (by rw [Expr.mentions, hm])
    simp only [Names.term]
    exact agrees_bind agrees_settle fun _ => agrees_bind he fun _ => agrees_pure _
  | .negate e, ht => by
    have he := agrees_term h e fun hm => ht (by rw [Expr.mentions, hm])
    simp only [Names.term]
    refine agrees_bind agrees_settle fun _ => ?_
    cases e.negated? with
    | some v => exact agrees_valueTerm v
    | none => exact agrees_bind he fun _ => agrees_pure _
  | .plus e, ht => by
    have he := agrees_term h e fun hm => ht (by rw [Expr.mentions, hm])
    simp only [Names.term]
    exact agrees_bind agrees_settle fun _ => agrees_bind he fun _ => agrees_pure _
  | .binary op l r, ht => by
    have hl := agrees_term h l fun hm => ht (by rw [Expr.mentions, hm, Bool.true_or])
    have hr := agrees_term h r fun hm => ht (by rw [Expr.mentions, hm, Bool.or_true])
    simp only [Names.term]
    exact agrees_bind agrees_settle fun _ => agrees_bind hl fun _ => agrees_bind hr fun _ =>
      agrees_pure _
  | .call name offset arguments, ht => by
    have hm : mentionsInAll arguments = true → n.SameTables n' := fun hm =>
      ht (by rw [Expr.mentions, hm])
    have ha := agrees_terms h arguments hm
    simp only [Names.term]
    -- A call that finds no function leaves its fault to wait, so only the others have to agree.
    cases hf : Function.resolve n.functions name arguments.length with
    | found callee =>
      rw [h.functions _ _ _ hf]
      cases callee with
      | registered f => exact agrees_bind ha fun _ => agrees_pure _
      | typeOf => exact agrees_bind ha fun _ => agrees_pure _
      | count =>
        have hc := agrees_terms h.withinAggregate arguments hm
        rw [← h.allowsAggregates]
        have hk := agrees_bind hc fun arguments => agrees_pure
          (arguments.head?.elim (Term.countRows ⟨Term.owner arguments, name, offset⟩)
            (Term.count ⟨Term.owner arguments, name, offset⟩))
        exact agrees_ite (fun _ => agrees_remember_bind _ hk _) fun _ => hk
    | wrongCount => exact agrees_remember_bind _ (agrees_bind ha fun _ => agrees_pure _) _
    | unknown => exact agrees_remember_bind _ (agrees_bind ha fun _ => agrees_pure _) _
  | .scalar offset q, ht => by
    have hm : q.mentions = true → n.SameTables n' := fun hm => ht (by rw [Expr.mentions, hm])
    have hq := agrees_query h .firstRow q hm
    simp only [Names.term, h.inCheck, checkTablesOfQuery_of_sameTables q hm]
    refine agrees_ite (fun _ => agrees_throw_bind _ _ _) fun _ => ?_
    refine agrees_bind (agrees_lift _) fun _ => agrees_bind hq fun p => ?_
    refine agrees_bind agrees_settle fun _ => ?_
    exact agrees_ite (fun _ => agrees_bind (agrees_later _) fun _ => agrees_pure _) fun _ =>
      agrees_pure _

theorem agrees_terms {n n' : Names} (h : n.Like n') : ∀ es : List Expr,
    (mentionsInAll es = true → n.SameTables n') → Agrees (n.terms es) (n'.terms es)
  | [], _ => by
    simp only [Names.terms]
    exact agrees_pure []
  | e :: rest, ht => by
    have he := agrees_term h e fun hm => ht (by rw [mentionsInAll, hm, Bool.true_or])
    have hr := agrees_terms h rest fun hm => ht (by rw [mentionsInAll, hm, Bool.or_true])
    simp only [Names.terms]
    exact agrees_bind he fun _ => agrees_bind hr fun _ => agrees_pure _

theorem agrees_results {n n' : Names} (h : n.Like n') {t t' : Option (String × Table)}
    (hs : SameSource t t') : ∀ columns : List ResultColumn,
    (mentionsInResults columns = true → n.SameTables n') →
      Agrees (n.results t columns) (n'.results t' columns)
  | [], _ => by
    simp only [Names.results]
    exact agrees_pure []
  | .value e label written :: rest, ht => by
    have hr := agrees_results h hs rest fun hm => ht (by rw [mentionsInResults, hm, Bool.or_true])
    simp only [Names.results, resultName_of_sameSource hs]
    refine agrees_lift_bind (h.around e) fun m m' hm => ?_
    have he := agrees_term hm.1 e fun he => hm.2 (ht (by rw [mentionsInResults, he, Bool.true_or]))
    exact agrees_bind he fun _ => agrees_bind agrees_settle fun _ => agrees_bind hr fun _ =>
      agrees_pure _
  | .everything :: rest, ht | .allOf _ :: rest, ht => by
    have hr := agrees_results h hs rest fun hm => ht (by rw [mentionsInResults, hm]; simp)
    simp only [Names.results, everyColumn_of_sameSource hs]
    exact agrees_bind hr fun _ => agrees_pure _

theorem agrees_conditions {n n' : Names} (h : n.Like n') : ∀ condition : Option Expr,
    (mentionsInCondition condition = true → n.SameTables n') →
      Agrees (n.conditions condition) (n'.conditions condition)
  | none, _ => by
    simp only [Names.conditions]
    exact agrees_pure []
  | some e, ht => by
    simp only [Names.conditions]
    refine agrees_lift_bind (h.around e) fun m m' hm => ?_
    have he := agrees_term hm.1 e fun he => hm.2 (ht (by rw [mentionsInCondition, he]))
    exact agrees_bind he fun _ => agrees_bind agrees_settle fun _ => agrees_pure _

theorem agrees_orderKeys {n n' : Names} (h : n.Like n') (results : List Result) (number : Nat) :
    ∀ order : List OrderTerm, (mentionsInOrder order = true → n.SameTables n') →
      Agrees (n.orderKeys results number order) (n'.orderKeys results number order)
  | [], _ => by
    simp only [Names.orderKeys]
    exact agrees_pure []
  | .mk e descending :: rest, ht => by
    have hr := agrees_orderKeys h results (number + 1) rest fun hm =>
      ht (by rw [mentionsInOrder, hm, Bool.or_true])
    simp only [Names.orderKeys]
    refine agrees_bind (agrees_lift _) fun known => ?_
    have hk := fun t : Term => agrees_bind agrees_settle fun _ => agrees_bind hr fun keys =>
      agrees_pure (OrderKey.mk t descending :: keys)
    cases known with
    | some t => exact agrees_bind (agrees_pure t) hk
    | none =>
      refine agrees_lift_bind (h.around e) fun m m' hm => ?_
      exact agrees_bind (agrees_term hm.1 e fun he =>
        hm.2 (ht (by rw [mentionsInOrder, he, Bool.true_or]))) hk

theorem agrees_query {n n' : Names} (h : n.Like n') (purpose : Purpose) : ∀ q : Select,
    (q.mentions = true → n.SameTables n') → Agrees (n.query purpose q) (n'.query purpose q)
  | .mk columns source condition order, ht => by
    have hs : Matches SameSource (n.source source) (n'.source source) :=
      SameTables.source fun hm => ht (by simp only [Select.mentions, hm, Bool.true_or])
    simp only [Names.query]
    refine agrees_lift_bind hs fun t t' hs => ?_
    have hc := agrees_results (h.within (.mk hs [] true)) hs columns fun hm =>
      ht (by simp only [Select.mentions, hm, Bool.or_true, Bool.true_or])
    refine agrees_bind hc fun results => ?_
    have hw := fun grouped => agrees_conditions (h.within (.mk hs (Result.labels results) grouped))
      condition fun hm => ht (by simp only [Select.mentions, hm, Bool.or_true, Bool.true_or])
    refine agrees_bind (hw _) fun conditions => ?_
    have ho := agrees_orderKeys (h.withLevel (.mk hs (Result.labels results) true)) results 1 order
      fun hm => ht (by simp only [Select.mentions, hm, Bool.or_true])
    refine agrees_bind ho fun keys => agrees_bind (agrees_lift _) fun _ => ?_
    refine agrees_bind (agrees_tooEarly _) fun _ => ?_
    cases hs with
    | none =>
      exact agrees_ite (fun _ => agrees_bind (agrees_tooEarly _) fun _ => agrees_pure _) fun _ =>
        agrees_pure _
    | some called t rows =>
      simp only [Table.selection_of_rows]
      exact agrees_ite (fun _ => agrees_bind (agrees_tooEarly _) fun _ => agrees_pure _) fun _ =>
        agrees_pure _

end

/-! ### Changes of rows -/

theorem agrees_rowTerm {n n' : Names} (h : n.Like n') (ht : n.SameTables n') (e : Expr) :
    Agrees (n.rowTerm e) (n'.rowTerm e) := by
  rw [rowTerm, rowTerm]
  refine agrees_lift_bind (h.around e) fun m m' hm => ?_
  exact agrees_bind (agrees_term hm.1 e fun _ => hm.2 ht) fun _ => agrees_bind agrees_settle
    fun _ => agrees_bind (agrees_tooEarly _) fun _ => agrees_pure _

section Changes

variable {n n' : Names} (h : n.Like n') (hd : n'.database.definitions = n.database.definitions)
  (hk : n'.foreignKeys = n.foreignKeys)

include hd hk in
theorem keyChecks_of_definitions (t : Table) (rows : List Row) :
    n'.keyChecks { t with rows } = n.keyChecks t := by
  have hc : ∀ d : Database, d.tables.map (fun child =>
      (child.foreignKeys.filter fun k => Token.sameName k.parent t.name).map fun k =>
        (child.name, k)) = d.definitions.map fun child =>
      (child.foreignKeys.filter fun k => Token.sameName k.parent t.name).map fun k =>
        (child.name, k) := by
    intro d
    rw [Database.definitions, List.map_map]
    rfl
  rw [keyChecks, keyChecks, hk, hc n.database, ← hd, ← hc n'.database]

theorem checkKeys_of_sameTables (ht : n.SameTables n') (t : Table) (rows : List Row)
    (k : KeyChecks) : n'.checkKeys { t with rows } k = n.checkKeys t k := by
  simp only [checkKeys]
  congr 1
  congr 1
  funext k
  cases hf : n.database.find? k.parent with
  | none => rw [ht.find?_eq_none hf]
  | some parent =>
    obtain ⟨rows, hf'⟩ := ht.find? hf
    rw [hf']
    rfl

theorem agrees_checkKeys (ht : n.SameTables n') (t : Table) (rows : List Row) (k : KeyChecks) :
    Agrees (liftM (n.checkKeys t k)) (liftM (n'.checkKeys { t with rows } k)) := by
  rw [checkKeys_of_sameTables ht]
  exact agrees_lift _

include h in
theorem Like.forRow (t : Table) (rows : List Row) :
    (n.forRow (some t)).Like (n'.forRow (some { t with rows })) :=
  h.within (.mk (.some t.name t rows) [] false)

include h in
theorem agrees_returning (ht : n.SameTables n') (t : Table) (rows : List Row)
    (columns : List ResultColumn) :
    Agrees (n.returning t columns) (n'.returning { t with rows } columns) := by
  have hs : SameSource (some (t.name, t)) (some (t.name, { t with rows })) := .some t.name t rows
  simp only [returning, checkWidth_of_sameSource hs,
    checkTablesOfResults_of_sameTables columns fun _ => ht]
  refine agrees_ite (fun _ => agrees_throw_bind _ _ _) fun _ => ?_
  refine agrees_bind (agrees_lift _) fun _ => agrees_bind (agrees_lift _) fun _ => ?_
  refine agrees_bind (agrees_results (h.within (.mk hs [] true)) hs columns fun _ => ht) fun _ => ?_
  refine agrees_bind (agrees_results (h.forRow t rows) hs columns fun _ => ht) fun _ => ?_
  exact agrees_bind (agrees_tooEarly _) fun _ => agrees_pure _

include h in
theorem agrees_checks (ht : n.SameTables n') (t : Table) (rows : List Row) :
    Agrees (n.checks t) (n'.checks { t with rows }) := by
  have hc : ({ n.forRow (some t) with inCheck := true } : Names).Like
      { n'.forRow (some { t with rows }) with inCheck := true } :=
    { h.forRow t rows with inCheck := rfl }
  rw [checks, checks]
  exact agrees_mapM t.checks fun c => agrees_bind (agrees_rowTerm hc ht c.condition) fun _ =>
    agrees_pure _

include h in
theorem agrees_rowConditions (ht : n.SameTables n') (t : Table) (rows : List Row)
    (e : Option Expr) :
    Agrees (n.rowConditions t e) (n'.rowConditions { t with rows } e) := by
  rw [rowConditions, rowConditions]
  exact agrees_bind (agrees_conditions (h.forRow t rows) e fun _ => ht) fun _ =>
    agrees_bind (agrees_tooEarly _) fun _ => agrees_pure _

include h in
theorem agrees_insertedRows (ht : n.SameTables n') (width : Option Nat) (rows : List (List Expr)) :
    Agrees (n.insertedRows width rows) (n'.insertedRows width rows) := by
  induction rows generalizing width with
  | nil => exact agrees_pure []
  | cons row above ih =>
    rw [insertedRows, insertedRows]
    refine agrees_bind (agrees_mapM row fun e => agrees_rowTerm h ht e) fun values => ?_
    refine agrees_ite (fun _ => agrees_throw_bind _ _ _) fun _ => ?_
    exact agrees_bind (ih _) fun _ => agrees_pure _

include h in
theorem agrees_assignments (ht : n.SameTables n') (t : Table) (rows : List Row)
    (assigned : List (String × Expr)) :
    Agrees (n.assignments t assigned) (n'.assignments { t with rows } assigned) := by
  induction assigned with
  | nil => exact agrees_pure []
  | cons first rest ih =>
    obtain ⟨name, e⟩ := first
    simp only [assignments, Table.column?_rows]
    refine agrees_bind (agrees_rowTerm (h.forRow t rows) ht e) fun v => ?_
    have hr := fun target : Option Nat => agrees_bind ih fun rest =>
      agrees_pure ((target, v) :: rest)
    cases t.column? name with
    | some i => exact agrees_bind (agrees_pure _) hr
    | none => exact agrees_ite (fun _ => agrees_bind (agrees_pure _) hr) fun _ =>
        agrees_throw_bind _ _ _

include h hd hk in
theorem agrees_insert (s : Insert) : Agrees (n.insert s) (n'.insert s) := by
  have ht := SameTables.of_definitions hd
  rw [insert, insert]
  refine agrees_lift_bind (ht.table s.table) ?_
  rintro t t' ⟨given, rfl⟩
  rw [keyChecks_of_definitions hd hk]
  refine agrees_bind (agrees_mapM _ fun name => ?_) fun targets => ?_
  · simp only [Table.column?_rows]
    cases t.column? name with
    | some i => exact agrees_pure _
    | none => exact agrees_ite (fun _ => agrees_pure _) fun _ => agrees_throw _ _
  · extract_lets several isRowidTarget rowid positions keys replaces atOnce stored isRowidTarget'
      rowid' positions' replaces' atOnce' stored'
    have hr : ∀ u, Agrees (stored u) (stored' u) := by
      intro u
      refine agrees_bind (agrees_insertedRows (h.within (.mk .none [] several)) ht _ _)
        fun rows => ?_
      extract_lets supplied ahead finished ahead' finished'
      have hf : ∀ u, Agrees (finished u) (finished' u) := by
        intro u
        refine agrees_bind (agrees_checkKeys ht t given _) fun _ => ?_
        refine agrees_bind (agrees_checks h ht t given) fun checks => ?_
        refine agrees_bind (agrees_returning h ht t given s.returning) fun returned => ?_
        exact agrees_pure _
      cases s.columns with
      | none => exact agrees_ite (fun _ => agrees_throw_bind _ _ _) fun _ => hf ()
      | some _ => exact agrees_ite (fun _ => agrees_throw_bind _ _ _) fun _ => hf ()
    refine agrees_ite (fun _ => agrees_bind (agrees_forM _ fun row => ?_) hr) fun _ => hr ()
    rw [checkTablesOfAll_of_sameTables row fun _ => ht]
    exact agrees_lift _

include h hd hk in
theorem agrees_update (s : Update) : Agrees (n.update s) (n'.update s) := by
  have ht := SameTables.of_definitions hd
  rw [update, update]
  refine agrees_lift_bind (ht.table s.table) ?_
  rintro t t' ⟨given, rfl⟩
  rw [keyChecks_of_definitions hd hk]
  refine agrees_bind (agrees_assignments h ht t given s.assignments) fun assigned => ?_
  refine agrees_bind (agrees_rowConditions h ht t given s.condition) fun conditions => ?_
  refine agrees_bind (agrees_checkKeys ht t given _) fun _ => ?_
  refine agrees_bind (agrees_checks h ht t given) fun checks => ?_
  refine agrees_bind (agrees_returning h ht t given s.returning) fun returned => ?_
  simp only [changedRows, Table.selection_of_rows]
  exact agrees_pure _

include h hd hk in
theorem agrees_delete (s : Delete) : Agrees (n.delete s) (n'.delete s) := by
  have ht := SameTables.of_definitions hd
  rw [delete, delete]
  refine agrees_lift_bind (ht.table s.table) ?_
  rintro t t' ⟨given, rfl⟩
  rw [keyChecks_of_definitions hd hk]
  refine agrees_bind (agrees_rowConditions h ht t given s.condition) fun conditions => ?_
  refine agrees_bind (agrees_checkKeys ht t given _) fun _ => ?_
  refine agrees_bind (agrees_returning h ht t given s.returning) fun returned => ?_
  simp only [changedRows, Table.selection_of_rows]
  exact agrees_pure _

/-! ### Definitions of tables -/

include h hd in
theorem agrees_createTable (s : CreateTable) : Agrees (n.createTable s) (n'.createTable s) := by
  have ht := SameTables.of_definitions hd
  have hs : (n'.database.find? s.table).isSome = (n.database.find? s.table).isSome := by
    rw [← Option.isSome_map (f := Table.definition), ht s.table, Option.isSome_map]
  have hc : ∀ t, Agrees (n.checks t) (n'.checks t) := fun t => agrees_checks h ht t t.rows
  rw [createTable, createTable, hs]
  refine agrees_ite (fun _ => agrees_throw_bind _ _ _) fun _ => ?_
  refine agrees_ite (fun _ => ?_) fun _ => ?_
  · exact agrees_ite (fun _ => agrees_pure _) fun _ => agrees_throw_bind _ _ _
  · exact agrees_bind (agrees_lift _) fun t => agrees_bind (hc t) fun _ => agrees_pure _

include h hd hk in
theorem agrees_extendTable (table : String) (c : ColumnDefinition) :
    Agrees (n.extendTable table c) (n'.extendTable table c) := by
  have ht := SameTables.of_definitions hd
  rw [extendTable, extendTable, hk]
  refine agrees_lift_bind (ht.table table) ?_
  rintro t t' ⟨given, rfl⟩
  refine agrees_bind (agrees_lift _) fun extended => ?_
  refine agrees_ite (fun _ => agrees_throw_bind _ _ _) fun _ => ?_
  refine agrees_ite (fun _ => agrees_throw_bind _ _ _) fun _ => ?_
  exact agrees_bind (agrees_checks h ht { extended with name := t.name } extended.rows) fun _ =>
    agrees_pure _

end Changes

/-! ### Statements -/

/-- Searches for the names of one statement agree if names are looked up alike, if the tables that
it may mention have the same definitions, and if keys of other tables are treated alike, which does
not matter to a query. -/
theorem agrees_statement {n n' : Names} (h : n.Like n') {s : Statement}
    (hd : s.mentions = true → n'.database.definitions = n.database.definitions)
    (hk : s.isSelect = false → n'.foreignKeys = n.foreignKeys) :
    Agrees (n.statement s) (n'.statement s) := by
  cases s with
  | select q =>
    have ht : q.mentions = true → n.SameTables n' := fun hq => SameTables.of_definitions (hd hq)
    simp only [Names.statement, checkTablesOfQuery_of_sameTables q ht]
    refine agrees_bind (agrees_lift _) fun _ => ?_
    exact agrees_bind (agrees_query h .rows q ht) fun _ => agrees_pure _
  | insert s => exact agrees_insert h (hd rfl) (hk rfl) s
  | update s => exact agrees_update h (hd rfl) (hk rfl) s
  | delete s => exact agrees_delete h (hd rfl) (hk rfl) s
  | createTable s => exact agrees_createTable h (hd rfl) s
  | dropTable table ifExists =>
    have ht := SameTables.of_definitions (hd rfl)
    simp only [Names.statement]
    cases hf : n.database.find? table with
    | none =>
      rw [ht.find?_eq_none hf]
      exact agrees_ite (fun _ => agrees_pure _) fun _ => agrees_throw _ _
    | some t =>
      obtain ⟨rows, hf'⟩ := ht.find? hf
      rw [hf']
      dsimp only
      rw [keyChecks_of_definitions (hd rfl) (hk rfl)]
      exact agrees_pure _
  | addColumn table column => exact agrees_extendTable h (hd rfl) (hk rfl) table column
  | control c => exact agrees_pure _
  | pragma name value =>
    have hp : n'.pragma name value = n.pragma name value := by
      rw [pragma, pragma, hk rfl]
    simp only [Names.statement, hp]
    exact agrees_pure _

/-- **A statement that is resolved once is resolved in the same way again**, as long as names are
looked up alike and the tables that it may mention have the same definitions. -/
theorem resolve_of_like {n n' : Names} (h : n.Like n') {s : Statement} {r : Resolved}
    (hd : s.mentions = true → n'.database.definitions = n.database.definitions)
    (hk : s.isSelect = false → n'.foreignKeys = n.foreignKeys) (hr : n.resolve s = .ok r) :
    n'.resolve s = .ok r :=
  (agrees_statement h hd hk).start hr

end Names

end NamedSql.Sql
