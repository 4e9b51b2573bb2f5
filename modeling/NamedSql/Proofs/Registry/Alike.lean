import NamedSql.Proofs.Registry.Causes
import NamedSql.Proofs.Sql.Shuffling

/-!
# Registries that do the same

Two registries that differ in nothing but the order in which their sessions keep the statements of
the loaded queries do the same, whatever is done with them: the same is returned, and again they
differ in nothing but that order. So what has only been looked up leaves no trace.

## Scope

The statements that are kept are those of the loaded queries, and no others. This is so as long as
no load has failed: one that fails leaves statements behind, and the next one may give up others for
that. Logs are left out.

## Main definitions

* `Registry.Alike` — two registries differ in the order of their statements only
* `Registry.Respects` — an action does the same in such registries

## Main results

* `Registry.Respects.unit`, `Registry.Respects.tracedTransaction`,
  `Registry.Respects.tracedBatch` — a unit of work does the same if its body does
* `Step.respects`, `Script.respects`, `Batch.respects` — scripts do the same
* `Registry.Alike.loadText`, `Registry.Alike.loadFile` — loads do the same
-/

namespace NamedSql

open NamedSql.Action

namespace Registry

variable {τ α β : Type} {qs : List Query} {r r' : Registry} {l m : Logged Registry}

/-- The texts whose statements are kept for queries. -/
def texts (qs : List Query) : List String := qs.map fun q => Text.trimmed q.sql

theorem mem_texts {q : Query} (h : q ∈ qs) : Text.trimmed q.sql ∈ texts qs :=
  List.mem_map.mpr ⟨q, h, rfl⟩

/-- The registries keep the statements of certain texts, and differ in nothing but their order. -/
def Reordered (ts : List String) (r r' : Registry) : Prop :=
  ∃ session, r' = { r with session } ∧ r.session.Shuffled ts session

/-- The registries have certain queries, whose statements they keep, and differ in nothing but the
order of these. There are no more of them than the table counts, so there is room for them. -/
structure Alike (qs : List Query) (r r' : Registry) : Prop where
  mem_of_query? : ∀ name q, r.query? name = some q → q ∈ qs
  length_le : qs.length ≤ r.size
  reordered : Reordered (texts qs) r r'

namespace Alike

section

variable (h : Alike qs r r')
include h

theorem found (name : String) : r'.found name = r.found name := by
  obtain ⟨session, rfl, -⟩ := h.reordered
  rfl

theorem chosen (a : Accessor) (name : String) : r'.chosen a name = r.chosen a name := by
  obtain ⟨session, rfl, -⟩ := h.reordered
  rfl

theorem depth : r'.depth = r.depth := by
  obtain ⟨session, rfl, -⟩ := h.reordered
  rfl

theorem rollbackOnly : r'.rollbackOnly = r.rollbackOnly := by
  obtain ⟨session, rfl, -⟩ := h.reordered
  rfl

theorem shuffled : r.session.Shuffled (texts qs) r'.session := by
  obtain ⟨session, rfl, hs⟩ := h.reordered
  exact hs

theorem of_session {s t : Sql.Session} (hs : s.Shuffled (texts qs) t) :
    Alike qs { r with session := s } { r' with session := t } := by
  obtain ⟨hq, hl, session, rfl, -⟩ := h
  exact ⟨hq, hl, t, rfl, hs⟩

theorem counted {depth depth' : Nat} {rollbackOnly rollbackOnly' : Bool} (hd : depth' = depth)
    (hm : rollbackOnly' = rollbackOnly) :
    Alike qs { r with depth := depth, rollbackOnly := rollbackOnly }
      { r' with depth := depth', rollbackOnly := rollbackOnly' } := by
  obtain ⟨hq, hl, session, rfl, hs⟩ := h
  subst hd hm
  exact ⟨hq, hl, session, rfl, hs⟩

theorem mem_of_found {name : String} {q : Query} (hf : r.found name = .ok q) : q ∈ qs := by
  rw [Registry.found] at hf
  cases hq : r.query? name with
  | none =>
    rw [hq] at hf
    cases hf
  | some q' =>
    rw [hq] at hf
    cases hf
    exact h.mem_of_query? name q hq

theorem mem_of_chosen {a : Accessor} {name : String} {q : Query}
    (hc : r.chosen a name = .ok q) : q ∈ qs := by
  rw [Registry.chosen] at hc
  cases hf : r.found name with
  | error e =>
    rw [hf] at hc
    cases hc
  | ok q' =>
    rw [hf] at hc
    dsimp only at hc
    split at hc
    · cases hc
      exact h.mem_of_found hf
    · cases hc

end

variable (h : Alike qs l.state m.state)
include h

theorem deeper : Alike qs l.deeper.state m.deeper.state :=
  h.counted (congrArg (· + 1) h.depth) h.rollbackOnly

theorem shallower : Alike qs l.shallower.state m.shallower.state :=
  h.counted (congrArg (· - 1) h.depth) h.rollbackOnly

theorem marked (failed : Bool) : Alike qs (l.marked failed).state (m.marked failed).state :=
  h.counted h.depth (congrArg (· || failed) h.rollbackOnly)

end Alike

/-! ### Actions -/

/-- In registries that are alike the action does the same, and leaves registries that are alike. -/
def Respects (qs : List Query) (a : Action Registry α) : Prop :=
  ∀ l m : Logged Registry, Alike qs l.state m.state →
    (a.run m).1 = (a.run l).1 ∧ Alike qs (a.run l).2.state (a.run m).2.state

theorem respects_pure (a : α) : Respects qs (pure a) := fun _ _ h => ⟨rfl, h⟩

theorem respects_log (e : Log.Event) : Respects qs (log e) := fun _ _ h => ⟨rfl, h⟩

/-- What is read off a registry, but not off its session. -/
theorem respects_look (f : Registry → α) (hf : ∀ r session, f { r with session } = f r) :
    Respects qs (do return f (← state)) := by
  intro l m h
  obtain ⟨session, hm, -⟩ := h.reordered
  refine ⟨?_, h⟩
  change f m.state = f l.state
  rw [hm, hf]

theorem Respects.bind {a : Action Registry α} {f : α → Action Registry β}
    (ha : Respects qs a) (hf : ∀ x, Respects qs (f x)) : Respects qs (a >>= f) := by
  intro l m h
  obtain ⟨he, hs⟩ := ha l m h
  rw [Action.run_bind, Action.run_bind, he]
  exact hf _ _ _ hs

theorem respects_control (command : Sql.Control) : Respects qs (control command) := by
  intro l m h
  obtain ⟨he, hs⟩ := h.shuffled.control command
  rw [run_control, run_control]
  exact ⟨he, h.of_session hs⟩

theorem respects_mark (rollbackOnly : Bool) : Respects qs (mark rollbackOnly) :=
  fun _ _ h => ⟨rfl, h.counted h.depth rfl⟩

theorem respects_rollBack : Respects qs rollBack := by
  refine (respects_control .rollback).bind fun fault => ?_
  cases fault with
  | none => exact respects_pure ()
  | some f => exact respects_log _

theorem respects_commit (a : α) : Respects qs (commit a) := by
  refine (respects_control .commit).bind fun fault => ?_
  cases fault with
  | none => exact respects_pure _
  | some f => exact (respects_control .rollback).bind fun _ => respects_pure _

/-! ### Units of work -/

theorem respects_settle (x : Except Error α) : Respects qs (settle x) := by
  intro l m h
  have hu := h.counted h.depth (rfl : false = false)
  cases x with
  | error e =>
    rw [run_settle_error, run_settle_error]
    exact ⟨rfl, (respects_rollBack _ _ hu).2⟩
  | ok a =>
    rw [run_settle_ok, run_settle_ok, h.rollbackOnly]
    split
    · exact (respects_rollBack.bind fun _ => respects_pure _) _ _ hu
    · exact respects_commit a _ _ hu

variable {body : Action Registry (Outcome τ α)}

theorem Respects.deepen {a : Action Registry α} (ha : Respects qs a) : Respects qs (deepen a) := by
  intro l m h
  obtain ⟨he, hs⟩ := ha _ _ h.deeper
  rw [run_deepen, run_deepen]
  exact ⟨he, hs.shallower⟩

theorem Respects.joined (hb : Respects qs body) : Respects qs (joined body) := by
  intro l m h
  obtain ⟨he, hs⟩ := hb _ _ h.deeper
  rw [run_joined, run_joined, he]
  exact ⟨rfl, hs.shallower.marked _⟩

theorem Respects.outermost (hb : Respects qs body) (skipped : τ) :
    Respects qs (outermost skipped body) := by
  refine (respects_control .begin).bind fun fault => ?_
  cases fault with
  | some f => exact respects_pure _
  | none =>
    exact (respects_mark false).bind fun _ => hb.deepen.bind fun o =>
      (respects_settle o.result).bind fun _ => respects_pure _

theorem Respects.unit (hb : Respects qs body) (skipped : τ) : Respects qs (unit skipped body) := by
  intro l m h
  rcases Nat.eq_zero_or_pos l.state.depth with hd | hd
  · rw [run_unit_of_zero hd, run_unit_of_zero (h.depth ▸ hd)]
    exact hb.outermost skipped l m h
  · rw [run_unit_of_pos hd, run_unit_of_pos (h.depth ▸ hd)]
    exact hb.joined l m h

theorem Respects.tracedTransaction (hb : Respects qs body) (skipped : τ) :
    Respects qs (tracedTransaction skipped body) := by
  intro l m h
  have hn : Alike qs (l.noting (transactionStart l)).state (m.noting (transactionStart m)).state :=
    h
  obtain ⟨he, hs⟩ := hb.unit skipped _ _ hn
  rw [run_tracedTransaction, run_tracedTransaction]
  dsimp only
  rw [he]
  exact ⟨rfl, hs⟩

theorem Respects.tracedBatch {body : Query → Action Registry (Outcome τ (Option Int64 × Nat))}
    (hb : ∀ q ∈ qs, Respects qs (body q)) (skipped : τ) (name : String) :
    Respects qs (tracedBatch skipped name body) := by
  intro l m h
  rw [run_tracedBatch, run_tracedBatch, h.chosen]
  cases hc : l.state.chosen .insert name with
  | error e => exact ⟨rfl, h⟩
  | ok q =>
    have hn : Alike qs (l.noting (batchStart l name)).state (m.noting (batchStart m name)).state :=
      h
    obtain ⟨he, hs⟩ := (hb q (h.mem_of_chosen hc)).unit skipped _ _ hn
    dsimp only
    rw [he]
    exact ⟨rfl, hs⟩

/-! ### Calls -/

section

variable {q : Query} (hq : q ∈ qs)
include hq

theorem respects_invoke (params : Params) (read : Sql.Execution → Except Sql.Failure α) :
    Respects qs (invoke q params read).run := by
  intro l m h
  obtain ⟨he, hs⟩ := h.shuffled.call (mem_texts hq) params
  rw [run_invoke, run_invoke, Engine.call_session, Engine.call_session, he]
  exact ⟨rfl, h.of_session hs⟩

theorem respects_write (params : Params) : Respects qs (write q params).run := by
  intro l m h
  obtain ⟨he, hs⟩ := h.shuffled.call (mem_texts hq) params
  rw [run_write, run_write, written, written]
  simp only [Engine.call_session, Engine.changes_session, Engine.lastRowid_session]
  rw [he, hs.connection]
  exact ⟨rfl, h.of_session hs⟩

omit hq in
theorem Respects.fmap {a : Op Registry α} (ha : Respects qs a.run) (f : α → β) :
    Respects qs (f <$> a).run := by
  intro l m h
  obtain ⟨he, hs⟩ := ha l m h
  rw [Op.run_map, Op.run_map, he]
  exact ⟨rfl, hs⟩

theorem respects_perform (params : Params) : Respects qs (perform q params).run := by
  unfold perform
  split
  all_goals first
    | exact (respects_write hq params).fmap _
    | exact (respects_invoke hq params _).fmap _

end

theorem respects_call (name : String) (params : Params) : Respects qs (call name params).run := by
  intro l m h
  rw [call, Op.run_bind, Op.run_bind, run_lookUp, run_lookUp, h.found]
  cases hf : l.state.found name with
  | error e => exact ⟨rfl, h⟩
  | ok q => exact respects_perform (h.mem_of_found hf) params l m h

theorem respects_access (a : Accessor) (name : String) (params : Params) :
    Respects qs (access a name params).run := by
  intro l m h
  rw [run_access, run_access, h.chosen]
  cases hc : l.state.chosen a name with
  | error e => exact ⟨rfl, h⟩
  | ok q => exact respects_perform (h.mem_of_chosen hc) params l m h

theorem respects_insertOne (name : String) (record : Record) :
    Respects qs (insertOne name record).run := by
  intro l m h
  rw [insertOne, Op.run_bind, Op.run_bind, run_typed, run_typed, h.chosen]
  cases hc : l.state.chosen .insert name with
  | error e => exact ⟨rfl, h⟩
  | ok q =>
    exact ((respects_write (h.mem_of_chosen hc) (.named record)).fmap RunResult.lastRowid) l m h

/-! ### Loads

While a load checks its specifications their statements are kept besides those of the queries. -/

/-- What a check comes to whose header is in order. -/
theorem run_check_of_header {held : String → Bool} {seen : List String} {spec : QuerySpec}
    {shape : QueryShape} (hh : checkHeader held seen spec = .ok shape) (l : Logged Registry) :
    (check held seen spec).run.run l =
      let counted := l.state.session.countStatements 2 spec.sql
      match bodyFault? spec counted.2 with
      | some e => (.error e, { l with state := { l.state with session := counted.1 } })
      | none =>
        let prepared := counted.1.prepare spec.sql
        let k : Logged Registry := { l with state := { l.state with session := prepared.1 } }
        match prepared.2 with
        | some f => (.error (prepareError spec f), k)
        | none => (.ok (spec.query shape), k.noting (compiledNote (spec.query shape))) := by
  rw [check, Op.run_bind, Op.run_ofResult, hh]
  dsimp only
  rw [Op.run_bind, run_countStatement]
  dsimp only
  cases bodyFault? spec (l.state.session.countStatements 2 spec.sql).2 with
  | some e => rfl
  | none =>
    dsimp only
    rw [Op.run_bind, Op.run_state]
    dsimp only
    rw [Op.run_bind, Op.run_change]
    dsimp only
    cases ((l.state.session.countStatements 2 spec.sql).1.prepare spec.sql).2 with
    | some f => rfl
    | none => rfl

theorem Reordered.of_session {ts : List String} {r r' : Registry} {s t : Sql.Session}
    (h : ∃ session, r' = { r with session }) (hs : s.Shuffled ts t) :
    Reordered ts { r with session := s } { r' with session := t } := by
  obtain ⟨session, rfl⟩ := h
  exact ⟨t, rfl, hs⟩

theorem Reordered.check {ts : List String} (h : Reordered ts l.state m.state)
    (hr : ts.length + 1 ≤ l.state.session.capacity) (held : String → Bool) (seen : List String)
    (spec : QuerySpec) :
    let p := (check held seen spec).run.run l
    let p' := (Registry.check held seen spec).run.run m
    p'.1 = p.1 ∧ ∀ q, p.1 = .ok q → p.2.state.session.capacity = l.state.session.capacity ∧
      Reordered (ts ++ [Text.trimmed q.sql]) p.2.state p'.2.state := by
  obtain ⟨session, hm, hs⟩ := h
  intro p p'
  cases hh : checkHeader held seen spec with
  | error e =>
    have hp : ∀ l : Logged Registry, (Registry.check held seen spec).run.run l = (.error e, l) := by
      intro l
      rw [Registry.check, Op.run_bind, Op.run_ofResult, hh]
    simp only [p, p', hp]
    exact ⟨trivial, fun _ hok => by cases hok⟩
  | ok shape =>
    obtain ⟨he, hs⟩ := hs.countStatements 2 spec.sql
    have hc := l.state.session.capacity_countStatements 2 spec.sql
    have hms : m.state.session = session := by rw [hm]
    simp only [p, p', run_check_of_header hh, hms, he]
    cases bodyFault? spec (l.state.session.countStatements 2 spec.sql).2 with
    | some e => exact ⟨rfl, fun _ hok => by cases hok⟩
    | none =>
      rw [← hc] at hr
      obtain ⟨he, hp⟩ := hs.prepare hr spec.sql
      have hc' := (l.state.session.countStatements 2 spec.sql).1.capacity_prepare spec.sql
      dsimp only
      rw [he]
      cases hn : ((l.state.session.countStatements 2 spec.sql).1.prepare spec.sql).2 with
      | some f => exact ⟨rfl, fun _ hok => by cases hok⟩
      | none =>
        refine ⟨rfl, ?_⟩
        rintro q ⟨⟩
        exact ⟨hc'.trans hc, .of_session ⟨session, hm⟩ (hp hn)⟩

theorem Reordered.checkAll {ts : List String} (h : Reordered ts l.state m.state)
    {specs : List QuerySpec} (hr : ts.length + specs.length ≤ l.state.session.capacity)
    (held : String → Bool) (seen : List String) :
    let p := (checkAll held seen specs).run.run l
    let p' := (Registry.checkAll held seen specs).run.run m
    p'.1 = p.1 ∧ ∀ queries, p.1 = .ok queries →
      Reordered (ts ++ texts queries) p.2.state p'.2.state := by
  induction specs generalizing ts seen l m with
  | nil =>
    refine ⟨rfl, ?_⟩
    rintro queries ⟨⟩
    rw [texts, List.map_nil, List.append_nil]
    exact h
  | cons spec rest ih =>
    intro p p'
    have hroom : ts.length + 1 ≤ l.state.session.capacity := by
      rw [List.length_cons] at hr
      omega
    obtain ⟨he, hc⟩ := h.check hroom held seen spec
    simp only [p, p', Registry.checkAll, Op.run_bind]
    generalize (Registry.check held seen spec).run.run l = checked at he hc ⊢
    generalize (Registry.check held seen spec).run.run m = checked' at he hc ⊢
    obtain ⟨result, k⟩ := checked
    obtain ⟨result', k'⟩ := checked'
    dsimp only at he hc
    subst he
    cases result' with
    | error e => exact ⟨rfl, fun _ hok => by cases hok⟩
    | ok q =>
      obtain ⟨hcap, hk⟩ := hc q rfl
      have hrest : (ts ++ [Text.trimmed q.sql]).length + rest.length ≤
          k.state.session.capacity := by
        rw [hcap, List.length_append, List.length_singleton]
        rw [List.length_cons] at hr
        omega
      obtain ⟨he, hq⟩ := ih hk hrest (seen ++ [q.name])
      dsimp only
      generalize (Registry.checkAll held (seen ++ [q.name]) rest).run.run k = tail at he hq ⊢
      generalize (Registry.checkAll held (seen ++ [q.name]) rest).run.run k' = tail' at he hq ⊢
      obtain ⟨result, n⟩ := tail
      obtain ⟨result', n'⟩ := tail'
      dsimp only at he hq
      subst he
      cases result' with
      | error e => exact ⟨rfl, fun _ hok => by cases hok⟩
      | ok queries =>
        refine ⟨rfl, ?_⟩
        rintro _ ⟨⟩
        have ha := hq queries rfl
        rw [List.append_assoc] at ha
        exact ha

theorem Alike.reserve (h : Alike qs r r') (count : Nat) :
    Alike qs (r.reserve count) (r'.reserve count) ∧
      (texts qs).length + count ≤ (r.reserve count).session.capacity := by
  obtain ⟨hq, hl, session, rfl, hs⟩ := h
  have hr : (texts qs).length + count ≤ max (r.size + count) leastCapacity := by
    rw [texts, List.length_map]
    exact Nat.le_trans (Nat.add_le_add_right hl count) (Nat.le_max_left ..)
  exact ⟨⟨hq, hl, _, rfl, hs.setCapacity (Nat.le_trans (Nat.le_add_right ..) hr)⟩, hr⟩

/-- Queries that have been accepted are those that are new to the table. -/
theorem Alike.addQueries (h : Alike qs r r') {specs : List QuerySpec} {queries : List Query}
    (ha : Accepted r.contains [] specs queries) {s s' : Registry} (hs : Restored r s)
    (hr : Reordered (texts qs ++ texts queries) s s') :
    Alike (qs ++ queries) (s.addQueries queries) (s'.addQueries queries) := by
  have hl : s.query? = r.query? := by
    funext name
    rw [query?, query?, hs.queries]
  refine ⟨fun name q hq => ?_, ?_, ?_⟩
  · by_cases hm : name ∈ queries.map Query.name
    · obtain ⟨q', hq', rfl⟩ := List.mem_map.mp hm
      rw [query?_addQueries_of_mem ha.nodup hq'] at hq
      cases hq
      exact List.mem_append_right _ hq'
    · rw [query?_addQueries_of_not_mem hm, hl] at hq
      exact List.mem_append_left _ (h.mem_of_query? name q hq)
  · rw [size_addQueries ha.nodup (by rw [hl]; exact ha.query?_eq_none), List.length_append, size,
      hs.queries]
    exact Nat.add_le_add_right h.length_le _
  · obtain ⟨session, rfl, hk⟩ := hr
    rw [addQueries_eq, addQueries_eq]
    refine ⟨session, rfl, ?_⟩
    rw [texts, List.map_append]
    exact hk

/-- A load does the same, and unless it fails it keeps nothing but the statements of queries. -/
theorem Alike.load (h : Alike qs l.state m.state) (source : String)
    (read : Except Error (List QuerySpec)) :
    let p := (load source read).run.run l
    let p' := (Registry.load source read).run.run m
    p'.1 = p.1 ∧ ∀ n, p.1 = .ok n → ∃ qs', Alike qs' p.2.state p'.2.state := by
  cases read with
  | error e =>
    have hp : ∀ l : Logged Registry,
        ((Registry.load source (.error e)).run.run l).1 = .error e := by
      intro l
      rw [Registry.load, Op.run_bracket]
      rfl
    dsimp only
    rw [hp, hp]
    exact ⟨rfl, fun _ hok => by cases hok⟩
  | ok specs =>
    obtain ⟨l₁, hl, hlerror, hlok⟩ := run_load source specs l
    obtain ⟨m₁, hm, hmerror, hmok⟩ := run_load source specs m
    obtain ⟨hreserved, hroom⟩ := h.reserve specs.length
    rw [← hl] at hreserved hroom
    rw [← hm] at hreserved
    have hheld : m₁.state.contains = l₁.state.contains := by
      obtain ⟨session, hs, -⟩ := hreserved.reordered
      rw [hs]
      rfl
    obtain ⟨he, hq⟩ := hreserved.reordered.checkAll hroom l₁.state.contains []
    obtain ⟨hp, ha⟩ := run_checkAll l₁.state.contains specs [] l₁
    rw [hheld] at hmerror hmok
    cases hc : (Registry.checkAll l₁.state.contains [] specs).run.run l₁ with
    | mk result l₂ =>
      cases hc' : (Registry.checkAll l₁.state.contains [] specs).run.run m₁ with
      | mk result' m₂ =>
        rw [hc, hc'] at he hq
        rw [hc] at hp ha
        dsimp only at he hq ⊢
        subst he
        cases result' with
        | error e =>
          rw [(hlerror e l₂ hc).1, (hmerror e m₂ hc').1]
          exact ⟨rfl, fun _ hok => by cases hok⟩
        | ok queries =>
          obtain ⟨hlr, hls⟩ := hlok queries l₂ hc
          obtain ⟨hmr, hms⟩ := hmok queries m₂ hc'
          rw [hlr, hmr, hls, hms]
          exact ⟨rfl, fun n _ => ⟨qs ++ queries,
            hreserved.addQueries (ha queries rfl) hp.restored (hq queries rfl)⟩⟩

theorem Alike.loadText (h : Alike qs l.state m.state) (text : String) :
    let p := (loadText text).run.run l
    let p' := (Registry.loadText text).run.run m
    p'.1 = p.1 ∧ (p.1 = .ok () → ∃ qs', Alike qs' p.2.state p'.2.state) := by
  obtain ⟨he, hq⟩ := h.load textSource (QuerySpec.readAll text)
  simp only [Registry.loadText, Op.run_bind]
  generalize (Registry.load textSource (QuerySpec.readAll text)).run.run l = loaded at he hq ⊢
  generalize (Registry.load textSource (QuerySpec.readAll text)).run.run m = loaded' at he hq ⊢
  obtain ⟨result, k⟩ := loaded
  obtain ⟨result', k'⟩ := loaded'
  dsimp only at he hq
  subst he
  cases result' with
  | error e => exact ⟨rfl, fun hok => by cases hok⟩
  | ok n => exact ⟨rfl, fun _ => hq n rfl⟩

theorem Alike.loadFile (h : Alike qs l.state m.state) (f : Files) (path : String) :
    let p := (loadFile f path).run.run l
    let p' := (Registry.loadFile f path).run.run m
    p'.1 = p.1 ∧ (p.1 = .ok () → ∃ qs', Alike qs' p.2.state p'.2.state) := by
  cases hc : f.canonical path with
  | error fault =>
    simp only [Registry.loadFile, hc]
    exact ⟨rfl, fun hok => by cases hok⟩
  | ok place =>
    have hs : m.state.sources = l.state.sources := by
      obtain ⟨session, hm, -⟩ := h.reordered
      rw [hm]
    simp only [Registry.loadFile, hc, Op.run_bind, Op.run_state, hs]
    split
    · exact ⟨rfl, fun _ => ⟨qs, h⟩⟩
    · obtain ⟨he, hq⟩ := h.load path (readQueries (f.absolute place) (f.textAt place))
      simp only [Op.run_bind]
      generalize (Registry.load path (readQueries (f.absolute place) (f.textAt place))).run.run l =
        loaded at he hq ⊢
      generalize (Registry.load path (readQueries (f.absolute place) (f.textAt place))).run.run m =
        loaded' at he hq ⊢
      obtain ⟨result, k⟩ := loaded
      obtain ⟨result', k'⟩ := loaded'
      dsimp only at he hq
      subst he
      cases result' with
      | error e => exact ⟨rfl, fun hok => by cases hok⟩
      | ok n =>
        obtain ⟨qs', ⟨hqueries, hsize, session, hk, hsession⟩⟩ := hq n rfl
        refine ⟨rfl, fun _ => ⟨qs', hqueries, hsize, session, ?_, hsession⟩⟩
        change { k'.state with sources := k'.state.sources ++ [place] } = _
        rw [hk]
        rfl

theorem Alike.addFunction (h : Alike qs r r') (f : Sql.Function) :
    Alike qs (r.addFunction f) (r'.addFunction f) := by
  obtain ⟨hq, hl, session, rfl, hs⟩ := h
  refine ⟨hq, hl, _, rfl, ?_⟩
  change Sql.Session.Shuffled (texts qs)
    { r.session with connection := r.session.connection.addFunction f }
    { session with connection := session.connection.addFunction f }
  rw [hs.connection]
  exact hs.of_connection _

theorem respects_registerFunction (name : String) (arity : Int)
    (body : List Value → Except Sql.FunctionFault Value) (complaint : Option Sql.Fault) :
    Respects qs (registerFunction name arity body complaint).run := by
  intro l m h
  obtain ⟨session, hm, -⟩ := h.reordered
  have hn : m.state.hasFunction name = l.state.hasFunction name := by
    rw [hm]
    rfl
  simp only [registerFunction, Op.run_bracket, Logged.state_noting, Op.run_bind, Op.run_state, hn]
  split
  · exact ⟨rfl, h⟩
  · cases refusal? complaint name arity with
    | some cause => exact ⟨rfl, h⟩
    | none => exact ⟨rfl, h.addFunction (engineFunction name arity body)⟩

end Registry

/-! ### Scripts -/

open Registry

mutual

/-- **A step does the same in registries that are alike**, at any depth. -/
theorem Step.respects {qs : List Query} : ∀ s : Step, Respects qs s.run
  | .names => by
    rw [Step.run]
    exact respects_look (fun r => Answer.names r.names) fun _ _ => rfl
  | .contains name => by
    rw [Step.run]
    exact respects_look (fun r => Answer.flag (r.contains name)) fun _ _ => rfl
  | .hasFunction name => by
    rw [Step.run]
    exact respects_look (fun r => Answer.flag (r.hasFunction name)) fun _ _ => rfl
  | .query name => by
    rw [Step.run]
    exact respects_look (fun r => Answer.query (r.query? name)) fun _ _ => rfl
  | .call name params => by
    rw [Step.run]
    exact (respects_call name params).bind fun _ => respects_pure _
  | .access a name params => by
    rw [Step.run]
    exact (respects_access a name params).bind fun _ => respects_pure _
  | .insertOne name record => by
    rw [Step.run]
    exact (respects_insertOne name record).bind fun _ => respects_pure _
  | .insertMany name batch => by
    rw [Step.run]
    exact (Respects.tracedBatch (fun q hq => batch.respects hq none 0) [] name).bind
      fun _ => respects_pure _
  | .transaction body finish => by
    rw [Step.run]
    exact (Respects.tracedTransaction (body.respects.bind fun _ => respects_pure _) []).bind
      fun _ => respects_pure _

theorem Script.respects {qs : List Query} : ∀ s : Script, Respects qs s.run
  | .nil => by
    rw [Script.run]
    exact respects_pure _
  | .cons decisive step rest => by
    rw [Script.run]
    refine step.respects.bind fun answer => ?_
    cases if decisive then answer.error? else none with
    | some e => exact respects_pure _
    | none => exact rest.respects.bind fun _ => respects_pure _

theorem Script.respectsAll {qs : List Query} : ∀ s : Script, Respects qs s.runAll
  | .nil => by
    rw [Script.runAll]
    exact respects_pure _
  | .cons decisive step rest => by
    rw [Script.runAll]
    exact step.respects.bind fun _ => rest.respectsAll.bind fun _ => respects_pure _

theorem Batch.respects {qs : List Query} {q : Query} (hq : q ∈ qs) :
    ∀ (b : Batch) (last : Option Int64) (count : Nat), Respects qs (b.run q last count)
  | .nil, last, count => by
    rw [Batch.run]
    exact respects_pure _
  | .cons before record rest, last, count => by
    rw [Batch.run]
    refine before.respectsAll.bind fun answers => ?_
    refine (respects_write hq (.named record)).bind fun written => ?_
    cases written with
    | error e => exact respects_pure _
    | ok r =>
      exact (rest.respects hq (some r.lastRowid) (count + 1)).bind fun _ => respects_pure _

end

end NamedSql
