import NamedSql.Proofs.Sql.Aging
import NamedSql.Proofs.Sql.Failing
import NamedSql.Proofs.Sql.Resolving

/-!
# Prepared statements and their connection

A prepared statement was prepared on the connection of its session at some earlier time, and its age
is that of the connection then. Whatever is done with the session keeps this. So what has happened
to the connection since then can be told from the two ages.

## Scope

That a plan fits the database is shown for the two kinds of statements that are run: those that have
just been prepared, and those that are not out of date.

## Main definitions

* `Connection.HidesNone` — no function hides another one without being counted
* `Prepared.DatesBack` — a statement was prepared on a connection at an earlier time
* `Session.Dated` — every prepared statement was

## Main results

* `Names.fits_of_resolve` — a plan changes rows only of a table that was there when it was made
* `Connection.Follows.names` — on a connection that is not older names are looked up as before
* `Session.Dated.call`, `Session.Dated.control`, `Session.Dated.runBatch`, `Session.Readies.dated` —
  whatever is done with a session keeps its statements dated
-/

namespace NamedSql.Sql

/-! ### Functions -/

namespace Function

variable {functions more : List Function} {name : String} {count : Nat} {callee : Callee}

theorem builtIn_of_sameName {name' : String} (h : Token.sameName name name' = true) (count : Nat) :
    builtIn name count = builtIn name' count := by
  rw [Token.sameName, beq_iff_eq] at h
  rw [builtIn, builtIn, Token.sameName, Token.sameName, Token.sameName, Token.sameName, h]

/-- A call that finds a function finds the same one when others of other names have been registered,
unless one of them hides a function that is always there. -/
theorem resolve_append_of_not_hides (hd : Distinct (functions ++ more))
    (h : resolve functions name count = .found callee) (hm : ∀ f ∈ more, ¬f.Hides) :
    resolve (functions ++ more) name count = .found callee := by
  by_cases hn : ∃ g ∈ functions, Token.sameName g.name name = true
  · -- The others differ in name from the function that the call could be meant for.
    obtain ⟨g, hg, hn⟩ := hn
    refine (resolve_append (fun f hf => ?_) functions count).trans h
    have hfg := (List.pairwise_append.mp hd).2.2 g hg f hf
    rw [Token.sameName, beq_iff_eq] at hn
    rw [Token.sameName, hn] at hfg
    rw [← hfg, Token.sameName, Bool.beq_comm]
  · -- The call is meant for a function that is always there, which none of the others hides.
    have hother : ∀ g ∈ functions, Token.sameName g.name name = false := fun g hg =>
      Bool.eq_false_iff.mpr fun hs => hn ⟨g, hg, hs⟩
    rw [resolve_eq_builtIn hother] at h
    have hbest : best? ((functions ++ more).filter fun f => Token.sameName f.name name) count =
        none := by
      refine best?_eq_none_iff.mpr fun f hf => Bool.eq_false_iff.mpr fun hc => ?_
      obtain ⟨hf, hs⟩ := List.mem_filter.mp hf
      rcases List.mem_append.mp hf with hf | hf
      · exact hn ⟨f, hf, hs⟩
      · exact hm f hf ⟨count, callee, hc, (builtIn_of_sameName hs count).trans h⟩
    rw [resolve, hbest, h]

end Function

namespace Names

open Resolve

variable {n : Names} {s : Statement} {r : Resolved}

/-! ### What a plan is prepared for -/

theorem yields_table (n : Names) (name : String) :
    Yields (fun t => (n.database.find? t.name).isSome = true)
      (liftM (n.table name) : Resolve Table) := by
  intro w t w' h
  rw [table] at h
  cases hf : n.database.find? name with
  | none =>
    rw [hf] at h
    cases h
  | some t =>
    rw [hf] at h
    cases h
    rw [Database.find?_name hf]
    rfl

theorem yields_fits (n : Names) (s : Statement) :
    Yields (fun r => r.plan.Fits n.database) (n.statement s) := by
  cases s with
  | insert s =>
    rw [Names.statement, insert]
    refine yields_bind_of (n.yields_table s.table) fun t ht => yields_bind fun targets => ?_
    extract_lets several isRowidTarget rowid positions keys replaces atOnce stored
    have hs : ∀ u, Yields (fun r => r.plan.Fits n.database) (stored u) := by
      intro u
      refine yields_bind fun rows => ?_
      extract_lets supplied ahead finished
      have hf : ∀ u, Yields (fun r => r.plan.Fits n.database) (finished u) := by
        intro u
        refine yields_bind fun _ => yields_bind fun _ => yields_bind fun returned => ?_
        refine yields_pure (.of_changed? ?_ ht)
        dsimp only
        split <;> rfl
      split
      · split
        · exact yields_throw _
        · exact hf ()
      · split
        · exact yields_throw _
        · exact hf ()
    split
    · exact yields_bind hs
    · exact hs ()
  | update s =>
    rw [Names.statement, update]
    refine yields_bind_of (n.yields_table s.table) fun t ht => ?_
    repeat' first
      | with_reducible refine yields_bind fun _ => ?_
      | exact yields_pure (.of_changed? rfl ht)
  | delete s =>
    rw [Names.statement, delete]
    refine yields_bind_of (n.yields_table s.table) fun t ht => ?_
    repeat' first
      | with_reducible refine yields_bind fun _ => ?_
      | exact yields_pure (.of_changed? rfl ht)
  | control c => exact yields_pure (.of_changed?_eq_none rfl)
  | pragma name value =>
    refine yields_pure (.of_changed?_eq_none ?_)
    rw [pragma]
    repeat' split
    all_goals rfl
  | _ =>
    simp only [Names.statement, createTable, extendTable]
    repeat' first
      | with_reducible exact yields_throw _
      | with_reducible refine yields_bind fun _ => ?_
      | split
      | exact yields_pure (.of_changed?_eq_none rfl)

/-- A plan changes rows only of a table that was there when it was made. -/
theorem fits_of_resolve (h : n.resolve s = .ok r) : r.plan.Fits n.database :=
  (n.yields_fits s).of_start h

end Names

namespace Connection

variable {c c' : Connection}

theorem age_configured (c : Connection) (s : Statement) : (c.configured s).age = c.age := by
  rw [configured]
  split
  · split <;> rfl
  · rfl

/-- No function that takes any number of arguments hides one that is always there. -/
def HidesNone (c : Connection) : Prop := ∀ f ∈ c.functions, f.arity = none → ¬f.Hides

/-- As long as a connection is not older, and its functions have names of their own, names are
looked up as before. -/
theorem Follows.names (h : c.Follows c') (ha : c'.age.all = c.age.all)
    (hd : Function.Distinct c'.functions) (hv : c'.HidesNone) : c.names.Like c'.names where
  height := rfl
  inCheck := rfl
  levels := .nil
  functions := by
    intro name count callee hf
    obtain ⟨more, he, hm⟩ := h.functions ha
    change Function.resolve c'.functions name count = .found callee
    have hnone : ∀ f ∈ more, ¬f.Hides := by
      intro f hmem
      cases ha : f.arity with
      | none => exact hv f (he ▸ List.mem_append_right _ hmem) ha
      | some arity => exact hm hd f hmem (by rw [ha]; rfl)
    rw [he] at hd ⊢
    exact Function.resolve_append_of_not_hides hd hf hnone

end Connection

/-! ### Prepared statements -/

/-- The statement was prepared on the connection at an earlier time. -/
def Prepared.DatesBack (p : Prepared) (c : Connection) : Prop :=
  ∃ c₀ : Connection, c₀.names.resolve p.parsed.statement = .ok p.resolved ∧ p.age = c₀.age ∧
    c₀.Follows c

namespace Prepared

variable {p : Prepared} {c c' : Connection}

theorem DatesBack.follows (h : p.DatesBack c) (hc : c.Follows c') : p.DatesBack c' := by
  obtain ⟨c₀, hr, ha, hf⟩ := h
  exact ⟨c₀, hr, ha, hf.trans hc⟩

/-- A statement that looks at tables and is not out of date was resolved where the tables had the
definitions that they have. -/
theorem DatesBack.resolved (h : p.DatesBack c) (hc : p.isCurrent c.age = true)
    (hl : p.resolved.plan.looksAtTables = true) :
    ∃ n : Names, n.resolve p.parsed.statement = .ok p.resolved ∧
      c.database.definitions = n.database.definitions := by
  obtain ⟨c₀, hr, ha, hf⟩ := h
  rw [isCurrent, hl, Bool.not_true, Bool.or_false, Bool.and_eq_true, beq_iff_eq, beq_iff_eq] at hc
  have hage : c.age = c₀.age := ha ▸ (Age.eq_of_fields hc.2 hc.1).symm
  exact ⟨c₀.names, hr, hf.tables hage⟩

/-- A statement that is not out of date changes rows only of a table that is there. -/
theorem DatesBack.fits (h : p.DatesBack c) (hc : p.isCurrent c.age = true) :
    p.resolved.plan.Fits c.database := by
  intro table ht
  have hl : p.resolved.plan.looksAtTables = true := by
    cases hp : p.resolved.plan with
    | insert _ => rfl
    | update _ => rfl
    | delete _ => rfl
    | _ =>
      rw [hp] at ht
      cases ht
  obtain ⟨n, hr, hd⟩ := h.resolved hc hl
  exact Plan.fits_of_definitions hd (Names.fits_of_resolve hr) table ht

end Prepared

namespace Session

variable {s t : Session} {sql : String} {p : Prepared}

/-- Every prepared statement was prepared on the connection at an earlier time. -/
structure Dated (s : Session) : Prop where
  aligned : s.connection.Aligned
  prepared : ∀ e ∈ s.prepared, e.2.DatesBack s.connection

theorem Dated.of_evolves (h : s.Dated) (he : s.connection.Evolves t.connection)
    (hp : t.prepared = s.prepared) : t.Dated := by
  obtain ⟨ha, hf⟩ := he h.aligned
  refine ⟨ha, fun e hm => ?_⟩
  rw [hp] at hm
  exact (h.prepared e hm).follows hf

theorem Dated.keep (h : s.Dated) (hp : p.DatesBack s.connection) : (s.keep sql p).Dated := by
  refine ⟨h.aligned, fun e he => ?_⟩
  rcases List.mem_cons.mp (List.mem_of_mem_take he) with rfl | he
  · exact hp
  · exact h.prepared e (List.mem_filter.mp he).1

theorem Dated.setCapacity (h : s.Dated) (capacity : Nat) : (s.setCapacity capacity).Dated :=
  ⟨h.aligned, fun e he => h.prepared e (List.mem_of_mem_take he)⟩

theorem dated_new {c : Connection} (h : c.isAutocommit = true) (capacity : Nat) :
    (new c capacity).Dated :=
  ⟨.of_transaction_eq_none (Option.isNone_iff_eq_none.mp h), fun _ he => absurd he List.not_mem_nil⟩

theorem evolves_enforcing {on : Bool} (h : t.connection = s.connection.enforcing on) :
    s.connection.Evolves t.connection := by
  rw [h]
  exact Connection.Keeps.evolves (.of_transaction rfl rfl rfl rfl)

/-! ### Preparing -/

/-- A statement that can be resolved is prepared for the connection as it is. -/
theorem prepareParsed_eq {parsed : Statement.Parsed} {r : Resolved}
    (h : s.connection.names.resolve parsed.statement = .ok r) :
    s.prepareParsed parsed =
      ({ s with connection := s.connection.configured parsed.statement },
        .ok ⟨parsed, r, s.connection.age⟩) := by
  simp only [prepareParsed, Connection.prepare, h, s.connection.age_configured]
  rfl

theorem prepareParsed_error {parsed : Statement.Parsed} {f : Fault}
    (h : s.connection.names.resolve parsed.statement = .error f) :
    (s.prepareParsed parsed).2 = .error f := by
  simp only [prepareParsed, Connection.prepare, h]
  rfl

theorem eq_of_prepareParsed {parsed : Statement.Parsed} (h : s.prepareParsed parsed = (t, .ok p)) :
    t = { s with connection := s.connection.configured parsed.statement } ∧
      ∃ r, s.connection.names.resolve parsed.statement = .ok r ∧
        p = ⟨parsed, r, s.connection.age⟩ := by
  cases hr : s.connection.names.resolve parsed.statement with
  | error f =>
    have he := prepareParsed_error hr
    rw [h] at he
    cases he
  | ok r =>
    rw [prepareParsed_eq hr] at h
    cases h
    exact ⟨rfl, r, rfl, rfl⟩

theorem datesBack_of_prepareParsed {parsed : Statement.Parsed}
    (h : s.prepareParsed parsed = (t, .ok p)) (ha : s.connection.Aligned) :
    p.DatesBack t.connection := by
  obtain ⟨on, hon⟩ := s.exists_enforcing_prepareParsed parsed
  rw [h] at hon
  obtain ⟨-, r, hr, rfl⟩ := eq_of_prepareParsed h
  exact ⟨s.connection, hr, rfl, (evolves_enforcing hon ha).2⟩

theorem fits_of_prepareParsed {parsed : Statement.Parsed}
    (h : s.prepareParsed parsed = (t, .ok p)) : p.resolved.plan.Fits t.connection.database := by
  have hd := s.database_prepareParsed parsed
  rw [h] at hd
  obtain ⟨-, r, hr, rfl⟩ := eq_of_prepareParsed h
  rw [hd]
  exact Names.fits_of_resolve hr

theorem datesBack_empty (s : Session) : s.empty.DatesBack s.connection :=
  ⟨s.connection, rfl, rfl, .refl _⟩

theorem datesBack_start {text : List Char} {start : Start} (ha : s.connection.Aligned)
    (h : s.start text = (t, .ok start)) : (start.found.getD t.empty).DatesBack t.connection := by
  unfold Session.start at h
  dsimp only at h
  split at h
  · cases h
  · split at h
    · cases h
      exact s.datesBack_empty
    · split at h
      · cases h
      · rename_i s' p hp
        cases h
        exact datesBack_of_prepareParsed hp ha

theorem fits_start {text rest : List Char} (h : s.start text = (t, .ok ⟨some p, rest⟩)) :
    p.resolved.plan.Fits t.connection.database := by
  unfold Session.start at h
  dsimp only at h
  split at h
  · cases h
  · split at h
    · cases h
    · split at h
      · cases h
      · rename_i s' p hp
        cases h
        exact fits_of_prepareParsed hp

theorem Dated.start (h : s.Dated) (text : List Char) : (s.start text).1.Dated := by
  obtain ⟨on, hon⟩ := s.exists_enforcing_start text
  exact h.of_evolves (evolves_enforcing hon) (s.prepared_start text)

theorem Dated.find (h : s.Dated) (sql : String) : (s.find sql).1.Dated := by
  obtain ⟨on, hon⟩ := s.exists_enforcing_find sql
  exact h.of_evolves (evolves_enforcing hon) (s.prepared_find sql)

theorem Dated.datesBack_find (h : s.Dated) (hf : s.find sql = (t, .ok p)) :
    p.DatesBack t.connection := by
  rw [Session.find] at hf
  cases hl : s.prepared.lookup sql with
  | some q =>
    rw [hl] at hf
    cases hf
    exact h.prepared (sql, p) (mem_of_lookup hl)
  | none =>
    rw [hl] at hf
    dsimp only at hf
    cases hs : s.start sql.toList with
    | mk s' started =>
      rw [hs] at hf
      cases started with
      | error f => cases hf
      | ok start =>
        cases hf
        exact datesBack_start h.aligned hs

theorem Dated.prepare (h : s.Dated) (sql : String) : (s.prepare sql).1.Dated := by
  have hs := h.find (Text.trimmed sql)
  rw [Session.prepare]
  cases hf : s.find (Text.trimmed sql) with
  | mk t found =>
    rw [hf] at hs
    cases found with
    | error f => exact hs
    | ok p => exact hs.keep (h.datesBack_find hf)

theorem Dated.countStatements (h : s.Dated) (limit : Nat) (sql : String) :
    (s.countStatements limit sql).1.Dated := by
  obtain ⟨on, hon⟩ := s.exists_enforcing_countStatements limit sql
  exact h.of_evolves (evolves_enforcing hon) (prepared_countFrom limit _ 0 s sql.toList)

theorem Readies.dated (h : s.Readies t) (hs : s.Dated) : t.Dated := by
  cases h with
  | counted limit sql => exact hs.countStatements limit sql
  | prepared sql => exact hs.prepare sql
  | resized capacity => exact hs.setCapacity capacity

theorem Dated.addFunction (h : s.Dated) (f : Function) :
    ({ s with connection := s.connection.addFunction f } : Session).Dated :=
  h.of_evolves (s.connection.evolves_addFunction f) rfl

/-! ### Running -/

theorem evolves_renewed (s : Session) (p : Prepared) :
    s.connection.Evolves (s.renewed p).1.connection := by
  obtain ⟨on, hon⟩ := s.exists_enforcing_renewed p
  exact evolves_enforcing hon

/-- A statement that is not out of date any more changes rows only of a table that is there. -/
theorem Dated.renewed {q : Prepared} (h : s.Dated) (hp : p.DatesBack s.connection)
    (hr : s.renewed p = (t, .ok q)) :
    q.DatesBack t.connection ∧ q.resolved.plan.Fits t.connection.database := by
  rw [Session.renewed] at hr
  split at hr
  · cases hr
    exact ⟨hp, hp.fits ‹_›⟩
  · exact ⟨datesBack_of_prepareParsed hr h.aligned, fits_of_prepareParsed hr⟩

theorem Dated.call (h : s.Dated) (sql : String) (params : Params) :
    (s.call sql params).1.Dated := by
  have hs := h.find (Text.trimmed sql)
  have hc := s.called_call sql params
  generalize s.call sql params = called at hc
  cases hc with
  | unfound found =>
    rw [found] at hs
    exact hs
  | unbound found bound =>
    rw [found] at hs
    exact hs.keep (h.datesBack_find found)
  | @outdated t u p values f found bound renewed =>
    have hn := t.prepared_renewed p
    have he := t.evolves_renewed p
    rw [found] at hs
    rw [renewed] at hn he
    exact (hs.of_evolves he hn).keep ((h.datesBack_find found).follows (he hs.aligned).2)
  | @performed t u p q values found bound renewed =>
    have hn := t.prepared_renewed p
    have he := t.evolves_renewed p
    rw [found] at hs
    rw [renewed] at hn he
    have hu := hs.of_evolves he hn
    obtain ⟨hq, hfits⟩ := hs.renewed (h.datesBack_find found) renewed
    have he' := Connection.evolves_perform hfits values
    exact Dated.keep (hu.of_evolves he' rfl) (hq.follows (he' hu.aligned).2)

theorem Dated.control (h : s.Dated) (command : Control) : (s.control command).1.Dated :=
  h.of_evolves (s.connection.evolves_control command) rfl

theorem Dated.runFrom (fuel : Nat) (h : s.Dated) (text : List Char) :
    (runFrom fuel s text).1.Dated := by
  induction fuel generalizing s text with
  | zero => exact h
  | succ fuel ih =>
    cases text with
    | nil => exact h
    | cons c rest =>
      have hs := h.start (c :: rest)
      unfold Session.runFrom
      split
      · rename_i t f ht
        rwa [ht] at hs
      · rename_i t rest' ht
        rw [ht] at hs
        exact ih hs rest'
      · rename_i t p rest' ht
        rw [ht] at hs
        have he := Connection.evolves_perform (fits_start ht)
          (p.parsed.parameters.map fun _ => .null)
        have hp : Session.Dated { t with connection := (t.connection.perform
            (p.parsed.parameters.map fun _ => .null) p.resolved.plan).1 } := hs.of_evolves he rfl
        dsimp only
        split
        · exact hp
        · exact ih hp rest'

theorem Dated.runBatch (h : s.Dated) (sql : String) : (s.runBatch sql).1.Dated :=
  h.runFrom _ sql.toList

end Session

end NamedSql.Sql
