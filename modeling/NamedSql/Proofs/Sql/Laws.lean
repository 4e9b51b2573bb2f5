import NamedSql.Proofs.Sql.Renewal

/-!
# Laws of sessions

What holds of a connection in every state, and of every statement that is prepared in such a state,
holds of a session whatever is done with it. So a law has to be shown of the few things that happen
to a connection, and not of everything that a session does with them.

## Scope

A law may take for granted that the table is there whose rows a statement changes. That it is there
is known of the statements that are run, because they were prepared on the connection and are not
out of date.

## Main definitions

* `Law` — a property of connections and one of statements that nothing breaks
* `Session.Upholds` — a session is in a state of which a law holds

## Main results

* `Session.Upholds.call`, `Session.Upholds.control`, `Session.Upholds.runBatch`,
  `Session.Readies.upholds` — sessions uphold their laws
-/

namespace NamedSql.Sql

/-- A property of connections that nothing breaks that is done with one, and a property that
statements have which are prepared on such a connection. -/
structure Law (I : Connection → Prop) (Q : Resolved → Prop) : Prop where
  setting {c : Connection} (on : Bool) : I c → I (c.enforcing on)
  function {c : Connection} (f : Function) : I c → I (c.addFunction f)
  control {c : Connection} (command : Control) : I c → I (c.control command).1
  perform {c : Connection} {r : Resolved} (values : List Value) :
    I c → Q r → r.plan.Fits c.database → I (c.perform values r.plan).1
  resolve {c : Connection} {sql : String} {m : Statement.Parsed} {r : Resolved} :
    I c → meaning? sql = some m → c.names.resolve m.statement = .ok r → Q r

namespace Session

variable {I : Connection → Prop} {Q : Resolved → Prop} {s t : Session} {sql : String}
  {p : Prepared}

/-- The session is in a state of which a law holds. -/
structure Upholds (I : Connection → Prop) (Q : Resolved → Prop) (s : Session) : Prop where
  dated : s.Dated
  sound : s.Sound
  connection : I s.connection
  prepared : ∀ e ∈ s.prepared, Q e.2.resolved

theorem upholds_new {c : Connection} (hc : c.isAutocommit = true) (h : I c) (capacity : Nat) :
    (new c capacity).Upholds I Q :=
  ⟨dated_new hc capacity, sound_new c capacity, h, fun _ he => absurd he List.not_mem_nil⟩

namespace Upholds

variable (h : s.Upholds I Q)
include h

theorem keep (hp : p.ComesOf sql) (hd : p.DatesBack s.connection) (hq : Q p.resolved) :
    (s.keep sql p).Upholds I Q := by
  refine ⟨h.dated.keep hd, h.sound.keep hp, h.connection, fun e he => ?_⟩
  rcases List.mem_cons.mp (List.mem_of_mem_take he) with rfl | he
  · exact hq
  · exact h.prepared e (List.mem_filter.mp he).1

theorem setCapacity (capacity : Nat) : (s.setCapacity capacity).Upholds I Q :=
  ⟨h.dated.setCapacity capacity, h.sound.setCapacity capacity, h.connection,
    fun e he => h.prepared e (List.mem_of_mem_take he)⟩

/-- What changes the connection alone has to keep the law there. -/
theorem of_connection (hd : t.Dated) (hp : t.prepared = s.prepared) (hc : I t.connection) :
    t.Upholds I Q :=
  ⟨hd, h.sound.of_prepared hp, hc, hp ▸ h.prepared⟩

end Upholds

section

variable (law : Law I Q)
include law

/-! ### Preparing -/

theorem connection_of_enforcing {on : Bool} (h : I s.connection)
    (ht : t.connection = s.connection.enforcing on) : I t.connection := by
  rw [ht]
  exact law.setting on h

theorem holds_of_prepareParsed {m : Statement.Parsed} (h : I s.connection)
    (hm : meaning? sql = some m) (hp : s.prepareParsed m = (t, .ok p)) : Q p.resolved := by
  obtain ⟨-, r, hr, rfl⟩ := eq_of_prepareParsed hp
  exact law.resolve h hm hr

theorem holds_of_start {text : List Char} {start : Start} (h : I s.connection)
    (hs : s.start text = (t, .ok start)) : Q (start.found.getD t.empty).resolved := by
  unfold Session.start at hs
  dsimp only at hs
  split at hs
  · cases hs
  · rename_i reading hr
    split at hs
    · cases hs
      have hm : meaning? "" = some ⟨.pragma "" none, []⟩ := rfl
      exact law.resolve h hm rfl
    · rename_i m hm
      split at hs
      · cases hs
      · rename_i s' p hp
        cases hs
        have hmeaning : meaning? (String.ofList text) = some m := by
          rw [meaning?, String.toList_ofList, hr]
          dsimp only
          rw [hm]
          rfl
        exact holds_of_prepareParsed law h hmeaning hp

namespace Upholds

variable (h : s.Upholds I Q)
include h

theorem start (text : List Char) : (s.start text).1.Upholds I Q := by
  obtain ⟨on, hon⟩ := s.exists_enforcing_start text
  exact h.of_connection (h.dated.start text) (s.prepared_start text)
    (connection_of_enforcing law h.connection hon)

theorem find (sql : String) : (s.find sql).1.Upholds I Q := by
  obtain ⟨on, hon⟩ := s.exists_enforcing_find sql
  exact h.of_connection (h.dated.find sql) (s.prepared_find sql)
    (connection_of_enforcing law h.connection hon)

theorem holds_of_find (hf : s.find sql = (t, .ok p)) : Q p.resolved := by
  rw [Session.find] at hf
  cases hl : s.prepared.lookup sql with
  | some q =>
    rw [hl] at hf
    cases hf
    exact h.prepared (sql, p) (mem_of_lookup hl)
  | none =>
    rw [hl] at hf
    dsimp only at hf
    cases hs : s.start sql.toList with
    | mk s' started =>
      rw [hs] at hf
      cases started with
      | error f => cases hf
      | ok start =>
        cases hf
        exact holds_of_start law h.connection hs

theorem prepare (sql : String) : (s.prepare sql).1.Upholds I Q := by
  have hs := h.find law (Text.trimmed sql)
  rw [Session.prepare]
  cases hf : s.find (Text.trimmed sql) with
  | mk t found =>
    rw [hf] at hs
    cases found with
    | error f => exact hs
    | ok p =>
      exact hs.keep (h.sound.comesOf_find hf) (h.dated.datesBack_find hf) (h.holds_of_find law hf)

theorem countStatements (limit : Nat) (sql : String) :
    (s.countStatements limit sql).1.Upholds I Q := by
  obtain ⟨on, hon⟩ := s.exists_enforcing_countStatements limit sql
  exact h.of_connection (h.dated.countStatements limit sql)
    (prepared_countFrom limit _ 0 s sql.toList) (connection_of_enforcing law h.connection hon)

theorem addFunction (f : Function) :
    ({ s with connection := s.connection.addFunction f } : Session).Upholds I Q :=
  h.of_connection (h.dated.addFunction f) rfl (law.function f h.connection)

end Upholds

theorem Readies.upholds (hr : s.Readies t) (h : s.Upholds I Q) : t.Upholds I Q := by
  cases hr with
  | counted limit sql => exact h.countStatements law limit sql
  | prepared sql => exact h.prepare law sql
  | resized capacity => exact h.setCapacity capacity

/-! ### Running -/

namespace Upholds

variable (h : s.Upholds I Q)
include h

theorem renewed (hp : p.ComesOf sql) (hq : Q p.resolved) :
    (s.renewed p).1.Upholds I Q ∧ ∀ q, (s.renewed p).2 = .ok q → Q q.resolved := by
  rw [Session.renewed]
  split
  · exact ⟨h, fun q he => Except.ok.inj he ▸ hq⟩
  · obtain ⟨on, hon⟩ := s.exists_enforcing_prepareParsed p.parsed
    refine ⟨h.of_connection (h.dated.of_evolves (evolves_enforcing hon) rfl) rfl
      (connection_of_enforcing law h.connection hon), fun q he => ?_⟩
    exact holds_of_prepareParsed law h.connection hp.meaning (Prod.ext rfl he)

theorem call (sql : String) (params : Params) : (s.call sql params).1.Upholds I Q := by
  have hs := h.find law (Text.trimmed sql)
  have hc := s.called_call sql params
  generalize s.call sql params = called at hc
  cases hc with
  | unfound found =>
    rw [found] at hs
    exact hs
  | unbound found bound =>
    rw [found] at hs
    exact hs.keep (h.sound.comesOf_find found) (h.dated.datesBack_find found)
      (h.holds_of_find law found)
  | @outdated t u p values f found bound renewed =>
    have hp := h.sound.comesOf_find found
    have hq := h.holds_of_find law found
    have he := t.evolves_renewed p
    rw [found] at hs
    have hu := (hs.renewed law hp hq).1
    rw [renewed] at he hu
    exact hu.keep hp ((h.dated.datesBack_find found).follows (he hs.dated.aligned).2) hq
  | @performed t u p q values found bound renewed =>
    have hp := h.sound.comesOf_find found
    rw [found] at hs
    obtain ⟨hu, hq⟩ := hs.renewed law hp (h.holds_of_find law found)
    rw [renewed] at hu hq
    obtain ⟨hback, hfits⟩ := hs.dated.renewed (h.dated.datesBack_find found) renewed
    have he := Connection.evolves_perform hfits values
    exact (hu.of_connection (t := { u with connection := (u.connection.perform values
      q.resolved.plan).1 }) (hu.dated.of_evolves he rfl) rfl
      (law.perform values hu.connection (hq q rfl) hfits)).keep (comesOf_renewed hp renewed)
      (hback.follows (he hu.dated.aligned).2) (hq q rfl)

theorem control (command : Control) : (s.control command).1.Upholds I Q :=
  h.of_connection (h.dated.control command) rfl (law.control command h.connection)

omit h in
theorem runFrom (fuel : Nat) (h : s.Upholds I Q) (text : List Char) :
    (runFrom fuel s text).1.Upholds I Q := by
  induction fuel generalizing s text with
  | zero => exact h
  | succ fuel ih =>
    cases text with
    | nil => exact h
    | cons c rest =>
      have hs := h.start law (c :: rest)
      unfold Session.runFrom
      split
      · rename_i t f ht
        rwa [ht] at hs
      · rename_i t rest' ht
        rw [ht] at hs
        exact ih hs rest'
      · rename_i t p rest' ht
        rw [ht] at hs
        have hfits := fits_start ht
        have he := Connection.evolves_perform hfits (p.parsed.parameters.map fun _ => .null)
        have hp : Session.Upholds I Q { t with connection := (t.connection.perform
            (p.parsed.parameters.map fun _ => .null) p.resolved.plan).1 } :=
          hs.of_connection (hs.dated.of_evolves he rfl) rfl
            (law.perform _ hs.connection (holds_of_start law h.connection ht) hfits)
        dsimp only
        split
        · exact hp
        · exact ih hp rest'

theorem runBatch (sql : String) : (s.runBatch sql).1.Upholds I Q := runFrom law _ h sql.toList

end Upholds

end

end Session

end NamedSql.Sql
