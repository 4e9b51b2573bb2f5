import NamedSql.Proofs.Sql.Endings

/-!
# Prepared statements and their texts

A session keeps prepared statements under the texts that they were prepared from. Whatever has been
done with it, what it finds under a text is the statement of that text, resolved in the tables of
some time. A statement that is prepared anew stays the same statement, so all that can change
between two calls of one text is what its names mean.

## Scope

Whether the tables of that time are still the tables is not said here.

## Main definitions

* `meaning?` — the statement of a text
* `Prepared.ComesOf` — a prepared statement is that of a text
* `Session.Sound` — every prepared statement is that of its text
* `Session.Readies` — what is done to have statements ready for later

## Main results

* `Session.Sound.comesOf_find` — what is found under a text is its statement
* `Session.Sound.prepare`, `Session.Sound.call`, `Session.Sound.runBatch` — sessions stay sound
-/

namespace NamedSql.Sql

/-- The statement of a text, with its parameters. A text without a statement stands for one that
does nothing. -/
def meaning? (sql : String) : Option Statement.Parsed :=
  match Statement.read sql.toList with
  | .error _ => none
  | .ok reading => some (reading.parsed.getD ⟨.pragma "" none, []⟩)

/-- A prepared statement is that of a text, resolved at some time. -/
structure Prepared.ComesOf (p : Prepared) (sql : String) : Prop where
  meaning : meaning? sql = some p.parsed
  resolved : ∃ n : Names, n.resolve p.parsed.statement = .ok p.resolved

namespace Session

/-- Every prepared statement is that of the text under which it is kept. -/
def Sound (s : Session) : Prop := ∀ e ∈ s.prepared, e.2.ComesOf e.1

variable {s t : Session} {sql : String} {p : Prepared}

theorem sound_new (c : Connection) (capacity : Nat) : (new c capacity).Sound :=
  fun _ he => absurd he List.not_mem_nil

theorem Sound.of_prepared (h : s.Sound) (ht : t.prepared = s.prepared) : t.Sound := by
  rw [Sound, ht]
  exact h

theorem Sound.setCapacity (h : s.Sound) (capacity : Nat) : (s.setCapacity capacity).Sound :=
  fun e he => h e (List.mem_of_mem_take he)

theorem Sound.keep (h : s.Sound) (hp : p.ComesOf sql) : (s.keep sql p).Sound := by
  intro e he
  rcases List.mem_cons.mp (List.mem_of_mem_take he) with rfl | he
  · exact hp
  · exact h e ((List.mem_filter.mp he).1)

/-! ### Preparing -/

theorem of_prepareParsed {parsed : Statement.Parsed}
    (h : s.prepareParsed parsed = (t, .ok p)) :
    p.parsed = parsed ∧ ∃ n : Names, n.resolve parsed.statement = .ok p.resolved := by
  rw [prepareParsed] at h
  cases hr : s.connection.names.resolve parsed.statement with
  | error f =>
    simp only [Connection.prepare, hr] at h
    cases h
  | ok resolved =>
    simp only [Connection.prepare, hr] at h
    cases h
    exact ⟨rfl, _, hr⟩

theorem prepared_start (s : Session) (text : List Char) :
    (s.start text).1.prepared = s.prepared := by
  unfold start
  dsimp only
  split
  · rfl
  · split
    · rfl
    · rename_i parsed _
      have h : (s.prepareParsed parsed).1.prepared = s.prepared := rfl
      split <;> simpa [*] using h

theorem comesOf_empty (s : Session) {reading : Statement.Reading}
    (hr : Statement.read sql.toList = .ok reading) (hn : reading.parsed = none) :
    s.empty.ComesOf sql := by
  refine ⟨?_, s.connection.names, rfl⟩
  rw [meaning?, hr]
  dsimp only
  rw [hn]
  rfl

/-- What stands at the start of a text is the statement of the text. -/
theorem comesOf_start {start : Start} (h : s.start sql.toList = (t, .ok start)) :
    (start.found.getD t.empty).ComesOf sql := by
  unfold Session.start at h
  dsimp only at h
  split at h
  · cases h
  · rename_i reading hr
    split at h
    · rename_i hn
      cases h
      exact comesOf_empty s hr hn
    · rename_i parsed hn
      split at h
      · cases h
      · rename_i s' p hp
        cases h
        obtain ⟨rfl, hres⟩ := of_prepareParsed hp
        refine ⟨?_, hres⟩
        rw [meaning?, hr]
        dsimp only
        rw [hn]
        rfl

theorem prepared_find (s : Session) (sql : String) : (s.find sql).1.prepared = s.prepared := by
  unfold find
  split
  · rfl
  · exact s.prepared_start sql.toList

theorem mem_of_lookup (h : s.prepared.lookup sql = some p) : (sql, p) ∈ s.prepared := by
  obtain ⟨before, after, hs, -⟩ := List.lookup_eq_some_iff.mp h
  rw [hs]
  exact List.mem_append_right before List.mem_cons_self

/-- What is found under a text is the statement of the text. -/
theorem Sound.comesOf_find (h : s.Sound) (hf : s.find sql = (t, .ok p)) : p.ComesOf sql := by
  rw [find] at hf
  cases hl : s.prepared.lookup sql with
  | some q =>
    rw [hl] at hf
    cases hf
    exact h (sql, p) (mem_of_lookup hl)
  | none =>
    rw [hl] at hf
    dsimp only at hf
    cases hs : s.start sql.toList with
    | mk s' started =>
      rw [hs] at hf
      cases started with
      | error f => cases hf
      | ok start =>
        cases hf
        exact comesOf_start hs

theorem Sound.find (h : s.Sound) (sql : String) : (s.find sql).1.Sound :=
  h.of_prepared (s.prepared_find sql)

theorem Sound.prepare (h : s.Sound) (sql : String) : (s.prepare sql).1.Sound := by
  have hs := h.find (Text.trimmed sql)
  rw [Session.prepare]
  cases hf : s.find (Text.trimmed sql) with
  | mk t found =>
    rw [hf] at hs
    cases found with
    | error f => exact hs
    | ok p => exact hs.keep (h.comesOf_find hf)

theorem prepared_countFrom (limit fuel count : Nat) (s : Session) (text : List Char) :
    (countFrom limit fuel count s text).1.prepared = s.prepared := by
  induction fuel generalizing count s text with
  | zero => rfl
  | succ fuel ih =>
    cases text with
    | nil => rfl
    | cons c rest =>
      have hs := s.prepared_start (c :: rest)
      unfold countFrom
      split
      · rfl
      · split
        · rename_i t f ht
          rwa [ht] at hs
        · rename_i t start ht
          rw [ht] at hs
          rw [ih, hs]

theorem Sound.countStatements (h : s.Sound) (limit : Nat) (sql : String) :
    (s.countStatements limit sql).1.Sound :=
  h.of_prepared (prepared_countFrom limit _ 0 s sql.toList)

theorem prepared_runFrom (fuel : Nat) (s : Session) (text : List Char) :
    (runFrom fuel s text).1.prepared = s.prepared := by
  induction fuel generalizing s text with
  | zero => rfl
  | succ fuel ih =>
    cases text with
    | nil => rfl
    | cons c rest =>
      have hs := s.prepared_start (c :: rest)
      unfold runFrom
      split
      · rename_i t f ht
        rwa [ht] at hs
      · rename_i t rest' ht
        rw [ht] at hs
        rw [ih, hs]
      · rename_i t p rest' ht
        rw [ht] at hs
        dsimp only
        split
        · exact hs
        · rw [ih]
          exact hs

theorem Sound.runBatch (h : s.Sound) (sql : String) : (s.runBatch sql).1.Sound :=
  h.of_prepared (prepared_runFrom _ s sql.toList)

/-- What a session does to have statements ready for later. -/
inductive Readies (s : Session) : Session → Prop
  | counted (limit : Nat) (sql : String) : Readies s (s.countStatements limit sql).1
  | prepared (sql : String) : Readies s (s.prepare sql).1
  | resized (capacity : Nat) : Readies s (s.setCapacity capacity)

theorem Readies.sound (h : s.Readies t) (hs : s.Sound) : t.Sound := by
  cases h with
  | counted limit sql => exact hs.countStatements limit sql
  | prepared sql => exact hs.prepare sql
  | resized capacity => exact hs.setCapacity capacity

/-! ### Calls -/

/-- A statement that is prepared anew stays the statement of its text. -/
theorem comesOf_renewed {q : Prepared} (hp : p.ComesOf sql) (hr : s.renewed p = (t, .ok q)) :
    q.ComesOf sql := by
  rw [renewed] at hr
  split at hr
  · cases hr
    exact hp
  · obtain ⟨he, hres⟩ := of_prepareParsed hr
    exact ⟨by rw [he]; exact hp.meaning, by rw [he]; exact hres⟩

theorem prepared_renewed (s : Session) (p : Prepared) :
    (s.renewed p).1.prepared = s.prepared := by
  rw [renewed]
  split <;> rfl

theorem Sound.call (h : s.Sound) (sql : String) (params : Params) :
    (s.call sql params).1.Sound := by
  have hs := h.find (Text.trimmed sql)
  have hc := s.called_call sql params
  generalize s.call sql params = called at hc
  cases hc with
  | unfound found =>
    rw [found] at hs
    exact hs
  | unbound found bound =>
    rw [found] at hs
    exact hs.keep (h.comesOf_find found)
  | @outdated t u p values f found bound renewed =>
    have hn := t.prepared_renewed p
    rw [found] at hs
    rw [renewed] at hn
    exact (hs.of_prepared hn).keep (h.comesOf_find found)
  | @performed t u p q values found bound renewed =>
    have hn := t.prepared_renewed p
    rw [found] at hs
    rw [renewed] at hn
    exact Sound.keep (hs.of_prepared hn) (comesOf_renewed (h.comesOf_find found) renewed)

theorem Sound.control (h : s.Sound) (command : Control) : (s.control command).1.Sound := h

end Session

end NamedSql.Sql
