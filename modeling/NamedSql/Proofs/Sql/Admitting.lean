import NamedSql.Proofs.Sql.Afresh
import NamedSql.Proofs.Sql.Trailing
import NamedSql.Proofs.Text.Trimming

/-!
# Bodies that are let in

A body is let in if it has one statement and its statement can be prepared. The statements of the
body are counted first, each of them being prepared for that. Then the statement of the trimmed body
is looked up among those that are kept prepared, and is prepared if it is not there. That can only
fail if the trimmed body cannot be read: where it can, the line feed that was trimmed away leaves
its statement as it is, so it is the statement that was counted and everything that it names has
been found. So which statements are kept prepared does not matter for whether a body is let in, nor
for the connection that is left.

## Scope

A statement may set whether keys of other tables are enforced, also if it is only prepared for being
counted. So bodies that are let in one after the other are let in on different connections.

## Main definitions

* `Connection.admit?` — the connection on which a body has been let in

## Main results

* `Session.countStatements_of_connection` — counting depends on nothing but the connection
* `Session.exists_find_of_counted` — a statement that has been counted is found
* `Session.Sound.admit?_eq_some_iff` — whether a body is let in depends on the connection alone
-/

namespace NamedSql.Sql

namespace Connection

variable (c : Connection) (s : Statement)

/-- What a setting is set to does not matter for the statement that sets it. -/
theorem resolve_configured : (c.configured s).names.resolve s = c.names.resolve s := by
  rw [configured]
  cases s with
  | pragma name value =>
    cases value with
    | none => rfl
    | some value =>
      split
      · split
        · rfl
        · rfl
      · rfl
  | _ => rfl

theorem configured_configured : (c.configured s).configured s = c.configured s := by
  have hs : ∀ c : Connection, c.configured s =
      (setting? s).elim c fun on => if c.isAutocommit then c.enforcing on else c := by
    intro c
    rw [configured]
    cases setting? s with
    | none => rfl
    | some on => rfl
  generalize setting? s = on at hs
  cases on with
  | none => rw [hs, Option.elim_none]
  | some on =>
    by_cases ha : c.isAutocommit = true
    · have hc : c.configured s = c.enforcing on := (hs c).trans (if_pos ha)
      rw [hc, hs (c.enforcing on)]
      exact if_pos ha
    · have hc : c.configured s = c := (hs c).trans (if_neg ha)
      rw [hc, hc]

end Connection

namespace Session

variable {s s' t u : Session} {sql : String} {text : List Char}

/-! ### Counting -/

theorem start_of_connection (h : s'.connection = s.connection) (text : List Char) :
    (s'.start text).2 = (s.start text).2 ∧
      (s'.start text).1.connection = (s.start text).1.connection := by
  rw [start, start]
  dsimp only
  cases Statement.read text with
  | error f => exact ⟨rfl, h⟩
  | ok reading =>
    dsimp only
    cases reading.parsed with
    | none => exact ⟨rfl, h⟩
    | some parsed =>
      dsimp only [prepareParsed, Connection.prepare]
      rw [h]
      cases s.connection.names.resolve parsed.statement with
      | error f => exact ⟨rfl, rfl⟩
      | ok r => exact ⟨rfl, rfl⟩

theorem countFrom_of_connection (limit fuel count : Nat) (h : s'.connection = s.connection)
    (text : List Char) :
    (countFrom limit fuel count s' text).2 = (countFrom limit fuel count s text).2 ∧
      (countFrom limit fuel count s' text).1.connection =
        (countFrom limit fuel count s text).1.connection := by
  induction fuel generalizing count s s' text with
  | zero => exact ⟨rfl, h⟩
  | succ fuel ih =>
    cases text with
    | nil => exact ⟨rfl, h⟩
    | cons c rest =>
      obtain ⟨hr, hc⟩ := start_of_connection h (c :: rest)
      unfold countFrom
      split
      · exact ⟨rfl, h⟩
      · generalize s.start (c :: rest) = started at hr hc ⊢
        generalize s'.start (c :: rest) = started' at hr hc ⊢
        obtain ⟨t, _ | start⟩ := started
        · obtain ⟨t', _⟩ := started'
          cases hr
          exact ⟨rfl, hc⟩
        · obtain ⟨t', _⟩ := started'
          cases hr
          exact ih _ hc _

/-- Counting the statements of a text depends on nothing but the connection. -/
theorem countStatements_of_connection (h : s'.connection = s.connection) (limit : Nat)
    (sql : String) :
    (s'.countStatements limit sql).2 = (s.countStatements limit sql).2 ∧
      (s'.countStatements limit sql).1.connection = (s.countStatements limit sql).1.connection :=
  countFrom_of_connection limit _ 0 h sql.toList

theorem eq_of_start_of_found {start : Start} (h : s.start text = (t, .ok start))
    (hn : start.found = none) : t = s := by
  rw [Session.start] at h
  dsimp only at h
  split at h
  · cases h
  · split at h
    · cases h
      rfl
    · split at h
      · cases h
      · cases h
        cases hn

/-- Where no more statements are counted, nothing is prepared. -/
theorem countFrom_le {limit fuel count n : Nat}
    (h : countFrom limit fuel count s text = (t, .ok n)) :
    count ≤ n ∧ (n = count → t = s) := by
  induction fuel generalizing count s text with
  | zero =>
    cases h
    exact ⟨Nat.le_refl _, fun _ => rfl⟩
  | succ fuel ih =>
    cases text with
    | nil =>
      cases h
      exact ⟨Nat.le_refl _, fun _ => rfl⟩
    | cons c rest =>
      unfold countFrom at h
      split at h
      · cases h
        exact ⟨Nat.le_refl _, fun _ => rfl⟩
      · split at h
        · cases h
        · rename_i s' start hs
          obtain ⟨hle, hn⟩ := ih h
          cases hf : start.found with
          | none =>
            rw [hf] at hle hn
            rw [eq_of_start_of_found hs hf] at hn
            exact ⟨hle, hn⟩
          | some p =>
            rw [hf] at hle
            exact ⟨Nat.le_of_succ_le hle, fun he => absurd (he ▸ hle) (Nat.not_succ_le_self _)⟩

/-! ### Preparing what has been counted -/

/-- A body in which one statement has been counted, and whose trimmed text has a statement, has
nothing but that statement; the connection is left as it is for that statement. -/
theorem of_counted {reading : Statement.Reading} {m : Statement.Parsed}
    (hs : sql.toList = text ++ ['\n']) (hr : Statement.read text = .ok reading)
    (hm : reading.parsed = some m) (h : s.countStatements 2 sql = (t, .ok 1)) :
    (∃ r, s.connection.names.resolve m.statement = .ok r) ∧
      t.connection = s.connection.configured m.statement := by
  obtain ⟨rest, hr'⟩ := Statement.read_newline hr
  obtain ⟨c, cs, hc⟩ := List.exists_cons_of_ne_nil
    (show sql.toList ≠ [] by rw [hs]; exact List.append_ne_nil_of_right_ne_nil _ (by simp))
  rw [← hs, hm] at hr'
  rw [countStatements, hc] at h
  unfold countFrom at h
  rw [← hc, start, hr'] at h
  dsimp only [prepareParsed, Connection.prepare] at h
  rw [if_neg (by decide)] at h
  cases hn : s.connection.names.resolve m.statement with
  | error f =>
    rw [hn] at h
    cases h
  | ok r =>
    rw [hn] at h
    rw [(countFrom_le h).2 rfl]
    exact ⟨⟨r, rfl⟩, rfl⟩

/-- The statement of a body in which one statement has been counted is found, and the connection
stays as it is. -/
theorem exists_find_of_counted {m : Statement.Parsed}
    (hs : Text.Terminated sql.toList) (hm : meaning? (Text.trimmed sql) = some m)
    (h : s.countStatements 2 sql = (t, .ok 1)) :
    ∃ u p, t.find (Text.trimmed sql) = (u, .ok p) ∧ u.connection = t.connection := by
  cases hl : t.prepared.lookup (Text.trimmed sql) with
  | some p => exact ⟨t, p, find_of_lookup_eq_some hl, rfl⟩
  | none =>
    rw [meaning?] at hm
    cases hr : Statement.read (Text.trimmed sql).toList with
    | error f =>
      rw [hr] at hm
      cases hm
    | ok reading =>
      rw [find_of_read hl hr]
      cases hp : reading.parsed with
      | none => exact ⟨_, _, rfl, rfl⟩
      | some m =>
        rw [Text.trimmed, String.toList_ofList] at hr
        obtain ⟨⟨r, hn⟩, hc⟩ := of_counted hs hr hp h
        have hn' : t.connection.names.resolve m.statement = .ok r := by
          rw [hc, Connection.resolve_configured, hn]
        dsimp only [Option.getD_some, prepareParsed, Connection.prepare]
        rw [hn']
        refine ⟨_, _, rfl, ?_⟩
        dsimp only
        rw [hc, Connection.configured_configured]

end Session

/-- The connection on which a body has been let in: it has one statement, and the trimmed body can
be read. -/
def Connection.admit? (c : Connection) (sql : String) : Option Connection :=
  let (s, count) := (Session.new c 0).countStatements 2 sql
  if count.toOption = some 1 ∧ (meaning? (Text.trimmed sql)).isSome then some s.connection else none

namespace Session

variable {s : Session} {sql : String} {c : Connection}

theorem admit?_eq_some_iff_counted : s.connection.admit? sql = some c ↔
    (∃ t, s.countStatements 2 sql = (t, .ok 1) ∧ t.connection = c) ∧
      ∃ m, meaning? (Text.trimmed sql) = some m := by
  have hn : (new s.connection 0).connection = s.connection := rfl
  obtain ⟨hr, hc⟩ := countStatements_of_connection hn 2 sql
  rw [Connection.admit?]
  dsimp only
  rw [hr, hc, Option.ite_none_right_eq_some, Option.some.injEq, Option.isSome_iff_exists]
  generalize s.countStatements 2 sql = counted
  obtain ⟨t, f | n⟩ := counted
  · constructor
    · rintro ⟨⟨⟨⟩, _⟩, _⟩
    · rintro ⟨⟨_, ⟨⟩, _⟩, _⟩
  · constructor
    · rintro ⟨⟨⟨⟩, hm⟩, ⟨⟩⟩
      exact ⟨⟨t, rfl, rfl⟩, hm⟩
    · rintro ⟨⟨_, ⟨⟩, rfl⟩, hm⟩
      exact ⟨⟨rfl, hm⟩, rfl⟩

/-- **Whether a body is let in depends on the connection alone.** -/
theorem Sound.admit?_eq_some_iff (h : s.Sound) (hs : Text.Terminated sql.toList) :
    s.connection.admit? sql = some c ↔ ∃ t u, s.countStatements 2 sql = (t, .ok 1) ∧
      t.prepare sql = (u, none) ∧ u.connection = c := by
  rw [admit?_eq_some_iff_counted]
  constructor
  · rintro ⟨⟨t, ht, rfl⟩, m, hm⟩
    obtain ⟨u, p, hf, hc⟩ := exists_find_of_counted hs hm ht
    refine ⟨t, u.keep (Text.trimmed sql) p, ht, ?_, hc⟩
    rw [Session.prepare]
    rw [hf]
  · rintro ⟨t, u, ht, hp, rfl⟩
    have hts : t.Sound := by
      have := h.countStatements 2 sql
      rwa [ht] at this
    rw [Session.prepare] at hp
    cases hf : t.find (Text.trimmed sql) with
    | mk u' found =>
      rw [hf] at hp
      cases found with
      | error f => cases hp
      | ok p =>
        cases hp
        have hm := (hts.comesOf_find hf).meaning
        obtain ⟨u'', p', hf', hc⟩ := exists_find_of_counted hs hm ht
        cases hf.symm.trans hf'
        exact ⟨⟨t, ht, hc.symm⟩, p.parsed, hm⟩

end Session

end NamedSql.Sql
