import NamedSql.Proofs.Sql.Enforcing
import NamedSql.Proofs.Sql.Renewal

/-!
# Prepared statements and statements prepared afresh

What a call returns is compared to what it would return if the session had not prepared any
statement before. The rows are never those of an old statement: one that is out of date is prepared
anew before it runs. The names of its columns have been taken by then, so they are those that the
statement had when it was prepared the last time. As long as these are the names that it has now, a
call cannot be told from one that prepares its statement afresh.

## Scope

The setting for keys of other tables is read when a statement is prepared. A change of rows that was
prepared under another setting, and is not out of date, is compared to one that is prepared under
that setting; for queries the setting does not matter.

A statement that is not out of date is taken to have its columns only if no table has been defined,
altered or dropped since it was prepared, or if it mentions none. The remaining ones mention a table
in an ordering that is not carried out.

## Main definitions

* `Connection.answer` — what a text comes to whose statement is prepared now
* `Connection.Returns` — a row that the statement of a text returns as it is resolved now
* `Session.afresh` — a session that has not prepared any statement
* `Prepared.KeepsColumns`, `Session.KeepsColumns` — a statement has the columns that it had when it
  was prepared

## Main results

* `Session.call_of_lookup_eq_none` — a call for which nothing has been prepared
* `Session.exists_setting` — a statement with the columns that it had is run as if it was prepared
  now
* `Session.Sound.returns_of_not_isCurrent` — a statement that is out of date returns the rows that
  it has now under the columns that it had
-/

namespace NamedSql

section Except

variable {ε α β : Type} {x : Except ε α} {b : β}

theorem exists_of_bind_eq_ok {f : α → Except ε β} (h : x.bind f = .ok b) :
    ∃ a, x = .ok a ∧ f a = .ok b := by
  cases x with
  | error e => cases h
  | ok a => exact ⟨a, rfl, h⟩

theorem exists_of_map_eq_ok {f : α → β} (h : x.map f = .ok b) : ∃ a, x = .ok a ∧ b = f a := by
  cases x with
  | error e => cases h
  | ok a => exact ⟨a, rfl, (Except.ok.inj h).symm⟩

theorem eq_ok_of_mapError {δ : Type} {f : ε → δ} {a : α} (h : x.mapError f = .ok a) :
    x = .ok a := by
  cases x with
  | error e => cases h
  | ok a' => exact congrArg _ (Except.ok.inj h)

end Except

namespace Sql

namespace Connection

variable {c : Connection}

theorem enforcing_foreignKeys (c : Connection) : c.enforcing c.foreignKeys = c := rfl

theorem exists_enforcing_configured (c : Connection) (s : Statement) :
    ∃ on, c.configured s = c.enforcing on := by
  rw [configured]
  split
  · split
    · exact ⟨_, rfl⟩
    · exact ⟨c.foreignKeys, rfl⟩
  · exact ⟨c.foreignKeys, rfl⟩

theorem output_enforcing (c : Connection) (on : Bool) (values : List Value) (p : Plan) :
    ((c.enforcing on).perform values p).2 = (c.perform values p).2 := by
  rw [perform_enforcing]
  rfl

/-- What a statement delivers does not depend on the setting that it makes itself. -/
theorem output_configured (c : Connection) (s : Statement) (values : List Value) (p : Plan) :
    ((c.configured s).perform values p).2 = (c.perform values p).2 := by
  obtain ⟨on, hon⟩ := c.exists_enforcing_configured s
  rw [hon, output_enforcing]

/-- What is delivered when the statement of a text has been resolved and is carried out. -/
def deliver (c : Connection) (m : Statement.Parsed) (announced : List String) (r : Resolved)
    (params : Params) : Except Failure Execution :=
  (bindParameters m.parameters params).map fun values =>
    ⟨announced, r.columns, (c.perform values r.plan).2⟩

/-- What a statement comes to that is prepared now. -/
def answerTo (c : Connection) (text : String) (m : Statement.Parsed) (params : Params) :
    Except Failure Execution :=
  match c.names.resolve m.statement with
  | .error f => .error (.refused f text)
  | .ok r => c.deliver m r.columns r params

/-- What a text comes to whose statement is prepared now. -/
def answer (c : Connection) (text : String) (params : Params) : Except Failure Execution :=
  match Statement.read text.toList with
  | .error f => .error (.refused f text)
  | .ok reading => c.answerTo text (reading.parsed.getD ⟨.pragma "" none, []⟩) params

theorem answer_of_meaning {sql : String} {m : Statement.Parsed} (hm : meaning? sql = some m)
    (params : Params) : c.answer sql params = c.answerTo sql m params := by
  rw [meaning?] at hm
  rw [answer]
  cases hread : Statement.read sql.toList with
  | error f =>
    rw [hread] at hm
    cases hm
  | ok reading =>
    rw [hread] at hm
    cases hm
    rfl

theorem answerTo_of_resolve {sql : String} {m : Statement.Parsed} {r : Resolved}
    (hr : c.names.resolve m.statement = .ok r) (params : Params) :
    c.answerTo sql m params = c.deliver m r.columns r params := by
  rw [answerTo, hr]

theorem deliver_configured (c : Connection) (statement : Statement) (m : Statement.Parsed)
    (announced : List String) (r : Resolved) (params : Params) :
    (c.configured statement).deliver m announced r params = c.deliver m announced r params := by
  simp only [deliver, c.output_configured]

theorem deliver_enforcing (c : Connection) (on : Bool) (m : Statement.Parsed)
    (announced : List String) (r : Resolved) (params : Params) :
    (c.enforcing on).deliver m announced r params = c.deliver m announced r params := by
  simp only [deliver, c.output_enforcing]

/-- A row that the statement of a text returns as it is resolved now. -/
def Returns (c : Connection) (text : String) (params : Params) (r : Resolved) (row : List Value) :
    Prop :=
  ∃ m values, meaning? text = some m ∧ c.names.resolve m.statement = .ok r ∧
    bindParameters m.parameters params = .ok values ∧ row ∈ (c.perform values r.plan).2.rows

theorem returns_of_deliver {text : String} {m : Statement.Parsed} {announced : List String}
    {r : Resolved} {params : Params} {e : Execution} (hm : meaning? text = some m)
    (hr : c.names.resolve m.statement = .ok r) (h : c.deliver m announced r params = .ok e) :
    e.announced = announced ∧ ∀ row ∈ e.output.rows, c.Returns text params r row := by
  obtain ⟨values, hb, rfl⟩ := exists_of_map_eq_ok h
  exact ⟨rfl, fun row hrow => ⟨m, values, hm, hr, hb, hrow⟩⟩

/-- What is prepared now returns rows of its statement under the columns of its statement. -/
theorem returns_of_answer {text : String} {params : Params} {e : Execution}
    (h : c.answer text params = .ok e) :
    ∃ r, e.announced = r.columns ∧ ∀ row ∈ e.output.rows, c.Returns text params r row := by
  cases hread : Statement.read text.toList with
  | error f =>
    rw [answer, hread] at h
    cases h
  | ok reading =>
    have hm : meaning? text = some (reading.parsed.getD ⟨.pragma "" none, []⟩) := by
      rw [meaning?, hread]
    rw [answer_of_meaning hm] at h
    generalize reading.parsed.getD ⟨.pragma "" none, []⟩ = m at hm h
    cases hr : c.names.resolve m.statement with
    | error f =>
      rw [answerTo, hr] at h
      cases h
    | ok r =>
      rw [answerTo_of_resolve hr] at h
      exact ⟨r, returns_of_deliver hm hr h⟩

end Connection

namespace Session

variable {s t u : Session} {sql : String} {p q : Prepared} {m : Statement.Parsed} {r : Resolved}

theorem find_of_lookup_eq_some (hl : s.prepared.lookup sql = some p) :
    s.find sql = (s, .ok p) := by
  rw [find, hl]

theorem find_of_read_error {f : Fault} (hl : s.prepared.lookup sql = none)
    (hread : Statement.read sql.toList = .error f) : (s.find sql).2 = .error (.refused f sql) := by
  rw [find, hl]
  unfold start
  rw [hread]
  dsimp only
  rw [String.ofList_toList]
  rfl

/-- What is found under a text for which nothing has been prepared is prepared now. A text without a
statement is prepared like one that does nothing. -/
theorem find_of_read {reading : Statement.Reading} (hl : s.prepared.lookup sql = none)
    (hread : Statement.read sql.toList = .ok reading) :
    s.find sql =
      let prepared := s.prepareParsed (reading.parsed.getD ⟨.pragma "" none, []⟩)
      (prepared.1, prepared.2.mapError fun f => .refused f sql) := by
  obtain ⟨parsed, rest⟩ := reading
  rw [find, hl]
  unfold start
  rw [hread]
  cases parsed with
  | none => rfl
  | some parsed =>
    dsimp only [Option.getD_some]
    rcases s.prepareParsed parsed with ⟨t, f | p⟩
    · rw [String.ofList_toList]
      rfl
    · rfl

theorem renewed_of_not_isCurrent (hc : p.isCurrent s.connection.age = false) :
    s.renewed p = s.prepareParsed p.parsed := by
  rw [renewed, hc]
  rfl

/-! ### Calls -/

/-- A call announces the columns that its statement had when it was found, and runs the statement as
it is once it is not out of date. -/
theorem call_of_renewed (hf : s.find (Text.trimmed sql) = (t, .ok p))
    (hr : t.renewed p = (u, .ok q)) (params : Params) :
    (s.call sql params).2 = u.connection.deliver p.parsed p.resolved.columns q.resolved params := by
  rw [call]
  dsimp only
  rw [hf, Connection.deliver]
  dsimp only
  cases bindParameters p.parsed.parameters params with
  | error f => rfl
  | ok values =>
    dsimp only
    unfold execute
    rw [hr]
    rfl

theorem call_of_find_error {f : Failure} (hf : (s.find (Text.trimmed sql)).2 = .error f)
    (params : Params) : (s.call sql params).2 = .error f := by
  rw [call]
  dsimp only
  generalize s.find (Text.trimmed sql) = found at hf ⊢
  obtain ⟨t, found⟩ := found
  cases hf
  rfl

/-- What has just been prepared is not out of date. -/
theorem isCurrent_configured (c : Connection) (m : Statement.Parsed) (r : Resolved) :
    (Prepared.mk m r c.age).isCurrent (c.configured m.statement).age = true := by
  rw [Connection.age_configured, Prepared.isCurrent, beq_self_eq_true, beq_self_eq_true]
  rfl

/-- **A call of a text for which nothing has been prepared** prepares its statement now. -/
theorem call_of_lookup_eq_none (hl : s.prepared.lookup (Text.trimmed sql) = none)
    (params : Params) : (s.call sql params).2 = s.connection.answer (Text.trimmed sql) params := by
  cases hread : Statement.read (Text.trimmed sql).toList with
  | error f => rw [call_of_find_error (find_of_read_error hl hread), Connection.answer, hread]
  | ok reading =>
    have hf := find_of_read hl hread
    rw [Connection.answer, hread]
    dsimp only at hf ⊢
    generalize reading.parsed.getD ⟨.pragma "" none, []⟩ = m at hf ⊢
    cases hr : s.connection.names.resolve m.statement with
    | error f =>
      rw [prepareParsed_error hr] at hf
      rw [call_of_find_error (congrArg Prod.snd hf), Connection.answerTo, hr]
    | ok r =>
      rw [prepareParsed_eq hr] at hf
      rw [call_of_renewed hf (renewed_of_isCurrent (isCurrent_configured s.connection m r)),
        Connection.deliver_configured, Connection.answerTo_of_resolve hr]

/-- A call of a text whose statement is not out of date runs it as it was prepared. -/
theorem call_of_isCurrent (hl : s.prepared.lookup (Text.trimmed sql) = some p)
    (hc : p.isCurrent s.connection.age = true) (params : Params) :
    (s.call sql params).2 =
      s.connection.deliver p.parsed p.resolved.columns p.resolved params :=
  call_of_renewed (find_of_lookup_eq_some hl) (renewed_of_isCurrent hc) params

/-- A call of a text whose statement is out of date runs it as it is now, but announces the columns
that it had. -/
theorem call_of_not_isCurrent (hl : s.prepared.lookup (Text.trimmed sql) = some p)
    (hc : p.isCurrent s.connection.age = false)
    (hr : s.connection.names.resolve p.parsed.statement = .ok r) (params : Params) :
    (s.call sql params).2 = s.connection.deliver p.parsed p.resolved.columns r params := by
  have hn := renewed_of_not_isCurrent hc
  rw [prepareParsed_eq hr] at hn
  rw [call_of_renewed (find_of_lookup_eq_some hl) hn, Connection.deliver_configured]

/-- A call of a text whose statement is out of date and cannot be prepared anew returns no row. -/
theorem rows_of_not_isCurrent {f : Fault} {params : Params} {e : Execution}
    (hl : s.prepared.lookup (Text.trimmed sql) = some p)
    (hc : p.isCurrent s.connection.age = false)
    (hr : s.connection.names.resolve p.parsed.statement = .error f)
    (h : (s.call sql params).2 = .ok e) : e.output.rows = [] := by
  have hn : (s.renewed p).2 = .error f := by
    rw [renewed_of_not_isCurrent hc, prepareParsed_error hr]
  rw [call] at h
  dsimp only at h
  rw [find_of_lookup_eq_some hl] at h
  dsimp only at h
  cases hb : bindParameters p.parsed.parameters params with
  | error f =>
    rw [hb] at h
    cases h
  | ok values =>
    rw [hb] at h
    dsimp only at h
    unfold execute at h
    generalize s.renewed p = renewed at hn h
    obtain ⟨t, renewed⟩ := renewed
    cases hn
    cases h
    rfl

/-- **A statement that is out of date returns the rows that it has now under the columns that it
had** when it was prepared. -/
theorem Sound.returns_of_not_isCurrent (hs : s.Sound) {params : Params} {e : Execution}
    (hl : s.prepared.lookup (Text.trimmed sql) = some p)
    (hc : p.isCurrent s.connection.age = false) (h : (s.call sql params).2 = .ok e) :
    ∀ row ∈ e.output.rows, e.announced = p.resolved.columns ∧
      ∃ r, s.connection.Returns (Text.trimmed sql) params r row := by
  intro row hrow
  cases hr : s.connection.names.resolve p.parsed.statement with
  | error f =>
    rw [rows_of_not_isCurrent hl hc hr h] at hrow
    cases hrow
  | ok r =>
    rw [call_of_not_isCurrent hl hc hr] at h
    obtain ⟨ha, hrows⟩ :=
      Connection.returns_of_deliver (hs _ (mem_of_lookup hl)).meaning hr h
    exact ⟨ha, r, hrows row hrow⟩

end Session

/-! ### Statements that mean the same -/

/-- A statement that is no query and mentions no table does not look at tables. -/
theorem Names.looksAtTables_of_resolve {n : Names} {s : Statement} {r : Resolved}
    (hs : s.isSelect = false) (hm : s.mentions = false) (hr : n.resolve s = .ok r) :
    r.plan.looksAtTables = false := by
  cases s with
  | control c =>
    cases hr
    rfl
  | pragma name value =>
    change Resolve.start (pure (n.pragma name value)) = .ok r at hr
    rw [Resolve.start_pure, Names.pragma] at hr
    cases hr
    repeat' split
    all_goals rfl
  | select q => cases hs
  | _ => cases hm

namespace Prepared

variable {p : Prepared} {c : Connection} {r : Resolved}

/-- A prepared statement returns the columns that it had when it was prepared: no table has been
defined, altered or dropped since then, or it mentions none, and no function has come in the place
of another one; or it is out of date and has the same columns once it is prepared anew. -/
inductive KeepsColumns (p : Prepared) (c : Connection) : Prop
  | undisturbed (all : p.age.all = c.age.all)
    (definitions : p.parsed.statement.mentions = true → p.age.definitions = c.age.definitions)
  | renewed {r : Resolved} (stale : p.isCurrent c.age = false)
    (resolved : c.names.resolve p.parsed.statement = .ok r)
    (columns : r.columns = p.resolved.columns)

/-- A statement with the same tables and functions is resolved in the same way again, under the
setting that it was prepared under. To a query the setting does not matter. -/
theorem DatesBack.resolve (h : p.DatesBack c) (hf : Function.Distinct c.functions)
    (hv : c.HidesNone) (all : p.age.all = c.age.all)
    (definitions : p.parsed.statement.mentions = true → p.age.definitions = c.age.definitions) :
    ∃ on, (p.parsed.statement.isSelect = true → on = c.foreignKeys) ∧
      (c.enforcing on).names.resolve p.parsed.statement = .ok p.resolved := by
  obtain ⟨c₀, hr, ha, hc⟩ := h
  rw [ha] at all definitions
  have hl : ∀ on, c₀.names.Like (c.enforcing on).names := fun on =>
    { hc.names all.symm hf hv with }
  have ht : p.parsed.statement.mentions = true →
      c.database.definitions = c₀.database.definitions := fun hm =>
    hc.tables (Age.eq_of_fields (definitions hm).symm all.symm)
  cases hs : p.parsed.statement.isSelect with
  | true =>
    exact ⟨c.foreignKeys, fun _ => rfl,
      Names.resolve_of_like (hl _) ht (fun h => nomatch hs ▸ h) hr⟩
  | false =>
    exact ⟨c₀.foreignKeys, nofun, Names.resolve_of_like (hl _) ht (fun _ => rfl) hr⟩

/-- A statement with the same tables and functions that is out of date all the same is a query. -/
theorem DatesBack.isSelect (h : p.DatesBack c) (all : p.age.all = c.age.all)
    (definitions : p.parsed.statement.mentions = true → p.age.definitions = c.age.definitions)
    (hc : p.isCurrent c.age = false) : p.parsed.statement.isSelect = true := by
  obtain ⟨c₀, hr, -⟩ := h
  by_contra hs
  rw [Bool.not_eq_true] at hs
  rw [isCurrent, all, beq_self_eq_true, Bool.true_and] at hc
  cases hm : p.parsed.statement.mentions with
  | true =>
    rw [definitions hm, beq_self_eq_true] at hc
    cases hc
  | false =>
    rw [Names.looksAtTables_of_resolve hs hm hr, Bool.not_false, Bool.or_true] at hc
    cases hc

variable (h : p.KeepsColumns c) (hb : p.DatesBack c) (hf : Function.Distinct c.functions)
  (hv : c.HidesNone)
include h hb hf hv

/-- A statement that is not out of date, and has the columns that it had, is resolved in the same
way again. -/
theorem KeepsColumns.resolve_of_isCurrent (hc : p.isCurrent c.age = true) :
    ∃ on, (p.parsed.statement.isSelect = true → on = c.foreignKeys) ∧
      (c.enforcing on).names.resolve p.parsed.statement = .ok p.resolved := by
  cases h with
  | undisturbed all definitions => exact hb.resolve hf hv all definitions
  | renewed stale _ _ =>
    rw [hc] at stale
    cases stale

/-- A statement that is out of date, and has the columns that it had, can be prepared anew. -/
theorem KeepsColumns.resolve_of_not_isCurrent (hc : p.isCurrent c.age = false) :
    ∃ r, c.names.resolve p.parsed.statement = .ok r ∧ r.columns = p.resolved.columns := by
  cases h with
  | undisturbed all definitions =>
    obtain ⟨on, hon, hr⟩ := hb.resolve hf hv all definitions
    cases hon (hb.isSelect all definitions hc)
    exact ⟨p.resolved, hr, rfl⟩
  | renewed stale resolved columns => exact ⟨_, resolved, columns⟩

end Prepared

namespace Session

variable {s : Session} {sql : String} {p : Prepared}

/-- The session as it would be if it had not prepared any statement, under a setting. -/
def afresh (s : Session) (on : Bool) : Session :=
  { s with connection := s.connection.enforcing on, prepared := [] }

theorem call_afresh (s : Session) (on : Bool) (sql : String) (params : Params) :
    ((s.afresh on).call sql params).2 =
      (s.connection.enforcing on).answer (Text.trimmed sql) params :=
  call_of_lookup_eq_none rfl params

/-- What is kept under a text, if anything is, returns the columns that it had when it was
prepared. -/
def KeepsColumns (s : Session) (text : String) : Prop :=
  ∀ p, s.prepared.lookup text = some p → p.KeepsColumns s.connection

/-- Whether the statement of a text is a query. -/
def isSelect (text : String) : Bool := (meaning? text).any fun m => m.statement.isSelect

/-- **A statement with the columns that it had is run as if it was prepared now**, under some
setting for keys of other tables. If it is a query, that is the setting of the connection. -/
theorem exists_setting (hd : s.Dated) (hs : s.Sound)
    (hf : Function.Distinct s.connection.functions) (hv : s.connection.HidesNone)
    (hk : s.KeepsColumns (Text.trimmed sql)) :
    ∃ on, (isSelect (Text.trimmed sql) = true → on = s.connection.foreignKeys) ∧
      ∀ params, (s.call sql params).2 = ((s.afresh on).call sql params).2 := by
  simp only [call_afresh]
  cases hl : s.prepared.lookup (Text.trimmed sql) with
  | none =>
    refine ⟨s.connection.foreignKeys, fun _ => rfl, fun params => ?_⟩
    rw [Connection.enforcing_foreignKeys]
    exact call_of_lookup_eq_none hl params
  | some p =>
    have hp : p.ComesOf (Text.trimmed sql) := hs _ (mem_of_lookup hl)
    have hb : p.DatesBack s.connection := hd.prepared _ (mem_of_lookup hl)
    have hanswer := fun c params => Connection.answer_of_meaning (c := c) hp.meaning params
    rw [isSelect, hp.meaning, Option.any_some]
    simp only [hanswer]
    cases hc : p.isCurrent s.connection.age with
    | true =>
      obtain ⟨on, hon, hr⟩ := (hk p hl).resolve_of_isCurrent hb hf hv hc
      refine ⟨on, hon, fun params => ?_⟩
      rw [call_of_isCurrent hl hc, Connection.answerTo_of_resolve hr, Connection.deliver_enforcing]
    | false =>
      obtain ⟨r, hr, hcolumns⟩ := (hk p hl).resolve_of_not_isCurrent hb hf hv hc
      refine ⟨s.connection.foreignKeys, fun _ => rfl, fun params => ?_⟩
      rw [Connection.enforcing_foreignKeys, call_of_not_isCurrent hl hc hr,
        Connection.answerTo_of_resolve hr, hcolumns]

end Session

end Sql

end NamedSql
