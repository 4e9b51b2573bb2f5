import NamedSql.Proofs.Registry.Grounded

/-!
# Kinds of reading

A query may be for one row or for all, for whole rows, for a column of them, or for nothing but
whether there is one. Each kind reads what its statement delivers in its own way. Here it is shown
that all of them read the same: what the others return can be told from the records that a query for
all rows returns, and where that fails before the first row, they fail alike.

The column that a query names is looked for in each row that is read. So a column that no statement
returns is found missing only if there is a row.

## Scope

The statement of the queries is not out of date; one that is announces other columns than its rows
have. Databases hold well-formed tables, as those of the engine do. If a query for all rows fails
behind the first row, nothing is said: a query for the first row does not get there.

## Main definitions

* `Record.first?`, `Record.leftmost?` — the first value, and that of the leftmost column of a name
* `QueryShape.Tells` — what a query returns whose statement returns certain records

## Main results

* `Registry.read_kinds_agree` — all kinds of reading agree on one statement
* `Registry.unknown_column` — a column that is not there is found missing if there is a row
* `Registry.unknown_column_is_no_value` — and is taken for no value if there is none
-/

namespace NamedSql

/-! ### What is read of a statement -/

namespace Record

/-- The value of the first column, if there is a column. -/
def first? (r : Record) : Option Value := r.values.head?

/-- The value of the leftmost column of a name, in upper or lower case. -/
def leftmost? (r : Record) (column : String) : Option Value :=
  (r.entries.find? fun e => Sql.Token.sameName column e.1).map Prod.snd

end Record

namespace QueryShape

/-- Whether a query of the shape reads rows, and so is run for what it returns. -/
def reads : QueryShape → Bool
  | .get _ | .all _ | .one | .list | .exists => true
  | _ => false

/-- What a query of the shape makes of what its statement has delivered. A query that does not read
rows makes nothing of it. -/
def read (e : Sql.Execution) : QueryShape → Except Sql.Failure QueryOutput
  | .get none => .row <$> e.first e.record
  | .get (some c) => .value <$> e.first (e.pluck (some c))
  | .all none => .rows <$> e.every e.record
  | .all (some c) => .values <$> e.every (e.pluck (some c))
  | .one => .value <$> e.first (e.pluck none)
  | .list => .values <$> e.every (e.pluck none)
  | .exists => .exists <$> e.hasRow
  | _ => .error .returnedRow

/-- What a query for a column returns if there is no row. -/
def noRow : QueryShape → QueryOutput
  | .all _ => .values []
  | _ => .value none

/-- What a query of the shape returns whose statement has certain columns and returns certain
records. Nothing is said of a query that does not read rows, or that names none of the columns. -/
def Tells (columns : List String) (rs : List Record) :
    QueryShape → Except Error QueryOutput → Prop
  | .get none, x => x = .ok (.row rs.head?)
  | .all none, x => x = .ok (.rows rs)
  | .one, x => x = .ok (.value (rs.head?.bind Record.first?))
  | .list, x => ∃ vs, x = .ok (.values vs) ∧ vs.map some = rs.map Record.first?
  | .exists, x => x = .ok (.exists !rs.isEmpty)
  | .get (some c), x => columns.any (Sql.Token.sameName c) = true →
    x = .ok (.value (rs.head?.bind (·.leftmost? c)))
  | .all (some c), x => columns.any (Sql.Token.sameName c) = true →
    ∃ vs, x = .ok (.values vs) ∧ vs.map some = rs.map (·.leftmost? c)
  | _, _ => True

end QueryShape

namespace Sql.Execution

variable {α : Type} {e : Execution} {read : List Value → Except Failure α} {g : List Value → α}

/-- The rows as records under the announced columns, all of them in order. -/
def records (e : Execution) : List Record := e.output.rows.map fun row => ⟨e.announced.zip row⟩

/-! #### Rows that can be read -/

theorem mapM_of_forall_ok {rows : List (List Value)} (h : ∀ row ∈ rows, read row = .ok (g row)) :
    rows.mapM read = .ok (rows.map g) := by
  induction rows with
  | nil => rfl
  | cons row rest ih =>
    obtain ⟨hrow, hrest⟩ := List.forall_mem_cons.mp h
    rw [List.mapM_cons, hrow, ih hrest]
    rfl

section

variable (hf : e.output.fault = none) (h : ∀ row ∈ e.output.rows, read row = .ok (g row))
include hf h

theorem first_of_forall_ok : e.first read = .ok (e.output.rows.head?.map g) := by
  rw [first]
  split
  · rename_i row rest hrows
    rw [hrows] at h ⊢
    rw [h row List.mem_cons_self]
    rfl
  · rename_i hrows
    rw [hrows, ending, hf]
    rfl

theorem every_of_forall_ok : e.every read = .ok (e.output.rows.map g) := by
  rw [every, mapM_of_forall_ok h, ending, hf]
  rfl

end

theorem hasRow_of_fault_eq_none (hf : e.output.fault = none) :
    e.hasRow = .ok !e.output.rows.isEmpty := by
  rw [hasRow, first_of_forall_ok (g := fun _ => ()) hf fun _ _ => rfl]
  cases e.output.rows <;> rfl

/-- Where every row has been read, no fault has ended them. -/
theorem fault_of_every {as : List α} (h : e.every read = .ok as) : e.output.fault = none := by
  obtain ⟨bs, -, h⟩ := exists_of_bind_eq_ok h
  obtain ⟨u, hu, -⟩ := exists_of_bind_eq_ok h
  rw [ending] at hu
  split at hu
  · cases hu
  · assumption

/-! #### Rows and columns -/

/-- The leftmost entry of a name is the value at the leftmost place of the name. -/
theorem find?_zip (p : String → Bool) {columns : List String} {row : List Value}
    (h : row.length = columns.length) :
    ((columns.zip row).find? fun e => p e.1).map Prod.snd =
      (columns.findIdx? p).bind (row[·]?) := by
  induction columns generalizing row with
  | nil => rfl
  | cons c rest ih =>
    obtain _ | ⟨v, row⟩ := row
    · cases h
    · rw [List.zip_cons_cons, List.find?_cons, List.findIdx?_cons]
      cases p c with
      | true => rfl
      | false =>
        dsimp only
        rw [ih (Nat.succ.inj h), if_neg Bool.false_ne_true, Option.bind_map]
        rfl

variable {row : List Value} (h : e.IsRegular) (hm : row ∈ e.output.rows)
include h hm

theorem IsRegular.record : e.record row = .ok ⟨e.announced.zip row⟩ := by
  rw [Execution.record, if_pos (by rw [h.announced, h.width row hm])]

theorem IsRegular.values_zip : (e.announced.zip row).map Prod.snd = row :=
  List.map_snd_zip (by rw [h.announced, h.width row hm])

theorem IsRegular.columns_zip : (e.announced.zip row).map Prod.fst = e.announced :=
  List.map_fst_zip (by rw [h.announced, h.width row hm])

/-- The first value of a row is that of its record. -/
theorem IsRegular.pluck_first :
    ∃ v, (⟨e.announced.zip row⟩ : Record).first? = some v ∧ e.pluck none row = .ok v := by
  obtain ⟨v, rest, rfl⟩ := List.exists_cons_of_ne_nil (h.ne_nil row hm)
  refine ⟨v, ?_, rfl⟩
  rw [Record.first?, Record.values, h.values_zip hm]
  rfl

/-- The value of a column of a row is that of the leftmost column of its record. -/
theorem IsRegular.pluck_column {c : String}
    (hc : e.announced.any (Token.sameName c) = true) :
    ∃ v, (⟨e.announced.zip row⟩ : Record).leftmost? c = some v ∧ e.pluck (some c) row = .ok v := by
  have hs : (e.columns.findIdx? (Token.sameName c)).isSome = true := by
    rw [List.findIdx?_isSome, ← h.announced, hc]
  obtain ⟨i, hi⟩ := Option.isSome_iff_exists.mp hs
  have hlt : i < row.length := by
    rw [h.width row hm]
    exact (List.findIdx?_eq_some_iff_getElem.mp hi).choose
  refine ⟨row[i], ?_, ?_⟩
  · rw [Record.leftmost?, find?_zip _ (by rw [h.announced, h.width row hm]), h.announced, hi,
      Option.bind_some, List.getElem?_eq_getElem hlt]
  · simp only [pluck, hi, List.getElem?_eq_getElem hlt]

omit hm

/-! #### Kinds of reading -/

theorem IsRegular.every_record (hf : e.output.fault = none) :
    e.every e.record = .ok e.records :=
  every_of_forall_ok hf fun _ hm => h.record hm

omit h in
/-- What is read of every row is read of every record, and what is read of the first row of the
first record. -/
theorem plucked_of_forall_ok (column : Option String) (of : Record → Option Value)
    (hf : e.output.fault = none) (hp : ∀ row ∈ e.output.rows, ∃ v,
      of ⟨e.announced.zip row⟩ = some v ∧ e.pluck column row = .ok v) :
    e.first (e.pluck column) = .ok (e.records.head?.bind of) ∧
      ∃ vs, e.every (e.pluck column) = .ok vs ∧ vs.map some = e.records.map of := by
  have hg : ∀ row ∈ e.output.rows, e.pluck column row =
      .ok ((of ⟨e.announced.zip row⟩).getD .null) ∧
      some ((of ⟨e.announced.zip row⟩).getD .null) = of ⟨e.announced.zip row⟩ := by
    intro row hm
    obtain ⟨v, hv, hr⟩ := hp row hm
    rw [hv]
    exact ⟨hr, rfl⟩
  refine ⟨?_, _, every_of_forall_ok hf fun row hm => (hg row hm).1, ?_⟩
  · rw [first_of_forall_ok hf fun row hm => (hg row hm).1, records]
    cases hrows : e.output.rows with
    | nil => rfl
    | cons row rest =>
      exact congrArg Except.ok (hg row (hrows ▸ List.mem_cons_self)).2
  · rw [records, List.map_map, List.map_map]
    exact List.map_congr_left fun row hm => (hg row hm).2

/-- **Every kind of reading tells the same** of what has been delivered without a fault. -/
theorem IsRegular.tells (hf : e.output.fault = none) {shape : QueryShape}
    (hs : shape.reads = true) (error : Failure → Error) :
    shape.Tells e.announced e.records ((shape.read e).mapError error) := by
  have hfirst := plucked_of_forall_ok none Record.first? hf fun row hm => h.pluck_first hm
  have hcolumn := fun c (hc : e.announced.any (Token.sameName c) = true) =>
    plucked_of_forall_ok (some c) (·.leftmost? c) hf fun row hm =>
      h.pluck_column hm hc
  cases shape with
  | get column =>
    cases column with
    | none =>
      rw [QueryShape.Tells, QueryShape.read, first_of_forall_ok hf fun row hm => h.record hm,
        records, List.head?_map]
      rfl
    | some c =>
      intro hc
      rw [QueryShape.read, (hcolumn c hc).1]
      rfl
  | all column =>
    cases column with
    | none =>
      rw [QueryShape.Tells, QueryShape.read, h.every_record hf]
      rfl
    | some c =>
      intro hc
      obtain ⟨vs, hv, hmap⟩ := (hcolumn c hc).2
      rw [QueryShape.read, hv]
      exact ⟨vs, rfl, hmap⟩
  | one =>
    rw [QueryShape.Tells, QueryShape.read, hfirst.1]
    rfl
  | list =>
    obtain ⟨vs, hv, hmap⟩ := hfirst.2
    rw [QueryShape.Tells, QueryShape.read, hv]
    exact ⟨vs, rfl, hmap⟩
  | «exists» =>
    rw [QueryShape.Tells, QueryShape.read, hasRow_of_fault_eq_none hf, records, List.isEmpty_map]
    rfl
  | _ => cases hs

omit h

/-- A fault before the first row is what every kind of reading fails with. -/
theorem read_of_fault {f : Fault} (hrows : e.output.rows = []) (hf : e.output.fault = some f)
    {shape : QueryShape} (hs : shape.reads = true) : shape.read e = .error (.failed f) := by
  have hend : e.ending = .error (.failed f) := by
    rw [ending, hf]
  have hfirst : ∀ {α : Type} (read : List Value → Except Failure α),
      e.first read = .error (.failed f) := by
    intro α read
    rw [first, hrows]
    dsimp only
    rw [hend]
    rfl
  have hevery : ∀ {α : Type} (read : List Value → Except Failure α),
      e.every read = .error (.failed f) := by
    intro α read
    rw [every, hrows, hend]
    rfl
  cases shape with
  | get column => cases column <;> rw [QueryShape.read, hfirst] <;> rfl
  | all column => cases column <;> rw [QueryShape.read, hevery] <;> rfl
  | one =>
    rw [QueryShape.read, hfirst]
    rfl
  | list =>
    rw [QueryShape.read, hevery]
    rfl
  | «exists» =>
    rw [QueryShape.read, hasRow, hfirst]
    rfl
  | _ => cases hs

/-- If reading all rows fails before the first one, every kind of reading fails with the same. -/
theorem bind_read_of_failure {r : Except Failure Execution} {failure : Failure}
    (hempty : ∀ e, r = .ok e → e.output.rows = [])
    (h : r.bind (QueryShape.all none).read = .error failure) {shape : QueryShape}
    (hs : shape.reads = true) : r.bind shape.read = .error failure := by
  cases r with
  | error f =>
    cases h
    rfl
  | ok e =>
    have hrows := hempty e rfl
    rw [Except.bind] at h ⊢
    cases hf : e.output.fault with
    | none =>
      rw [QueryShape.read, every, hrows, ending, hf] at h
      cases h
    | some f =>
      rw [read_of_fault hrows hf rfl] at h
      cases h
      exact read_of_fault hrows hf hs

/-- A column that is not among those of the rows is found missing in the first row. -/
theorem read_of_unknown {c : String} (hf : e.output.fault = none)
    (hc : e.columns.any (Token.sameName c) = false) {shape : QueryShape}
    (hs : shape.column = some c) :
    shape.read e =
      if e.output.rows.isEmpty then .ok shape.noRow else .error (.columnName c) := by
  have hp : ∀ row, e.pluck (some c) row = .error (.columnName c) := by
    intro row
    have hn : e.columns.findIdx? (Token.sameName c) = none := by
      rw [← Option.isNone_iff_eq_none, ← Option.not_isSome, List.findIdx?_isSome, hc]
      rfl
    simp only [pluck, hn]
  cases shape with
  | get column =>
    cases hs
    rw [QueryShape.read, first]
    cases e.output.rows with
    | nil =>
      rw [ending, hf]
      rfl
    | cons row rest =>
      dsimp only
      rw [hp]
      rfl
  | all column =>
    cases hs
    rw [QueryShape.read, every]
    cases e.output.rows with
    | nil =>
      rw [ending, hf]
      rfl
    | cons row rest =>
      rw [List.mapM_cons, hp]
      rfl
  | _ => cases hs

end Sql.Execution

namespace Registry

variable {l : Logged Registry} {q : Query} {params : Params}

/-! ### Calls -/

/-- A call of a query that reads rows reads them as the shape of the query says. -/
theorem fst_perform_of_reads (h : q.shape.reads = true) :
    ((perform q params).run.run l).1 =
      ((l.state.session.call q.sql params).2.bind q.shape.read).mapError (callError q) := by
  have hmap : ∀ {α β : Type} (f : α → β) (read : Sql.Execution → Except Sql.Failure α),
      ((f <$> invoke q params read).run.run l).1 =
        ((l.state.session.call q.sql params).2.bind fun e => f <$> read e).mapError
          (callError q) := by
    intro α β f read
    rw [Op.run_map, run_invoke]
    dsimp only
    cases (l.state.session.call q.sql params).2 with
    | error g => rfl
    | ok e =>
      dsimp only [Except.bind]
      cases read e <;> rfl
  obtain ⟨name, sql, line, shape⟩ := q
  cases shape with
  | get column => cases column <;> exact hmap _ _
  | all column => cases column <;> exact hmap _ _
  | one => exact hmap _ _
  | list => exact hmap _ _
  | «exists» => exact hmap _ _
  | _ => cases h

/-- What a query that reads rows returns is what its shape makes of its statement. -/
theorem fst_call_of_reads {name : String} (hq : l.state.query? name = some q)
    (h : q.shape.reads = true) :
    ((call name params).run.run l).1 =
      ((l.state.session.call q.sql params).2.bind q.shape.read).mapError (callError q) := by
  rw [run_call_of_query? hq, fst_perform_of_reads h]

/-- A query is loaded under a name, and reads rows of the same statement as another one. -/
structure ReadsLike (r : Registry) (q : Query) (name : String) (q' : Query) : Prop where
  loaded : r.query? name = some q'
  sql : Text.trimmed q'.sql = Text.trimmed q.sql
  reads : q'.shape.reads = true

theorem ReadsLike.call {name : String} {q' : Query} (h : l.state.ReadsLike q name q') :
    l.state.session.call q'.sql params = l.state.session.call q.sql params := by
  rw [Sql.Session.call, Sql.Session.call, h.sql]

/-- What is returned is what the other query makes of the same statement. -/
theorem ReadsLike.fst_call {name : String} {q' : Query} (h : l.state.ReadsLike q name q') :
    ((Registry.call name params).run.run l).1 =
      ((l.state.session.call q.sql params).2.bind q'.shape.read).mapError (callError q') := by
  rw [fst_call_of_reads h.loaded h.reads, h.call]

/-- The statement is executed once, whatever is read. -/
theorem ReadsLike.state_call {name : String} {q' : Query} (h : l.state.ReadsLike q name q') :
    ((Registry.call name params).run.run l).2.state =
      { l.state with session := (l.state.session.call q.sql params).1 } := by
  rw [run_call_of_query? h.loaded, state_run_perform, Logged.invoked]
  dsimp only
  rw [Engine.call_session, h.call]

/-- **All kinds of reading agree on one statement**, in every registry on a database whose tables
have columns, if the statement is not out of date. If a query for all rows returns records, these
are under the columns of the statement, and every other query that reads the same statement returns
what these records tell. If the query fails before the first row, every other one fails on account
of the same. And they all leave the same behind. -/
theorem read_kinds_agree (hr : Grounded l.state) {name : String}
    (hq : l.state.query? name = some q) (hs : q.shape = .all none)
    (hc : l.state.session.IsCurrent (Text.trimmed q.sql)) (params : Params) :
    let all := (call name params).run.run l
    (∀ rs, all.1 = .ok (.rows rs) →
      ∃ columns, l.state.session.Announces (Text.trimmed q.sql) columns ∧
        (∀ r ∈ rs, r.columns = columns ∧ r.entries ≠ []) ∧
        ∀ name' q', l.state.ReadsLike q name' q' →
          q'.shape.Tells columns rs ((call name' params).run.run l).1) ∧
    (∀ error, all.1 = .error error →
      (∀ e, (l.state.session.call q.sql params).2 = .ok e → e.output.rows = []) →
      ∃ f, error = callError q f ∧ ∀ name' q', l.state.ReadsLike q name' q' →
        ((call name' params).run.run l).1 = .error (callError q' f)) ∧
    ∀ name' q', l.state.ReadsLike q name' q' →
      ((call name' params).run.run l).2.state = all.2.state := by
  have hself : l.state.ReadsLike q name q := ⟨hq, rfl, by rw [hs]; rfl⟩
  have hall : ((call name params).run.run l).1 = _ := hself.fst_call
  rw [hs] at hall
  dsimp only
  refine ⟨fun rs hrs => ?_, fun error herror hempty => ?_, fun name' q' h => ?_⟩
  · rw [hall] at hrs
    obtain ⟨e, he, hrs⟩ := exists_of_bind_eq_ok (eq_ok_of_mapError hrs)
    have hreg : e.IsRegular := hr.upholds.regular_of_call hc he
    obtain ⟨as, has, hrs⟩ := exists_of_map_eq_ok hrs
    cases hrs
    have hf := Sql.Execution.fault_of_every has
    rw [hreg.every_record hf] at has
    cases has
    refine ⟨e.announced, Sql.Session.announces_of_call he, fun r hm => ?_, fun name' q' h => ?_⟩
    · obtain ⟨row, hrow, rfl⟩ := List.mem_map.mp hm
      refine ⟨hreg.columns_zip hrow, fun hn => hreg.ne_nil row hrow ?_⟩
      rw [← hreg.values_zip hrow]
      exact congrArg (List.map Prod.snd) hn
    · rw [h.fst_call, he]
      exact hreg.tells hf h.reads (callError q')
  · rw [hall] at herror
    cases hfailure : (l.state.session.call q.sql params).2.bind (QueryShape.all none).read with
    | ok returned =>
      rw [hfailure] at herror
      cases herror
    | error f =>
      rw [hfailure] at herror
      cases herror
      refine ⟨f, rfl, fun name' q' h => ?_⟩
      rw [h.fst_call, Sql.Execution.bind_read_of_failure hempty hfailure h.reads]
      rfl
  · rw [h.state_call, hself.state_call]

/-! #### One statement read in every way -/

/-- A table of pairs, with two rows in it. -/
def pairs : String := "create table t (a, b); insert into t values (1, 2), (3, 4)"

/-- Queries that read the pairs, with the second column under the name of the first once more. -/
def pairReaders : String :=
  "-- :name rows :all\nselect a, b, b as A from t\n
-- :name first :one\nselect a, b, b as A from t\n
-- :name second :all(B)\nselect a, b, b as A from t\n"

/-- The registry of these queries. -/
def paired : Logged Registry := memoryWith pairs pairReaders

/-- One of these queries. -/
def pairReader (name : String) (line : Nat) (shape : QueryShape) : Query :=
  ⟨name, "select a, b, b as A from t\n", line, shape⟩

/-- The records of the pairs. -/
def pairRecords : List Record :=
  [⟨[("a", .integer 1), ("b", .integer 2), ("A", .integer 2)]⟩,
    ⟨[("a", .integer 3), ("b", .integer 4), ("A", .integer 4)]⟩]

/-- The query for all pairs is not out of date, and returns their records. -/
theorem run_paired :
    paired.state.query? "rows" = some (pairReader "rows" 1 (.all none)) ∧
      paired.state.query? "first" = some (pairReader "first" 4 .one) ∧
      paired.state.query? "second" = some (pairReader "second" 7 (.all (some "B"))) ∧
      ((paired.state.session.prepared.lookup
        (Text.trimmed (pairReader "rows" 1 (.all none)).sql)).all fun p =>
          p.isCurrent paired.state.session.connection.age) = true ∧
      ((call "rows" .none).run.run paired).1 = .ok (.rows pairRecords) := by
  decide +kernel

/-- What the other queries return is told by the records of the pairs. -/
theorem read_kinds_agree_paired :
    ((call "rows" .none).run.run paired).1 = .ok (.rows pairRecords) ∧
      ((call "first" .none).run.run paired).1 = .ok (.value (some (.integer 1))) ∧
      ((call "second" .none).run.run paired).1 = .ok (.values [.integer 2, .integer 4]) := by
  obtain ⟨hq, hfirst, hsecond, hcurrent, hrows⟩ := run_paired
  have hr : Grounded paired.state := grounded_memoryWith pairReaders (isOk_of_query? hq)
  generalize paired = l at hr hq hfirst hsecond hcurrent hrows ⊢
  have hc : l.state.session.IsCurrent (Text.trimmed (pairReader "rows" 1 (.all none)).sql) := by
    intro p hp
    rwa [hp] at hcurrent
  obtain ⟨columns, -, hrecords, htells⟩ :=
    (read_kinds_agree hr hq rfl hc .none).1 pairRecords hrows
  obtain ⟨hcolumns, -⟩ := hrecords _ List.mem_cons_self
  refine ⟨hrows, htells "first" _ ⟨hfirst, rfl, rfl⟩, ?_⟩
  obtain ⟨vs, hv, hmap⟩ := htells "second" _ ⟨hsecond, rfl, rfl⟩ (by rw [← hcolumns]; decide)
  have hvs : vs.map some = [.integer 2, .integer 4].map some := hmap
  rw [hv, List.map_injective_iff.mpr (fun _ _ => Option.some.inj) hvs]

/-! ### Columns that are not there -/

/-- **A column that is not there is found missing only if there is a row.** A query for a column
that its statement does not have fails if the statement returns a row, and otherwise returns what a
query for a column that is there returns without a row. -/
theorem unknown_column {name c : String} (hq : l.state.query? name = some q)
    (hs : q.shape.column = some c) {e : Sql.Execution}
    (he : (l.state.session.call q.sql params).2 = .ok e) (hf : e.output.fault = none)
    (hc : e.columns.any (Sql.Token.sameName c) = false) :
    ((call name params).run.run l).1 =
      if e.output.rows.isEmpty then .ok q.shape.noRow
      else .error (callError q (.columnName c)) := by
  have hreads : q.shape.reads = true := by
    cases hshape : q.shape with
    | get column => rfl
    | all column => rfl
    | _ =>
      rw [hshape] at hs
      cases hs
  rw [fst_call_of_reads hq hreads, he, Except.bind, Sql.Execution.read_of_unknown hf hc hs]
  split <;> rfl

/-- A query for titles, which the table does not have, and one that puts a book on the shelf. -/
def titleQueries : String :=
  "-- :name titles :all(title)\nselect a, b from t\n
-- :name add :run\ninsert into t values (:a, :b)\n"

/-- The registry of these queries, before a book is on the shelf. -/
def emptyShelf : Logged Registry := memoryWith "create table t (a, b)" titleQueries

/-- The query for titles. -/
def titles : Query := ⟨"titles", "select a, b from t\n", 1, .all (some "title")⟩

/-- The registry once a book is on the shelf, by a call that has added it. -/
def shelf : Logged Registry :=
  ((call "add" (.positional [.text "x", .text "y"])).run.run emptyShelf).2

/-- The statement has two columns, neither of which is a title, and runs without a fault, whether or
not a book is on the shelf. -/
theorem run_shelf :
    emptyShelf.state.query? "titles" = some titles ∧
      ((emptyShelf.state.session.call titles.sql .none).2.toOption.any fun e =>
        e.output.fault.isNone && e.output.rows.isEmpty && e.columns == ["a", "b"]) = true ∧
      ((call "titles" .none).run.run emptyShelf).1 = .ok (.values []) ∧
      shelf.state.query? "titles" = some titles ∧
      ((shelf.state.session.call titles.sql .none).2.toOption.any fun e =>
        e.output.fault.isNone && !e.output.rows.isEmpty && e.columns == ["a", "b"]) = true ∧
      ((call "titles" .none).run.run shelf).1 =
        .error (callError titles (.columnName "title")) := by
  decide +kernel

/-- As soon as a book is on the shelf, the title is found missing. -/
theorem unknown_column_shelf :
    ∃ e, (shelf.state.session.call titles.sql .none).2 = .ok e ∧ e.output.fault = none ∧
      e.columns.any (Sql.Token.sameName "title") = false ∧
      ((call "titles" .none).run.run shelf).1 =
        .error (callError titles (.columnName "title")) := by
  obtain ⟨-, -, -, hq, hrun, -⟩ := run_shelf
  generalize shelf = l at hq hrun ⊢
  cases he : (l.state.session.call titles.sql .none).2 with
  | error f =>
    rw [he] at hrun
    cases hrun
  | ok e =>
    rw [he] at hrun
    change (e.output.fault.isNone && !e.output.rows.isEmpty && e.columns == ["a", "b"]) = true
      at hrun
    simp only [Bool.and_eq_true, Option.isNone_iff_eq_none, beq_iff_eq, Bool.not_eq_true'] at hrun
    obtain ⟨⟨hf, hrows⟩, hcolumns⟩ := hrun
    have hc : e.columns.any (Sql.Token.sameName "title") = false := by
      rw [hcolumns]
      decide
    have hcall := unknown_column hq rfl he hf hc
    rw [hrows] at hcall
    exact ⟨e, rfl, hf, hc, hcall⟩

/-- **A column that is not there may be taken for no value.** As long as no book is on the shelf,
the query for titles returns none of them, although its statement has no such column, as is found
out once a book is there. -/
theorem unknown_column_is_no_value :
    Reachable emptyShelf.state ∧ emptyShelf.state.query? "titles" = some titles ∧
      ((emptyShelf.state.session.call titles.sql .none).2.toOption.any fun e =>
        e.output.fault.isNone && e.output.rows.isEmpty && e.columns == ["a", "b"]) = true ∧
      ((call "titles" .none).run.run emptyShelf).1 = .ok (.values []) ∧
      ((call "titles" .none).run.run shelf).1 =
        .error (callError titles (.columnName "title")) := by
  obtain ⟨hq, hrun, hnone, -, -, hmissing⟩ := run_shelf
  have hr : Reachable emptyShelf.state := reachable_memoryWith titleQueries (isOk_of_query? hq)
  exact ⟨hr, hq, hrun, hnone, hmissing⟩

end Registry

end NamedSql
