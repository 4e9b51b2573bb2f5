import NamedSql.Proofs.Registry.Batches
import NamedSql.Proofs.Registry.ChangeCounts
import NamedSql.Proofs.Sql.Inserting

/-!
# Returned ids

The id that the insertion of a record returns. If the statement inserts one row, the id is the rowid
of a row that is in the table and has been made from the record; a batch returns the id of its last
record. The only exception are statements that leave a row out where it conflicts. Nothing tells
that a row has been left out, and then the id is the one that the connection has told last,
whichever row of whichever table that was.

## Scope

The statement is an insertion of one row and may say anything about conflicts. Each column that it
gives a parameter or nothing is accounted for; of other expressions nothing is said. A batch may do
anything with the registry before it comes to the next record.

## Main definitions

* `Query.InsertsRow` — the statement of a query inserts one row
* `Registry.Inserts` — what the insertion of a record comes to that returns an id
* `Registry.EndsIn` — some records are inserted, and an id is returned for the last one of them

## Main results

* `Registry.endsIn_insertAll`, `Registry.endsIn_batch` — a batch returns the id of its last record
* `Registry.inserted_ids` — the id that the insertion of a record returns
* `Registry.ignored_ids` — a record that is left out gets the id of another one
-/

namespace NamedSql

/-- The records of a batch. -/
def Batch.records : Batch → List Record
  | .nil => []
  | .cons _ record rest => record :: rest.records

/-- The statement of a query inserts one row. -/
structure Query.InsertsRow (q : Query) (m : Sql.Statement.Parsed) (s : Sql.Insert)
    (row : List Sql.Expr) : Prop where
  meaning : Sql.meaning? (Text.trimmed q.sql) = some m
  statement : m.statement = .insert s
  rows : s.rows = [row]

/-- Whether the statement of a query inserts one row. -/
def Query.insertsRow (q : Query) : Bool :=
  (Sql.meaning? (Text.trimmed q.sql)).any fun m =>
    match m.statement with
    | .insert s => s.rows.length == 1
    | _ => false

theorem Query.insertsRow_iff {q : Query} :
    q.insertsRow = true ↔ ∃ m s row, q.InsertsRow m s row := by
  rw [insertsRow, Option.any_eq_true]
  constructor
  · rintro ⟨m, hm, h⟩
    split at h
    · rename_i s hs
      obtain ⟨row, hrow⟩ := List.length_eq_one_iff.mp (beq_iff_eq.mp h)
      exact ⟨m, s, row, hm, hs, hrow⟩
    · cases h
  · rintro ⟨m, s, row, h⟩
    refine ⟨m, h.meaning, ?_⟩
    rw [h.statement]
    exact beq_iff_eq.mpr (congrArg List.length h.rows)

instance Query.decidableInsertsRow (q : Query) : Decidable (∃ m s row, q.InsertsRow m s row) :=
  decidable_of_iff _ q.insertsRow_iff

/-- The id that a step has returned, if it has returned one. -/
def Answer.id? : Answer → Option Int64
  | .insertedOne (.ok id) => some id
  | .insertedMany (.ok id) _ => id
  | _ => none

namespace Registry

variable {l : Logged Registry} {r r' r'' : Registry} {q : Query} {name : String} {id : Int64}
  {record : Record} {records : List Record} {m : Sql.Statement.Parsed} {s : Sql.Insert}
  {row : List Sql.Expr}

theorem Effects.upholds (h : Effects r r')
    (hu : r.session.Upholds Sql.Connection.WellFormed Sql.Resolved.Wide) :
    r'.session.Upholds Sql.Connection.WellFormed Sql.Resolved.Wide := by
  induction h with
  | refl => exact hu
  | tail _ last ih =>
    cases last with
    | executed i => exact ih.call Sql.wellFormedLaw i.query.sql i.params
    | controlled command => exact ih.control Sql.wellFormedLaw command
    | counted depth rollbackOnly => exact ih

/-- A query that is found is the one that is chosen for an accessor, if one is. -/
theorem chosen_or_error (a : Accessor) (hq : r.query? name = some q) :
    r.chosen a name = .ok q ∨ ∃ e, r.chosen a name = .error e := by
  rw [chosen, found, hq]
  dsimp only
  split
  · exact Or.inl rfl
  · exact Or.inr ⟨_, rfl⟩

/-! ### One record -/

/-- What an insertion of one row comes to that returns an id, for the values of a record. -/
def Inserts (m : Sql.Statement.Parsed) (s : Sql.Insert) (row : List Sql.Expr) (record : Record)
    (id : Int64) (before after : Registry) : Prop :=
  s.Results row (record.parameter m.parameters) before.session.connection.database
    before.session.connection.lastRowid id after.session.connection.database

theorem inserts_of_written {w : RunResult}
    (hu : r.session.Upholds Sql.Connection.WellFormed Sql.Resolved.Wide) (hq : q.InsertsRow m s row)
    (hw : written q (.named record) r.session = .ok w) :
    Inserts m s row record w.lastRowid r (r.went [⟨q, .named record⟩] false) := by
  obtain ⟨e, he, hf, -, hid⟩ := exists_of_written (l := ⟨r, "", []⟩) hw
  rw [hid]
  exact hu.results_of_call hq.meaning hq.statement hq.rows he hf

/-! ### The last one of some records -/

/-- Some records are inserted, with any effects in between, and an id is returned for the last one
of them, which is inserted into `before`. -/
structure EndsIn (q : Query) (records : List Record) (id : Int64) (start : Registry)
    (record : Record) (before after : Registry) : Prop where
  last : records.getLast? = some record
  earlier : Effects start before
  written : ∃ w, written q (.named record) before.session = .ok w ∧ w.lastRowid = id
  after : after = before.went [⟨q, .named record⟩] false

/-- The last one of some records is the last one of those behind the first, unless that is the only
one. -/
theorem EndsIn.cons {w : RunResult} (he : Effects r r')
    (hw : Registry.written q (.named record) r'.session = .ok w)
    (h : (records = [] ∧ some w.lastRowid = some id ∧ r'' = r'.went [⟨q, .named record⟩] false) ∨
      ∃ last before, EndsIn q records id (r'.went [⟨q, .named record⟩] false) last before r'') :
    ∃ last before, EndsIn q (record :: records) id r last before r'' := by
  rcases h with ⟨rfl, hid, hr⟩ | ⟨last, before, h⟩
  · exact ⟨record, r', rfl, he, ⟨w, hw, Option.some.inj hid⟩, hr⟩
  · refine ⟨last, before, ?_, he.trans (.trans (effects_went r' _) h.earlier), h.written, h.after⟩
    rw [List.getLast?_cons, h.last]
    rfl

/-- Records that are inserted in turn end in the last one of them. -/
theorem endsIn_insertAll {last : Option Int64} {count n : Nat}
    (h : ((insertAll q last count records).run.run l).1 = .ok (some id, n)) :
    let after := ((insertAll q last count records).run.run l).2.state
    (records = [] ∧ last = some id ∧ after = l.state) ∨
      ∃ record before, EndsIn q records id l.state record before after := by
  induction records generalizing l last count with
  | nil =>
    cases h
    exact Or.inl ⟨rfl, rfl, rfl⟩
  | cons record rest ih =>
    rw [run_insertAll_cons] at h ⊢
    cases hw : written q (.named record) l.state.session with
    | error e =>
      rw [hw] at h
      cases h
    | ok w =>
      rw [hw] at h
      refine Or.inr (EndsIn.cons .refl hw ?_)
      dsimp only
      rw [← state_invoked]
      exact ih h

/-- The records of a batch end in the last one of them, whatever is done before each. -/
theorem endsIn_batch : ∀ (b : Batch) {l : Logged Registry} {last : Option Int64} {count n : Nat},
    ((b.run q last count).run l).1.result = .ok (some id, n) →
      let after := ((b.run q last count).run l).2.state
      (b.records = [] ∧ last = some id ∧ after = l.state) ∨
        ∃ record before, EndsIn q b.records id l.state record before after
  | .nil, l, last, count, n, h => by
    rw [Batch.run] at h
    cases h
    exact Or.inl ⟨rfl, rfl, rfl⟩
  | .cons before record rest, l, last, count, n, h => by
    rw [Batch.run_cons] at h ⊢
    dsimp only at h ⊢
    cases hw : written q (.named record) (before.runAll.run l).2.state.session with
    | error e =>
      rw [hw] at h
      cases h
    | ok w =>
      rw [hw] at h
      dsimp only at h ⊢
      refine Or.inr (EndsIn.cons (before.worksAll l) hw ?_)
      rw [← state_invoked]
      exact endsIn_batch rest h

/-- The unit of work of a batch that returns an id has inserted the last record, and keeps the
database as that insertion has left it. -/
theorem exists_inserts_of_unit {τ : Type} {skipped : τ} {n : Nat}
    {body : Action Registry (Outcome τ (Option Int64 × Nat))}
    (hu : l.state.session.Upholds Sql.Connection.WellFormed Sql.Resolved.Wide)
    (hq : q.InsertsRow m s row)
    (hb : ∀ k : Logged Registry, (body.run k).1.result = .ok (some id, n) →
      ∃ record before, EndsIn q records id k.state record before (body.run k).2.state)
    (h : ((unit skipped body).run l).1.result = .ok (some id, n)) :
    ∃ record before, records.getLast? = some record ∧ Effects l.state before ∧
      Inserts m s row record id before ((unit skipped body).run l).2.state := by
  obtain ⟨k, hk, hresult, hd⟩ := exists_run_of_unit h
  simp only [Transactional.database_session] at hd
  obtain ⟨record, before, he⟩ := hb k hresult
  obtain ⟨w, hw, rfl⟩ := he.written
  have hbefore := hk.trans he.earlier
  have hi := inserts_of_written (Effects.upholds hbefore hu) hq hw
  rw [← he.after] at hi
  refine ⟨record, before, he.last, hbefore, ?_⟩
  rw [Inserts, hd]
  exact hi

theorem eq_ok_of_id? {x : Except Error (Option Int64)} {trace : List Answer}
    (h : (Answer.insertedMany x trace).id? = some id) : x = .ok (some id) := by
  cases x with
  | error e => cases h
  | ok last => exact congrArg Except.ok h

/-! ### Calls that return an id -/

section

variable (hu : l.state.session.Upholds Sql.Connection.WellFormed Sql.Resolved.Wide)
  (hq : l.state.query? name = some q) (hs : q.InsertsRow m s row)
include hu hq hs

theorem inserts_of_insertOne (h : ((insertOne name record).run.run l).1 = .ok id) :
    Inserts m s row record id l.state ((insertOne name record).run.run l).2.state := by
  rcases chosen_or_error .insert hq with hc | ⟨e, hc⟩
  · rw [run_insertOne hc] at h ⊢
    obtain ⟨w, hw, rfl⟩ := exists_of_map_eq_ok h
    exact inserts_of_written hu hs hw
  · rw [insertOne, Op.run_bind, run_typed, hc] at h
    cases h

theorem inserts_of_insertMany (h : ((insertMany name records).run.run l).1 = .ok (some id)) :
    ∃ record before, records.getLast? = some record ∧ Effects l.state before ∧
      Inserts m s row record id before ((insertMany name records).run.run l).2.state := by
  rcases chosen_or_error .insert hq with hc | ⟨e, hc⟩
  · rw [run_insertMany hc] at h ⊢
    obtain ⟨⟨last, n⟩, hp, rfl⟩ := exists_of_map_eq_ok h
    refine exists_inserts_of_unit (l := l.noting (batchStart l name)) hu hs (fun k hk => ?_) hp
    rcases endsIn_insertAll hk with ⟨-, hnone, -⟩ | he
    · cases hnone
    · exact he
  · have hb : ((insertMany name records).run.run l).1 =
        ((tracedBatch () name fun q => Op.traced (insertAll q none 0 records)).run l).1.result :=
      rfl
    rw [hb, run_tracedBatch, hc] at h
    cases h

theorem inserts_of_batch {batch : Batch}
    (h : ((Step.insertMany name batch).run.run l).1.id? = some id) :
    ∃ record before, batch.records.getLast? = some record ∧ Effects l.state before ∧
      Inserts m s row record id before ((Step.insertMany name batch).run.run l).2.state := by
  rw [run_step_insertMany] at h ⊢
  rcases chosen_or_error .insert hq with hc | ⟨e, hc⟩
  · rw [hc] at h ⊢
    dsimp only at h ⊢
    obtain ⟨⟨last, n⟩, hp, hlast⟩ := exists_of_map_eq_ok (eq_ok_of_id? h)
    obtain rfl : some id = last := hlast
    refine exists_inserts_of_unit (l := l.noting (batchStart l name)) hu hs (fun k hk => ?_) hp
    rcases endsIn_batch batch hk with ⟨-, hnone, -⟩ | he
    · cases hnone
    · exact he
  · rw [hc] at h
    cases h

end

/-- **The id that the insertion of a record returns.** An insertion on its own that returns an id
has put in a row made from the record, which is in the table under that id; or it has left the row
out, if that is what its statement does about conflicts, and then the id is the one that was told
before. A batch that returns an id comes to the same with its last record, whatever it has done
before. -/
theorem inserted_ids (hr : Grounded l.state) (hq : l.state.query? name = some q)
    (hs : q.InsertsRow m s row) :
    (∀ record, ((insertOne name record).run.run l).1 = .ok id →
      Inserts m s row record id l.state ((insertOne name record).run.run l).2.state) ∧
    (∀ records, ((insertMany name records).run.run l).1 = .ok (some id) →
      ∃ record before, records.getLast? = some record ∧ Effects l.state before ∧
        Inserts m s row record id before ((insertMany name records).run.run l).2.state) ∧
    ∀ batch, ((Step.insertMany name batch).run.run l).1.id? = some id →
      ∃ record before, batch.records.getLast? = some record ∧ Effects l.state before ∧
        Inserts m s row record id before ((Step.insertMany name batch).run.run l).2.state := by
  have hu := hr.upholds
  exact ⟨fun record h => inserts_of_insertOne hu hq hs h,
    fun records h => inserts_of_insertMany hu hq hs h, fun batch h => inserts_of_batch hu hq hs h⟩

/-! ### A table of codes -/

/-- A query that adds a code unless it is there, and one that adds it in place of what is there. -/
def additions : String :=
  "-- :name add :insert\ninsert or ignore into t (code) values (:c)\n
-- :name put :insert\ninsert or replace into t (code) values (:c)\n"

/-- The registry of these queries, with a table in which a first code has the rowid one. -/
def coded : Logged Registry :=
  memoryWith "create table t (id integer primary key, code unique); insert into t (code) values (1)"
    additions

/-- The query that adds a code unless it is there. -/
def addCode : Query := ⟨"add", "insert or ignore into t (code) values (:c)\n", 1, .insert⟩

/-- The query that adds a code in place of what is there. -/
def putCode : Query := ⟨"put", "insert or replace into t (code) values (:c)\n", 4, .insert⟩

/-- A batch of two codes. Before the second one is asked for, another code is put in on its own. -/
def interrupted : Batch :=
  .cons .nil (code 2) (.cons (.cons false (.insertOne "put" (code 3)) .nil) (code 1) .nil)

/-- Once a second code has been added. -/
def codedAgain : Logged Registry := ((insertOne "add" (code 2)).run.run coded).2

/-- The first code is put in place of itself, under a rowid of its own. If it is added, it is left
out, and the rowid that is returned is that of the second code. -/
theorem run_coded :
    (coded.state.query? "put" = some putCode ∧ (∃ m s row, putCode.InsertsRow m s row) ∧
      ((insertOne "put" (code 1)).run.run coded).1 = .ok 2 ∧
      ((insertMany "put" [code 2, code 1]).run.run coded).1 = .ok (some 3) ∧
      ((Step.insertMany "put" interrupted).run.run coded).1.id? = some 4) ∧
    coded.state.query? "add" = some addCode ∧ (∃ m s row, addCode.InsertsRow m s row) ∧
      (let b := (insertMany "add" [code 2, code 1]).run.run coded
      b.1 = .ok (some 2) ∧
      (b.2.state.session.connection.database.find? "t").map (·.rows) =
        some [⟨1, [.integer 1, .integer 1]⟩, ⟨2, [.integer 2, .integer 2]⟩]) ∧
      ((insertOne "add" (code 1)).run.run codedAgain).1 = .ok 2 := by
  decide +kernel

theorem grounded_coded : Grounded coded.state :=
  grounded_memoryWith additions (isOk_of_query? run_coded.1.1)

/-- The first code is put in on its own, at the end of a batch, and once more at the end of one that
is interrupted. Each time the row of the returned rowid is made from it. -/
theorem inserted_ids_coded :
    ∃ m s row, putCode.InsertsRow m s row ∧
      Inserts m s row (code 1) 2 coded.state ((insertOne "put" (code 1)).run.run coded).2.state ∧
      (∃ before, Effects coded.state before ∧ Inserts m s row (code 1) 3 before
        ((insertMany "put" [code 2, code 1]).run.run coded).2.state) ∧
      ∃ before, Effects coded.state before ∧ Inserts m s row (code 1) 4 before
        ((Step.insertMany "put" interrupted).run.run coded).2.state := by
  obtain ⟨⟨hq, ⟨m, s, row, hs⟩, hone, hmany, hstep⟩, -⟩ := run_coded
  have hr := grounded_coded
  generalize coded = l at hq hone hmany hstep hr ⊢
  refine ⟨m, s, row, hs, (inserted_ids hr hq hs).1 (code 1) hone, ?_, ?_⟩
  · obtain ⟨record, before, hlast, he, hi⟩ := (inserted_ids hr hq hs).2.1 _ hmany
    cases hlast
    exact ⟨before, he, hi⟩
  · obtain ⟨record, before, hlast, he, hi⟩ := (inserted_ids hr hq hs).2.2 _ hstep
    cases hlast
    exact ⟨before, he, hi⟩

/-- **A record that is left out gets the id of another one.** The second code of the batch is there
already and is left out, and the rowid that is returned is that of the first code of the batch. So
it is if the two are inserted one by one. -/
theorem ignored_ids :
    Reachable coded.state ∧ coded.state.query? "add" = some addCode ∧
      (∃ m s row, addCode.InsertsRow m s row) ∧
      (let b := (insertMany "add" [code 2, code 1]).run.run coded
      b.1 = .ok (some 2) ∧
      (b.2.state.session.connection.database.find? "t").map (·.rows) =
        some [⟨1, [.integer 1, .integer 1]⟩, ⟨2, [.integer 2, .integer 2]⟩]) ∧
      Reachable codedAgain.state ∧
      ((insertOne "add" (code 1)).run.run codedAgain).1 = .ok 2 := by
  obtain ⟨-, hq, hs, hmany, hone⟩ := run_coded
  have hr := grounded_coded.reachable
  have hr' := hr.move (move_insertOne "add" (code 2) coded)
  rw [← codedAgain] at hr'
  exact ⟨hr, hq, hs, hmany, hr', hone⟩

end Registry

end NamedSql
