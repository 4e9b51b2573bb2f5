import NamedSql.Proofs.Record.Objects
import NamedSql.Proofs.Registry.Causes
import NamedSql.Proofs.Registry.Grounded

/-!
# Members of returned records

The records that a query returns have the columns of its statement, which may be several of one
name. Looking up a column finds the first of its name, and so do all accessors that take one value
of a row; the object of the record has the last one. So the two tell the same of a record under
every name that the statement has only once.

## Main definitions

* `Registry.Delivers` — a call of a query, in general or by an accessor, returns a record

## Main results

* `Registry.members_of_returned` — what a returned record tells when it is looked up, and what its
  object tells
* `Registry.twin_columns_differ` — a returned record whose object has another value than its column
-/

namespace NamedSql

namespace Registry

variable {l : Logged Registry} {q : Query} {params : Params} {r : Record}

/-- A call of a query returns a record, alone or among others, if it is called in general or by the
accessor of its shape. -/
def Delivers (l : Logged Registry) (name : String) (params : Params) (r : Record) : Prop :=
  ∃ out, r ∈ out.records ∧ (((call name params).run.run l).1 = .ok out ∨
    ∃ a, ((access a name params).run.run l).1 = .ok out)

/-- A record made of a row has the announced columns. -/
theorem columns_of_record {e : Sql.Execution} {row : List Value} (h : e.record row = .ok r) :
    r.columns = e.announced := by
  rw [Sql.Execution.record] at h
  split at h
  · cases h
    rename_i hlength
    exact List.map_fst_zip hlength
  · cases h

/-- The records that a query returns have the columns of its statement. -/
theorem columns_of_delivers {name : String} (hq : l.state.query? name = some q)
    (h : Delivers l name params r) : l.state.session.Announces (Text.trimmed q.sql) r.columns := by
  obtain ⟨out, hmem, hout⟩ := h
  obtain ⟨e, he, row, -, hrecord⟩ := exists_row_of_perform (perform_of_returned hq hout) hmem
  rw [columns_of_record hrecord]
  exact Sql.Session.announces_of_call he

/-- **What a returned record tells under a name.** The record has the columns of the statement of
its query. Its object has a member of a name exactly if a column of that name is found, and the
member is the JSON form of the last of these columns. That is the value of the column that is
found, unless the statement has several columns of the name. -/
theorem members_of_returned {name : String} (hq : l.state.query? name = some q)
    (h : Delivers l name params r) :
    l.state.session.Announces (Text.trimmed q.sql) r.columns ∧ ∀ column,
      ((r.toJson.member? column).isSome ↔ (r.get? column).isSome) ∧
      r.toJson.member? column = (r.last? column).map Value.toJson ∧
      (r.columns.count column ≤ 1 →
        r.toJson.member? column = (r.get? column).map Value.toJson) := by
  refine ⟨columns_of_delivers hq h, fun column => ⟨?_, r.member?_toJson column, fun hc => ?_⟩⟩
  · rw [r.member?_toJson, Option.isSome_map]
    exact Record.isSome_last?_iff
  · rw [r.member?_toJson, Record.last?_eq_get? hc]

/-! ### A row with two columns of one name -/

/-- A query for a row with two columns of one name and one of another name. -/
def twins : String := "-- :name twins :get\nselect 1 as a, 2 as a, 3 as b\n"

/-- The query for the row. -/
def twinColumns : Query := ⟨"twins", "select 1 as a, 2 as a, 3 as b\n", 1, .get none⟩

/-- The row. -/
def twinRow : Record := ⟨[("a", .integer 1), ("a", .integer 2), ("b", .integer 3)]⟩

theorem run_twins :
    (memoryWith "" twins).state.query? "twins" = some twinColumns ∧
      ((call "twins" .none).run.run (memoryWith "" twins)).1 = .ok (.row (some twinRow)) := by
  decide +kernel

theorem delivers_twins : Delivers (memoryWith "" twins) "twins" .none twinRow :=
  ⟨_, List.mem_singleton_self _, Or.inl run_twins.2⟩

/-- The column whose name is there once is the member. -/
theorem members_of_returned_single :
    Delivers (memoryWith "" twins) "twins" .none twinRow ∧
      twinRow.columns.count "b" ≤ 1 ∧
      twinRow.toJson.member? "b" = (twinRow.get? "b").map Value.toJson := by
  have hb : twinRow.columns.count "b" ≤ 1 := by decide
  obtain ⟨-, hm⟩ := members_of_returned run_twins.1 delivers_twins
  obtain ⟨-, -, hone⟩ := hm "b"
  exact ⟨delivers_twins, hb, hone hb⟩

/-- **The object of a returned record may have another value than its column.** The first of two
columns of one name is found, and the second one is the member. -/
theorem twin_columns_differ :
    Reachable (memoryWith "" twins).state ∧ Delivers (memoryWith "" twins) "twins" .none twinRow ∧
      twinRow.get? "a" = some (.integer 1) ∧ twinRow.toJson.member? "a" = some (.integer 2) ∧
      twinRow.toJson.member? "a" ≠ (twinRow.get? "a").map Value.toJson := by
  have hg : twinRow.get? "a" = some (.integer 1) := rfl
  have hm : twinRow.toJson.member? "a" = some (.integer 2) := by
    rw [Record.member?_toJson]
    rfl
  refine ⟨reachable_memoryWith twins (isOk_of_query? run_twins.1), delivers_twins, hg, hm, ?_⟩
  rw [hm, hg]
  intro he
  have hi := Json.integer.inj (Option.some.inj he)
  exact absurd hi (by decide)

end Registry

end NamedSql
