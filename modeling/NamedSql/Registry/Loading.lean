import NamedSql.Query.Annotated
import NamedSql.Registry.Opening

/-!
# Loading

How queries come into a registry. A text is read and every query in it is checked before the first
of them can be called, so a text that fails leaves the registry with the queries that it had.

A name is refused for one of two reasons: the table of the registry has it, or a query before it in
the same text has it. The table does not change while a text is checked, so neither check covers the
other.

## Scope

A file is loaded once: its place is remembered, and loading it again does nothing, whatever it
holds by then. A file that fails to load is not remembered.

## Main definitions

* `Registry.check` — the query of a specification, or why it is refused
* `Registry.addQuery`, `Registry.addQueries` — what adds to the table and to the order
* `Registry.load` — loads the queries of specifications
* `Registry.loadText`, `Registry.loadFile` — loads the queries of a text or a file

## Main results

* `Registry.query?_addQuery`, `Registry.size_addQuery` — what the table has after one more query
* `Registry.addQueries_eq` — adding queries touches the table and the order, and nothing else
-/

namespace NamedSql

namespace Registry

open Op

variable {σ : Type}

/-- The error of a specification whose statement the engine refuses, with the line of its header,
the wording and the engine's code. -/
def prepareError (spec : QuerySpec) (f : Sql.Failure) : Error :=
  .prepareFailed spec.name spec.line f.message f.code?

/-- The error of a specification whose body is read without a fault but is not one statement. There
is no code, because the engine has nothing against it. -/
def bodyError (spec : QuerySpec) (reason : String) : Error :=
  .prepareFailed spec.name spec.line reason none

/-- What is wrong with a body, if it does not have exactly one statement. -/
def bodyFault? (spec : QuerySpec) : Except Sql.Failure Nat → Option Error
  | .error f => some (prepareError spec f)
  | .ok 0 => some (bodyError spec "body contains no statements")
  | .ok 1 => none
  | .ok _ => some (bodyError spec "body contains more than one statement")

/-- Counts the statements of a body, which has to have exactly one. Counting stops at two, and every
statement that is counted is prepared for it and dropped again. -/
def countStatement [Engine σ] (spec : QuerySpec) : Op (Registry σ) Unit := do
  let (session, count) := Engine.countStatements (← state).session 2 spec.sql
  change fun r => { r with session }
  match bodyFault? spec count with
  | some e => throw e
  | none => return

/-- The checks of a specification that look at its header and at the names in use: those that the
registry holds, and those that have been seen before in the same text. -/
def checkHeader (held : String → Bool) (seen : List String) (spec : QuerySpec) :
    Except Error QueryShape := do
  let shape ← spec.compile
  if reservedNames.contains spec.name then throw (.reservedName spec.name)
  if held spec.name || seen.contains spec.name then throw (.duplicateQueryName spec.name)
  return shape

/-- The note that a query has been checked, which is logged before it is known whether those behind
it pass. -/
def compiledNote (q : Query) : Log.Event :=
  .note .debug "compiled query"
    [(Log.FieldName.queryName.key, .shown q.name),
      (Log.FieldName.queryKind.key, .shown q.shape.display), ("line", .integer q.line)]

/-- The query of a specification, with its statement prepared. The header is checked first, then the
number of statements, and only then the statement is prepared and kept. -/
def check [Engine σ] (held : String → Bool) (seen : List String) (spec : QuerySpec) :
    Op (Registry σ) Query := do
  let shape ← ofResult (checkHeader held seen spec)
  countStatement spec
  let (session, refused) := Engine.prepare (← state).session spec.sql
  change fun r => { r with session }
  match refused with
  | some f => throw (prepareError spec f)
  | none =>
    let q : Query := ⟨spec.name, spec.sql, spec.line, shape⟩
    log (compiledNote q)
    return q

/-- The queries of specifications, in order. The name of one that passes has been seen for those
behind it. -/
def checkAll [Engine σ] (held : String → Bool) (seen : List String) :
    List QuerySpec → Op (Registry σ) (List Query)
  | [] => return []
  | spec :: rest => do
    let q ← check held seen spec
    return q :: (← checkAll held (seen ++ [q.name]) rest)

/-- The registry with one more query: its name is listed last, and the table has it under that
name. -/
def addQuery (r : Registry σ) (q : Query) : Registry σ :=
  { r with order := r.order ++ [q.name], queries := r.queries.insert q.name q }

/-- The registry with more queries, which are added one after the other. Nothing is checked any more
at this point, so that none of them can fail. -/
def addQueries (r : Registry σ) (queries : List Query) : Registry σ := queries.foldl addQuery r

/-- Room for the statements of more queries, besides those that are there. A load asks for it before
it checks anything, so that a load that fails has asked for it too. -/
def reserve [Engine σ] (r : Registry σ) (count : Nat) : Registry σ :=
  { r with session := Engine.setCapacity r.session (max (r.size + count) leastCapacity) }

/-- Loads the queries that are read from a source, and returns their number. Every query is checked
before the first of them is added. -/
def load [Engine σ] (source : String) (specs : Except Error (List QuerySpec)) :
    Op (Registry σ) Nat :=
  bracket "load_queries" [(Log.FieldName.source.key, .text source)]
    (fun count => [(Log.FieldName.queryCount.key, .integer count)]) do
      let specs ← ofResult specs
      change fun r => r.reserve specs.length
      let queries ← checkAll (← state).contains [] specs
      change fun r => r.addQueries queries
      return queries.length

/-- The name of a source that is not a file, as the events of a load show it. -/
def textSource : String := "<text>"

/-- Loads the queries of an annotated text. Texts are not remembered: loading one twice is refused
for the names that it repeats. -/
def loadText [Engine σ] (text : String) : Op (Registry σ) Unit := do
  let _ ← load textSource (QuerySpec.readAll text)

/-- The note that a file has been loaded before, which is all that comes of loading it again. -/
def alreadyLoadedNote (path : String) : Log.Event :=
  .note .debug "queries already loaded" [(Log.FieldName.source.key, .shown path)]

/-- The queries that the content of a file gives; a path shows which file cannot be read. -/
def readQueries (shown : String) (content : Except FileFault String) :
    Except Error (List QuerySpec) :=
  match content with
  | .ok text => QuerySpec.readAll text
  | .error fault => .error (.ofFile shown fault)

/-- Loads the queries of a file, unless it has been loaded before. What counts is the canonical
place of the file, which is remembered only once its queries have been added. -/
def loadFile [Engine σ] (f : Files) (path : String) : Op (Registry σ) Unit := do
  match f.canonical path with
  | .error fault => throw (.ofFile path fault)
  | .ok place =>
    if (← state).sources.contains place then log (alreadyLoadedNote path)
    else
      let _ ← load path (readQueries (f.absolute place) (f.textAt place))
      change fun r => { r with sources := r.sources ++ [place] }

/-- The queries of a file, by its path as given, without a registry to load them into. -/
def queriesOfFile (f : Files) (path : String) : Except Error (List QuerySpec) :=
  readQueries path (f.readText path)

/-! ### What is added -/

theorem query?_addQuery (r : Registry σ) (q : Query) (name : String) :
    (r.addQuery q).query? name = if q.name = name then some q else r.query? name := by
  simp only [query?, addQuery, Std.TreeMap.getElem?_insert, Std.LawfulEqCmp.compare_eq_iff_eq]

theorem size_addQuery {r : Registry σ} {q : Query} (h : r.query? q.name = none) :
    (r.addQuery q).size = r.size + 1 := by
  have hc : r.queries.contains q.name = false := by
    rw [← contains, contains_eq_isSome, h, Option.isSome_none]
  rw [size, addQuery, Std.TreeMap.size_insert, hc, if_neg Bool.false_ne_true]
  rfl

theorem addQueries_cons (r : Registry σ) (q : Query) (queries : List Query) :
    r.addQueries (q :: queries) = (r.addQuery q).addQueries queries := rfl

/-- Adding queries lists their names and puts them into the table, and touches nothing else. -/
theorem addQueries_eq (r : Registry σ) (queries : List Query) :
    r.addQueries queries = { r with
      order := r.order ++ queries.map Query.name
      queries := queries.foldl (fun table q => table.insert q.name q) r.queries } := by
  induction queries generalizing r with
  | nil => rw [List.map_nil, List.append_nil]; rfl
  | cons q queries ih =>
    rw [addQueries_cons, ih, List.map_cons, List.append_cons]
    rfl

theorem names_addQueries (r : Registry σ) (queries : List Query) :
    (r.addQueries queries).names = r.names ++ queries.map Query.name := by
  rw [addQueries_eq]
  rfl

/-- What is added under other names leaves a lookup as it is: the table has under a name what was
added under it last. -/
theorem query?_addQueries_of_not_mem {queries : List Query} {name : String}
    (h : name ∉ queries.map Query.name) (r : Registry σ) :
    (r.addQueries queries).query? name = r.query? name := by
  induction queries generalizing r with
  | nil => rfl
  | cons q queries ih =>
    rw [List.map_cons, List.mem_cons, not_or] at h
    rw [addQueries_cons, ih h.2, query?_addQuery, if_neg (Ne.symm h.1)]

/-- Queries that are added under different names are found under them, whatever the table had under
those names before. -/
theorem query?_addQueries_of_mem {queries : List Query} {q : Query}
    (hn : (queries.map Query.name).Nodup) (hq : q ∈ queries) (r : Registry σ) :
    (r.addQueries queries).query? q.name = some q := by
  induction queries generalizing r with
  | nil => cases hq
  | cons q' queries ih =>
    rw [List.map_cons, List.nodup_cons] at hn
    rw [addQueries_cons]
    rcases List.mem_cons.mp hq with rfl | hq
    · rw [query?_addQueries_of_not_mem hn.1, query?_addQuery, if_pos rfl]
    · exact ih hn.2 hq (r.addQuery q')

/-- The table grows by as many queries as are added under names that are new to it. -/
theorem size_addQueries {queries : List Query} (hn : (queries.map Query.name).Nodup)
    {r : Registry σ} (h : ∀ q ∈ queries, r.query? q.name = none) :
    (r.addQueries queries).size = r.size + queries.length := by
  induction queries generalizing r with
  | nil => rfl
  | cons q queries ih =>
    rw [List.map_cons, List.nodup_cons] at hn
    rw [addQueries_cons, ih hn.2, size_addQuery (h q List.mem_cons_self), List.length_cons]
    · omega
    · intro q' hq'
      have hne : q.name ≠ q'.name := fun he => hn.1 (he ▸ List.mem_map_of_mem hq')
      rw [query?_addQuery, if_neg hne]
      exact h q' (List.mem_cons_of_mem _ hq')

end Registry

end NamedSql
