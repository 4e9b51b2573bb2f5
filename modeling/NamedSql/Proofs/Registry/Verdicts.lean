import NamedSql.Proofs.Registry.FailedCalls
import NamedSql.Proofs.Registry.Causes
import NamedSql.Proofs.Registry.Pieces
import NamedSql.Proofs.Registry.Requirements

/-!
# Verdicts on loads

Whether a text is loaded, and if not for what reason. A text is loaded if every specification of it
has all that is asked for where it stands. If not, the error is that of the first specification that
lacks something, and of the first thing that it lacks.

That a check has passed or failed says everything about its specification: a check that passes
leaves the names and the connection where the next specification stands, so the verdict on all of
them follows by induction.

## Scope

The text has to be read first.

A body that has a NUL character may hold further statements behind it, which are not counted when it
is loaded and not run when it is called. The verdict counts what is seen, and `hidden_statement` is
such a body.

## Main definitions

* `Standing.after` — where a specification stands behind some other ones
* `Standing.Verdict` — the verdict on specifications one after the other
* `Registry.standing`, `Registry.Judged` — the verdict on a load

## Main results

* `Registry.accepts_of_check`, `Registry.refuses_of_check` — what the check of a specification says
* `Registry.verdict_checkAll` — what the checks of several say
* `Registry.load_judged` — the verdict on every load of a text
-/

namespace NamedSql

/-! ### One specification after the other -/

namespace Standing

variable {st : Standing} {spec : QuerySpec} {specs : List QuerySpec}

theorem connection_next (st : Standing) (spec : QuerySpec) :
    (st.next spec).connection = st.connection.readied spec.sql := by
  rw [next]

/-- Where a specification stands behind some other ones. -/
def after (st : Standing) (earlier : List QuerySpec) : Standing where
  held := st.held
  seen := st.seen ++ earlier.map QuerySpec.name
  connection := earlier.foldl (fun c spec => c.readied spec.sql) st.connection

theorem after_nil (st : Standing) : st.after [] = st := by
  rw [after, List.map_nil, List.append_nil]
  rfl

theorem after_cons (st : Standing) (spec : QuerySpec) (earlier : List QuerySpec) :
    st.after (spec :: earlier) = (st.next spec).after earlier := by
  simp only [after, next, List.map_cons, List.foldl_cons, List.append_assoc,
    List.singleton_append]

/-- The connection differs in nothing but whether keys of other tables are enforced. -/
theorem exists_enforcing_after (st : Standing) (earlier : List QuerySpec) :
    ∃ on, (st.after earlier).connection = st.connection.enforcing on := by
  induction earlier generalizing st with
  | nil => exact ⟨st.connection.foreignKeys, by rw [after_nil]; rfl⟩
  | cons spec earlier ih =>
    obtain ⟨on, h⟩ := ih (st.next spec)
    obtain ⟨on', h'⟩ := st.connection.exists_enforcing_readied spec.sql
    rw [after_cons, h, next, h']
    exact ⟨on, rfl⟩

/-- The verdict on specifications one after the other: none lacks anything, or there is an error. -/
inductive Verdict : Standing → List QuerySpec → Option Error → Prop
  | passed (st : Standing) : Verdict st [] none
  | accepted {st : Standing} {spec : QuerySpec} {specs : List QuerySpec} {e? : Option Error}
      (first : st.Accepts spec) (rest : Verdict (st.next spec) specs e?) :
      Verdict st (spec :: specs) e?
  | refused {st : Standing} {spec : QuerySpec} {e : Error} (first : st.Refuses spec e)
      (specs : List QuerySpec) : Verdict st (spec :: specs) (some e)

theorem Verdict.accepts {e? : Option Error} (h : Verdict st specs e?) (hn : e? = none) :
    ∀ i (hi : i < specs.length), (st.after (specs.take i)).Accepts specs[i] := by
  induction h with
  | passed st => exact fun i hi => absurd hi (Nat.not_lt_zero i)
  | @accepted st spec specs e? first rest ih =>
    intro i hi
    cases i with
    | zero => rwa [List.take_zero, after_nil]
    | succ i =>
      rw [List.take_succ_cons, after_cons]
      exact ih hn i (Nat.lt_of_succ_lt_succ hi)
  | refused first specs => cases hn

theorem Verdict.refuses {e? : Option Error} {e : Error} (h : Verdict st specs e?)
    (he : e? = some e) : ∃ (i : Nat) (hi : i < specs.length),
      (∀ j (hj : j < i), (st.after (specs.take j)).Accepts specs[j]) ∧
        (st.after (specs.take i)).Refuses specs[i] e := by
  induction h with
  | passed st => cases he
  | @accepted st spec specs e? first rest ih =>
    obtain ⟨i, hi, ha, hr⟩ := ih he
    refine ⟨i + 1, Nat.succ_lt_succ hi, fun j hj => ?_, ?_⟩
    · cases j with
      | zero => rwa [List.take_zero, after_nil]
      | succ j =>
        rw [List.take_succ_cons, after_cons]
        exact ha j (Nat.lt_of_succ_lt_succ hj)
    · rw [List.take_succ_cons, after_cons]
      exact hr
  | @refused st spec e' first specs =>
    cases he
    refine ⟨0, Nat.succ_pos _, fun j hj => absurd hj (Nat.not_lt_zero j), ?_⟩
    rwa [List.take_zero, after_nil]

end Standing

namespace Registry

variable {st : Standing} {spec : QuerySpec} {specs : List QuerySpec} {l : Logged Registry}
  {e : Error}

/-! ### Checks -/

theorem accepts_of_check {q : Query} (hs : l.state.session.Sound)
    (ht : Text.Terminated spec.sql.toList) (hc : l.state.session.connection = st.connection)
    (h : ((check st.held st.seen spec).run.run l).1 = .ok q) :
    st.Accepts spec ∧ q.name = spec.name ∧
      ((check st.held st.seen spec).run.run l).2.state.session.connection =
        (st.next spec).connection := by
  obtain ⟨⟨shape, hh, rfl⟩, ha⟩ := (check_eq_ok_iff _ _ q _ hs ht).mp ⟨h, rfl⟩
  rw [hc] at ha
  obtain ⟨hl, hr, hd⟩ := (Sql.Connection.admit?_eq_some_iff ht).mp ha
  have hm := met_of_checkHeader hh
  rw [Standing.connection_next, hd]
  refine ⟨fun requirement => ?_, rfl, rfl⟩
  cases requirement with
  | statement => exact ⟨hl, hr⟩
  | _ => exact hm _ (by simp)

/-- **A check that fails refuses its specification**: an error about the statement comes only if
everything else is there, and not if the statement is there as well. -/
theorem refuses_of_check (hs : l.state.session.Sound) (ht : Text.Terminated spec.sql.toList)
    (hc : l.state.session.connection = st.connection)
    (h : ((check st.held st.seen spec).run.run l).1 = .error e) : st.Refuses spec e := by
  cases hh : checkHeader st.held st.seen spec with
  | error x =>
    rw [check, Op.run_bind, Op.run_ofResult, hh] at h
    cases h
    exact refuses_of_checkHeader hh
  | ok shape =>
    refine ⟨[.kind, .argument, .unreserved, .unused], .statement, [], rfl, met_of_checkHeader hh,
      ?_, reports_of_check_of_checkHeader hh h⟩
    rintro ⟨hl, hr⟩
    have ha := (Sql.Connection.admit?_eq_some_iff ht).mpr ⟨hl, hr, rfl⟩
    rw [← hc] at ha
    rw [((check_eq_ok_iff _ _ _ _ hs ht).mpr ⟨⟨shape, hh, rfl⟩, ha⟩).1] at h
    cases h

/-- **The checks of several specifications give the verdict on them.** The induction is on the
specifications, for wherever the first of them stands: a check that passes leaves the rest where the
next one stands. -/
theorem verdict_checkAll (hs : l.state.session.Sound)
    (ht : ∀ spec ∈ specs, Text.Terminated spec.sql.toList)
    (hc : l.state.session.connection = st.connection) :
    st.Verdict specs (errorOf? ((checkAll st.held st.seen specs).run.run l).1) := by
  induction specs generalizing st l with
  | nil => exact .passed st
  | cons spec specs ih =>
    have hspec := ht spec List.mem_cons_self
    have ha := fun q => accepts_of_check (q := q) hs hspec hc
    have hr := fun e => refuses_of_check (e := e) hs hspec hc
    have hcs := sound_check st.held st.seen spec hs
    rw [checkAll, Op.run_bind]
    generalize (check st.held st.seen spec).run.run l = checked at ha hr hcs
    obtain ⟨e | q, m⟩ := checked
    · exact .refused (hr e rfl) specs
    · obtain ⟨hacc, hn, hd⟩ := ha q rfl
      have hi : (st.next spec).Verdict specs
          (errorOf? ((checkAll st.held (st.seen ++ [spec.name]) specs).run.run m).1) :=
        ih hcs (fun s hm => ht s (List.mem_cons_of_mem _ hm)) hd
      dsimp only
      rw [Op.run_bind, hn]
      generalize (checkAll st.held (st.seen ++ [spec.name]) specs).run.run m = tail at hi ⊢
      obtain ⟨e | queries, m'⟩ := tail
      · exact .accepted hacc hi
      · exact .accepted hacc hi

/-! ### Loads -/

/-- Where a specification of a load stands that has some other ones before it. -/
def standing (r : Registry) (earlier : List QuerySpec) : Standing :=
  (⟨r.contains, [], r.session.connection⟩ : Standing).after earlier

theorem verdict_load (hs : l.state.session.Sound)
    (ht : ∀ spec ∈ specs, Text.Terminated spec.sql.toList) (source : String) :
    (l.state.standing []).Verdict specs (errorOf? ((load source (.ok specs)).run.run l).1) := by
  obtain ⟨m, hm, herror, hok⟩ := run_load source specs l
  have hv : (l.state.standing []).Verdict specs
      (errorOf? ((checkAll m.state.contains [] specs).run.run m).1) := by
    rw [standing, Standing.after_nil, hm]
    exact verdict_checkAll (by rw [hm]; exact hs.setCapacity _) ht (by rw [hm]; rfl)
  cases hr : (checkAll m.state.contains [] specs).run.run m with
  | mk result m' =>
    rw [hr] at hv
    cases result with
    | error e => rwa [(herror e m' hr).1]
    | ok queries => rwa [(hok queries m' hr).1]

theorem verdict_loadText {text : String} (hs : l.state.session.Sound)
    (h : QuerySpec.readAll text = .ok specs) :
    (l.state.standing []).Verdict specs (errorOf? ((loadText text).run.run l).1) := by
  have hv := verdict_load hs (fun spec hm => QuerySpec.terminated_of_mem h hm) textSource
  rw [loadText, Op.run_bind, h]
  generalize (load textSource (.ok specs)).run.run l = loaded at hv ⊢
  obtain ⟨e | count, m⟩ := loaded
  · exact hv
  · exact hv

/-- The verdict on a load of specifications. -/
structure Judged (l : Logged Registry) (specs : List QuerySpec) (loaded : Except Error Unit) :
    Prop where
  /-- It succeeds if every specification has all that is asked for where it stands. -/
  accepts : loaded = .ok () ↔
    ∀ i (hi : i < specs.length), (l.state.standing (specs.take i)).Accepts specs[i]
  /-- It fails with the error of the first specification that lacks something. -/
  refuses : ∀ e, loaded = .error e → ∃ (i : Nat) (hi : i < specs.length),
    (∀ j (hj : j < i), (l.state.standing (specs.take j)).Accepts specs[j]) ∧
      (l.state.standing (specs.take i)).Refuses specs[i] e
  /-- Statements are prepared against the tables and functions that there are. -/
  connection : ∀ earlier, ∃ on,
    (l.state.standing earlier).connection = l.state.session.connection.enforcing on
  /-- A body that has been loaded has one statement, and that is what is found under the body when
  it is called later on. -/
  alone : loaded = .ok () → ∀ spec ∈ specs, (Sql.statements spec.sql.toList).length = 1 ∧
    ('\x00' ∉ spec.sql.toList → (Sql.statementsThroughout spec.sql.toList).length = 1) ∧
    ∀ r, Reachable r → ∀ s p, r.session.find (Text.trimmed spec.sql) = (s, .ok p) →
      ∃ rest, Sql.Statement.read spec.sql.toList = .ok ⟨some p.parsed, rest⟩

/-- **A text is loaded if every specification of it has all that is asked for, and if not the error
is that of the first thing that the first other one lacks.** -/
theorem load_judged {text : String} (hr : Reachable l.state)
    (h : QuerySpec.readAll text = .ok specs) : Judged l specs ((loadText text).run.run l).1 := by
  have hv := verdict_loadText hr.sound h
  have ht : ∀ spec ∈ specs, Text.Terminated spec.sql.toList :=
    fun spec hm => QuerySpec.terminated_of_mem h hm
  generalize ((loadText text).run.run l).1 = loaded at hv ⊢
  have hstanding : ∀ earlier, (l.state.standing []).after earlier = l.state.standing earlier := by
    intro earlier
    rw [standing, Standing.after_nil]
    rfl
  have haccepts : loaded = .ok () ↔
      ∀ i (hi : i < specs.length), (l.state.standing (specs.take i)).Accepts specs[i] := by
    constructor
    · rintro rfl i hi
      rw [← hstanding]
      exact hv.accepts rfl i hi
    · intro ha
      cases loaded with
      | ok _ => rfl
      | error e =>
        obtain ⟨i, hi, -, hn⟩ := hv.refuses rfl
        rw [hstanding] at hn
        exact absurd (ha i hi) hn.not_accepts
  refine ⟨haccepts, ?_, fun earlier => Standing.exists_enforcing_after _ earlier, ?_⟩
  · rintro e rfl
    simpa only [hstanding] using hv.refuses rfl
  · intro hl spec hm
    obtain ⟨i, hi, rfl⟩ := List.getElem_of_mem hm
    obtain ⟨h₁, -⟩ := haccepts.mp hl i hi .statement
    refine ⟨h₁, fun h₀ => by rwa [Sql.statementsThroughout_of_not_mem h₀], ?_⟩
    exact fun r hr s p hf => hr.sound.read_of_find (ht _ hm) h₁ hf

theorem reachable_startedWith : Reachable startedWith.state :=
  reachable_memoryWith _ (by decide +kernel)

/-- A text with a query that is there twice, the second time with one statement too many. -/
def repeatedText : String :=
  "-- :name first :one\nselect c from t;\n-- :name first :one\nselect c from t; select c from t\n"

/-- The specifications of that text. -/
def repeatedSpecs : List QuerySpec :=
  [⟨"first", "one", none, "select c from t;\n", 1⟩,
    ⟨"first", "one", none, "select c from t; select c from t\n", 3⟩]

/-- What is asked for first is the name, which is in use, and not the statements. -/
theorem load_judged_repeated :
    Judged startedWith repeatedSpecs ((loadText repeatedText).run.run startedWith).1 ∧
      ((loadText repeatedText).run.run startedWith).1 = .error (.duplicateQueryName "first") := by
  have hs : QuerySpec.readAll repeatedText = .ok repeatedSpecs := by decide +kernel
  exact ⟨load_judged reachable_startedWith hs, by decide +kernel⟩

/-! ### A statement that is not seen -/

/-- A query with a second statement behind a NUL character. -/
def hidingSpec : QuerySpec :=
  ⟨"add", "run", none, "insert into t values (1);\x00 insert into t values (2)\n", 1⟩

/-- The registry once the query has been loaded. -/
def withHidden : Except Error Unit × Logged Registry :=
  (loadText hidingSpec.display).run.run startedWith

/-- **A body with two statements is loaded if a NUL character is between them**, and the second one
is not run. -/
theorem hidden_statement :
    Reachable startedWith.state ∧
      QuerySpec.readAll hidingSpec.display = .ok [hidingSpec] ∧
      (Sql.statementsThroughout hidingSpec.sql.toList).length = 2 ∧
      withHidden.1 = .ok () ∧
      ((run "add" .none).run.run withHidden.2).1 = .ok ⟨1, 1⟩ ∧
      rowsOf ((run "add" .none).run.run withHidden.2).2 = some [⟨1, [.integer 1]⟩] := by
  refine ⟨reachable_startedWith, ?_⟩
  decide +kernel

end Registry

end NamedSql
