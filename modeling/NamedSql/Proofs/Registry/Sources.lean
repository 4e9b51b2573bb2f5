import Mathlib
import NamedSql.Proofs.Registry.Quiescence

/-!
# Files that were loaded

A registry remembers the places of the files that it has loaded, so that no file is loaded twice.
What it remembers is the history of its loads: a place is remembered once a load of it has
succeeded, and nothing else is. So a load asks two things, whether its path leads to a place and
whether a load of that place has succeeded before, and only if none has does it look at the file.

## Scope

Every load finds files of its own. Nothing ties those of one load to those of another, so files may
be written, replaced and removed between them in any way. Two spellings of a path lead to one place
or to none; there are no links. The engine has a say in whether a load succeeds, and nothing more is
supposed of it.

## Main definitions

* `Registry.Attached` — a load of a place has succeeded in a run of operations
* `Registry.attaching` — a load of a place that has not been loaded

## Main results

* `Registry.run_loadFile_of_error`, `Registry.run_loadFile_of_mem`,
  `Registry.run_loadFile_of_not_mem` — the three ways of a load
* `Registry.sources_after` — what an operation adds to the places that are remembered
* `Registry.mem_sources_iff` — what is remembered are the places of the loads that have succeeded
* `Registry.loads_once` — what a load does at the end of any run
-/

namespace NamedSql

open Registry

namespace Registry

variable {σ : Type} [Engine σ] {f : Files} {path : String} {place : Place}
  {l : Logged (Registry σ)}

/-! ### Loads of files -/

theorem run_loadFile_of_error {fault : FileFault} (h : f.canonical path = .error fault)
    (l : Logged (Registry σ)) : (loadFile f path).run.run l = (.error (.ofFile path fault), l) := by
  rw [loadFile, h]
  rfl

theorem after_loadFile_of_error {fault : FileFault} (h : f.canonical path = .error fault)
    (l : Logged (Registry σ)) : (Operation.loadFile f path).after l = l :=
  congrArg Prod.snd (run_loadFile_of_error h l)

/-- A file that was loaded before is not looked at. -/
theorem run_loadFile_of_mem (h : f.canonical path = .ok place) (hm : place ∈ l.state.sources) :
    (loadFile f path).run.run l = (.ok (), l.noting (alreadyLoadedNote path)) := by
  rw [loadFile, h]
  dsimp only
  rw [Op.run_bind, Op.run_state]
  dsimp only
  rw [List.contains_eq_mem, decide_eq_true hm, if_pos rfl]
  rfl

/-- A load of a place that has not been loaded: the file is read as it is now and every query in it
is checked, and the place is remembered if all of that succeeds. -/
def attaching (f : Files) (path : String) (place : Place) : Op (Registry σ) Unit := do
  let _ ← load path (readQueries (f.absolute place) (f.textAt place))
  Op.change fun r => { r with sources := r.sources ++ [place] }

theorem run_loadFile_of_not_mem (h : f.canonical path = .ok place)
    (hm : place ∉ l.state.sources) :
    (loadFile f path).run.run l = (attaching f path place).run.run l := by
  rw [loadFile, h]
  dsimp only
  rw [Op.run_bind, Op.run_state]
  dsimp only
  rw [List.contains_eq_mem, decide_eq_false hm, if_neg Bool.false_ne_true]
  rfl

/-- The place that a load remembers or has remembered, if it succeeds. -/
theorem sources_loadFile (f : Files) (path : String) (l : Logged (Registry σ)) :
    (∃ e, ((loadFile f path).run.run l).1 = .error e ∧
        ((loadFile f path).run.run l).2.state.sources = l.state.sources) ∨
      ∃ place, f.canonical path = .ok place ∧ ((loadFile f path).run.run l).1 = .ok () ∧
        (place ∈ l.state.sources ∧
            ((loadFile f path).run.run l).2.state.sources = l.state.sources ∨
          place ∉ l.state.sources ∧
            ((loadFile f path).run.run l).2.state.sources = l.state.sources ++ [place]) := by
  rcases run_loadFile_cases f path l with ⟨e, he, hr⟩ | ⟨place, hc, hk, hs⟩
  · exact Or.inl ⟨e, he, hr.sources⟩
  · refine Or.inr ⟨place, hc, hk, hs.imp (fun ⟨hm, hr⟩ => ⟨hm, congrArg Registry.sources hr⟩) ?_⟩
    rintro ⟨hm, text, specs, queries, m, -, -, -, -, hr⟩
    exact ⟨hm, congrArg Registry.sources hr⟩

/-! ### What other operations do to the places -/

theorem Effects.sources {r r' : Registry σ} (h : Effects r r') : r'.sources = r.sources := by
  induction h with
  | refl => rfl
  | tail _ he ih =>
    cases he with
    | executed i => exact ih
    | controlled command => exact ih
    | counted depth rollbackOnly => exact ih

theorem sources_loadText (text : String) (l : Logged (Registry σ)) :
    ((loadText text).run.run l).2.state.sources = l.state.sources := by
  have h := loads_loadText text l
  generalize ((loadText text).run.run l).1 = x at h
  cases h with
  | failed e hp => exact hp.sources
  | loaded a hr ha hp h => rw [h, addQueries_eq, hp.sources]

theorem sources_registerFunction (name : String) (arity : Int)
    (body : List Value → Except Sql.FunctionFault Value)
    (complaint : Option Sql.Fault) (l : Logged (Registry σ)) :
    ((registerFunction name arity body complaint).run.run l).2.state.sources = l.state.sources := by
  rcases state_run_registerFunction name arity body complaint l with h | ⟨f, -, h⟩
  · rw [h]
  · rw [h]
    rfl

/-! ### Places that are loaded along a run -/

/-- The operation is a load of a place that succeeds. -/
def Attaches (l : Logged (Registry σ)) (o : Operation) (place : Place) : Prop :=
  ∃ f path, o = .loadFile f path ∧ f.canonical path = .ok place ∧
    ((loadFile f path).run.run l).1 = .ok ()

/-- A load of the place has succeeded in a run of operations. -/
def Attached (l : Logged (Registry σ)) (ops : List Operation) (place : Place) : Prop :=
  ∃ before o rest, ops = before ++ o :: rest ∧ Attaches (later l before) o place

variable {ops : List Operation}

/-- **What an operation adds to the places**: that of a load which succeeds, unless it is there. -/
theorem sources_after (h : l.state.sources.Nodup) (o : Operation) :
    (o.after l).state.sources.Nodup ∧
      ∀ place, place ∈ (o.after l).state.sources ↔
        place ∈ l.state.sources ∨ Attaches l o place := by
  have hkept : (o.after l).state.sources = l.state.sources →
      (∀ place, Attaches l o place → place ∈ l.state.sources) →
      (o.after l).state.sources.Nodup ∧
        ∀ place, place ∈ (o.after l).state.sources ↔
          place ∈ l.state.sources ∨ Attaches l o place := by
    intro hs ha
    rw [hs]
    exact ⟨h, fun place => (or_iff_left_of_imp (ha place)).symm⟩
  cases o with
  | loadText text => exact hkept (sources_loadText text l) (by rintro place ⟨f, path, ⟨⟩, -⟩)
  | registerFunction name arity body complaint =>
    exact hkept (sources_registerFunction name arity body complaint l)
      (by rintro place ⟨f, path, ⟨⟩, -⟩)
  | step s => exact hkept (s.works l).sources (by rintro place ⟨f, path, ⟨⟩, -⟩)
  | loadFile f path =>
    rcases sources_loadFile f path l with ⟨e, he, hs⟩ | ⟨place, hc, hk, ⟨hm, hs⟩ | ⟨hm, hs⟩⟩
    · refine hkept hs ?_
      rintro place ⟨_, _, ⟨⟩, -, hk⟩
      rw [he] at hk
      cases hk
    · refine hkept hs ?_
      rintro place' ⟨_, _, ⟨⟩, hc', -⟩
      cases hc.symm.trans hc'
      exact hm
    · rw [Operation.after, hs]
      refine ⟨List.nodup_append.mpr ⟨h, by simp, ?_⟩, fun place' => ?_⟩
      · rintro a ha b hb rfl
        exact hm (List.mem_singleton.mp hb ▸ ha)
      · rw [List.mem_append, List.mem_singleton]
        refine or_congr_right ⟨?_, ?_⟩
        · rintro rfl
          exact ⟨f, path, rfl, hc, hk⟩
        · rintro ⟨_, _, ⟨⟩, hc', -⟩
          exact Except.ok.inj (hc'.symm.trans hc)

theorem later_concat (l : Logged (Registry σ)) (ops : List Operation) (o : Operation) :
    later l (ops ++ [o]) = o.after (later l ops) := by
  rw [later, List.foldl_append]
  rfl

theorem attached_concat_iff {o : Operation} :
    Attached l (ops ++ [o]) place ↔ Attached l ops place ∨ Attaches (later l ops) o place := by
  constructor
  · rintro ⟨before, p, rest, h, hp⟩
    rcases List.eq_nil_or_concat rest with rfl | ⟨rest, q, rfl⟩
    · obtain ⟨rfl, ho⟩ := List.append_inj' h rfl
      cases ho
      exact Or.inr hp
    · rw [List.concat_eq_append, ← List.cons_append, ← List.append_assoc] at h
      obtain ⟨rfl, -⟩ := List.append_inj' h rfl
      exact Or.inl ⟨before, p, rest, rfl, hp⟩
  · rintro (⟨before, p, rest, rfl, hp⟩ | ho)
    · exact ⟨before, p, rest ++ [o], by rw [List.append_assoc, List.cons_append], hp⟩
    · exact ⟨ops, o, [], rfl, ho⟩

/-- **What is remembered are the places of the loads that have succeeded**, each of them once. The
induction is on the run, from its end. -/
theorem mem_sources_iff (hn : l.state.sources = []) (ops : List Operation) :
    (later l ops).state.sources.Nodup ∧
      ∀ place, place ∈ (later l ops).state.sources ↔ Attached l ops place := by
  induction ops using List.reverseRecOn with
  | nil =>
    have hs : (later l []).state.sources = [] := hn
    rw [hs]
    refine ⟨List.nodup_nil, fun place => iff_of_false List.not_mem_nil ?_⟩
    rintro ⟨before, o, rest, h, -⟩
    exact List.append_ne_nil_of_right_ne_nil before (List.cons_ne_nil o rest) h.symm
  | append_singleton ops o ih =>
    obtain ⟨hn, hm⟩ := sources_after ih.1 o
    rw [later_concat]
    refine ⟨hn, fun place => ?_⟩
    rw [hm, ih.2, attached_concat_iff]

/-- What a registry does with its files at the end of a run of operations. -/
structure LoadsOnce (l : Logged (Registry σ)) (ops : List Operation) : Prop where
  /-- The places of the loads that have succeeded are remembered, and nothing else. -/
  mem_sources : ∀ place, place ∈ (later l ops).state.sources ↔ Attached l ops place
  nodup : (later l ops).state.sources.Nodup
  /-- A path that leads nowhere is an error, whatever was loaded under it, and changes nothing. -/
  astray : ∀ f path fault, f.canonical path = .error fault →
    (loadFile f path).run.run (later l ops) = (.error (.ofFile path fault), later l ops)
  /-- A load of a place that is remembered succeeds, whatever the file holds, and is noted. -/
  again : ∀ f path place, f.canonical path = .ok place → Attached l ops place →
    (loadFile f path).run.run (later l ops) =
      (.ok (), (later l ops).noting (alreadyLoadedNote path))
  /-- A load of another place reads the file as it is now. -/
  afresh : ∀ f path place, f.canonical path = .ok place → ¬Attached l ops place →
    (loadFile f path).run.run (later l ops) = (attaching f path place).run.run (later l ops)
  /-- A load that fails leaves nothing behind but statements that were made ready, and its place is
  not remembered. -/
  failed : ∀ f path e, ((loadFile f path).run.run (later l ops)).1 = .error e →
    Prepares (later l ops).state ((loadFile f path).run.run (later l ops)).2.state ∧
      ∀ place, f.canonical path = .ok place → ¬Attached l (ops ++ [.loadFile f path]) place
  /-- The place of a load that succeeds is remembered. -/
  succeeded : ∀ f path, ((loadFile f path).run.run (later l ops)).1 = .ok () →
    ∃ place, f.canonical path = .ok place ∧ Attached l (ops ++ [.loadFile f path]) place

/-- Whatever the engine is, a registry that remembers no place to begin with loads every file
once. -/
theorem loadsOnce_of_sources (hn : l.state.sources = []) (ops : List Operation) :
    LoadsOnce l ops := by
  obtain ⟨hd, hs⟩ := mem_sources_iff hn ops
  refine ⟨hs, hd, fun f path fault h => run_loadFile_of_error h _,
    fun f path place hc ha => run_loadFile_of_mem hc ((hs place).mpr ha),
    fun f path place hc ha => run_loadFile_of_not_mem hc (mt (hs place).mp ha),
    fun f path e he => ?_, fun f path hk => ?_⟩
  · rcases run_loadFile_cases f path (later l ops) with ⟨_, -, hr⟩ | ⟨_, -, hk, -⟩
    · refine ⟨hr, fun place hc ha => ?_⟩
      rcases attached_concat_iff.mp ha with ha | ⟨_, _, ⟨⟩, -, hk⟩
      · rw [run_loadFile_of_mem hc ((hs place).mpr ha)] at he
        cases he
      · rw [hk] at he
        cases he
    · rw [hk] at he
      cases he
  · rcases sources_loadFile f path (later l ops) with ⟨_, he, -⟩ | ⟨place, hc, -⟩
    · rw [hk] at he
      cases he
    · exact ⟨place, hc, attached_concat_iff.mpr (Or.inr ⟨f, path, rfl, hc, hk⟩)⟩

theorem Opened.sources {r : Registry} (h : Opened r) : r.sources = [] := by
  obtain ⟨config, files, c, session, -, -, rfl⟩ := h.cases
  rfl

/-- **Every file is loaded once.** In every run on a registry that has loaded none, over whatever
engine, whatever else is done and whatever becomes of the files, the registry remembers the places
whose load has succeeded. Under every spelling of a path to one of them a load succeeds and changes
nothing, so the queries of a file are not added twice and their names do not collide with
themselves. A load that has failed is made again from the file as it is by then. A registry that is
opened has loaded no file, and its data are as they were after a load that has failed. -/
theorem loads_once :
    (∀ {σ : Type} [Engine σ] (l : Logged (Registry σ)), l.state.sources = [] →
      ∀ ops, LoadsOnce l ops) ∧
    ∀ l : Logged Registry, Opened l.state → ∀ ops, LoadsOnce l ops ∧
      ∀ f path e, ((loadFile f path).run.run (later l ops)).1 = .error e →
        Restored (later l ops).state ((loadFile f path).run.run (later l ops)).2.state := by
  refine ⟨fun l hn ops => loadsOnce_of_sources hn ops, fun l ho ops => ?_⟩
  have h := loadsOnce_of_sources ho.sources ops
  exact ⟨h, fun f path e he => (h.failed f path e he).1.restored⟩

/-! ### A file that is repaired, removed and replaced -/

/-- A directory with one file. -/
def holding (text : String) : Files := ⟨"/", [(["q"], .bytes (Files.bytesOf text))]⟩

theorem components_plain : Files.components "q" = ["q"] ∧ "q".contains '\x00' = false := by
  constructor
  · cbv
  · cbv

theorem canonical_holding (text : String) :
    (holding text).canonical "q" = .ok ["q"] ∧ (holding text).canonical "./q" = .ok ["q"] := by
  have hd : Files.components "./q" = [".", "q"] ∧ "./q".contains '\x00' = false := by
    constructor
    · cbv
    · cbv
  constructor
  · rw [Files.canonical, components_plain.1, components_plain.2]
    rfl
  · rw [Files.canonical, hd.1, hd.2]
    rfl

theorem canonical_nothing : (⟨"/", []⟩ : Files).canonical "q" = .error .notFound := by
  rw [Files.canonical, components_plain.1, components_plain.2]
  rfl

def misspelt : String := "-- :name codes :list\nselect c frm t\n"

def corrected : String := "-- :name codes :list\nselect c from t\n"

/-- A file is loaded that is wrong, loaded again once it has been corrected, and looked for once it
is gone. -/
def repaired : List Operation :=
  [.loadFile (holding misspelt) "q", .loadFile (holding corrected) "q", .loadFile ⟨"/", []⟩ "q"]

/-- Once a file that was repaired has been replaced by one that is none, its queries are still there
and a load of it succeeds. -/
theorem loads_once_repaired :
    LoadsOnce (inMemory distinctSchema) repaired ∧
      (later (inMemory distinctSchema) repaired).state.names = ["codes"] ∧
      ((loadFile (holding "select") "./q").run.run
        (later (inMemory distinctSchema) repaired)).1 = .ok () := by
  have ho : Opened (inMemory distinctSchema).state := opened_inMemory (by decide +kernel)
  let wrong := (attaching (holding misspelt) "q" ["q"]).run.run (inMemory distinctSchema)
  let right := (attaching (holding corrected) "q" ["q"]).run.run wrong.2
  obtain ⟨hs, hs', hk, hn⟩ : ["q"] ∉ (inMemory distinctSchema).state.sources ∧
      ["q"] ∉ wrong.2.state.sources ∧ ["q"] ∈ right.2.state.sources ∧
      right.2.state.names = ["codes"] := by
    decide +kernel
  have hw : (Operation.loadFile (holding misspelt) "q").after (inMemory distinctSchema) = wrong.2 :=
    congrArg Prod.snd (run_loadFile_of_not_mem (canonical_holding misspelt).1 hs)
  have hr : (Operation.loadFile (holding corrected) "q").after wrong.2 = right.2 :=
    congrArg Prod.snd (run_loadFile_of_not_mem (canonical_holding corrected).1 hs')
  have hg : (Operation.loadFile ⟨"/", []⟩ "q").after right.2 = right.2 :=
    after_loadFile_of_error canonical_nothing right.2
  have hl : later (inMemory distinctSchema) repaired = right.2 := by
    calc later (inMemory distinctSchema) repaired
        = (Operation.loadFile ⟨"/", []⟩ "q").after
            ((Operation.loadFile (holding corrected) "q").after
              ((Operation.loadFile (holding misspelt) "q").after (inMemory distinctSchema))) := rfl
      _ = right.2 := by rw [hw, hr, hg]
  have h := (loads_once.2 _ ho repaired).1
  refine ⟨h, by rw [hl, hn], ?_⟩
  rw [h.again _ _ _ (canonical_holding "select").2 ((h.mem_sources _).mp (by rw [hl]; exact hk))]

end Registry

end NamedSql
