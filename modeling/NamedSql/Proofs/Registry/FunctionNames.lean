import NamedSql.Proofs.Registry.Reachable
import NamedSql.Proofs.Sql.Callable

/-!
# Names of functions

A registry remembers which names of functions are taken, folded to lower case and in a list of its
own; the functions themselves are on the connection. The engine would take a second function of one
name, in the place of the first one or beside it, so that what a call means would depend on what was
registered when. The list of the registry is what keeps that from happening.

## Main definitions

* `Registry.RemembersFunctions` — the registry has the names of the functions of the engine, once
  each

## Main results

* `Registry.RemembersFunctions.addFunction` — one more function under a free name
* `Registry.Reachable.remembersFunctions`, `Registry.Reachable.distinct` — every reachable registry
  remembers its functions, whose names differ therefore
-/

namespace NamedSql

open Registry

/-! ### Opening -/

namespace Files

variable {f : Files} {l : Sql.Location} {p : Sql.Connection × Files}

theorem functions_connect (f : Files) (l : Sql.Location) (place : Place)
    (journal : Sql.JournalMode) (spills : Bool) (d : Sql.Database) :
    (f.connect l place journal spills d).1.functions = [] := by
  rw [connect]
  dsimp only
  split <;> rfl

theorem functions_openAt {place : Place} (h : f.openAt l place = some p) :
    p.1.functions = [] := by
  simp only [openAt, openAt.create] at h
  repeat' split at h
  all_goals first
    | contradiction
    | exact Option.some.inj h ▸ rfl
    | exact Option.some.inj h ▸ functions_connect ..

theorem functions_openDatabase (h : f.openDatabase l = some p) : p.1.functions = [] := by
  obtain ⟨q, ho, rfl⟩ := Option.map_eq_some_iff.mp h
  change q.1.functions = []
  split at ho
  · cases ho
    rfl
  · split at ho
    · cases ho
      rfl
    · obtain ⟨place, -, ho⟩ := Option.bind_eq_some_iff.mp ho
      exact functions_openAt ho

end Files

namespace Registry

variable {r : Registry}

/-- There are no functions on a connection that has just been opened and configured. -/
theorem functions_configure {location : String} {f files : Files} {c c' : Sql.Connection}
    {outcome : Except Error Unit} (ho : Sql.Connection.openAt location f = .ok (c, files))
    (hc : c.configure = (c', outcome)) : c'.functions = [] := by
  have hf : c.functions = [] := by
    rw [Sql.Connection.openAt] at ho
    split at ho
    · cases ho
    · split at ho
      · rename_i h
        cases ho
        exact Files.functions_openDatabase h
      · cases ho
  have hj := Sql.Connection.keeps_journalMode { c with foreignKeys := true } (some "WAL")
  rw [Sql.Connection.configure] at hc
  dsimp only at hc
  split at hc
  · cases hc
    exact hj.functions.trans hf
  · cases hc
    exact hj.functions.trans hf

/-- A registry is opened without functions. -/
theorem Opened.functions {r : Registry} (h : Opened r) :
    r.functions = [] ∧ r.session.connection.functions = [] := by
  obtain ⟨config, files, c, session, ⟨c₀, files₀, ho, hc⟩, hr, rfl⟩ := h.cases
  have hs := preserves_runSchema (P := fun s => s.connection.functions = [])
    (fun sql hs => (Sql.Session.functions_runBatch _ sql).trans hs)
    (functions_configure ho hc : (Sql.Session.new c leastCapacity).connection.functions = [])
    config files
  rw [hr] at hs
  exact ⟨rfl, hs⟩

/-! ### The registry and the engine -/

/-- The names that a registry has are those of the functions of the engine, in order, and none of
them stands there twice. -/
structure RemembersFunctions (r : Registry) : Prop where
  names : r.functions = r.session.connection.functions.map (Sql.Token.fold ·.name)
  nodup : r.functions.Nodup

namespace RemembersFunctions

/-- A name that is free in the registry is that of no function of the engine. -/
theorem sameName_eq_false {name : String} (h : RemembersFunctions r)
    (hf : r.hasFunction name = false) :
    ∀ g ∈ r.session.connection.functions, Sql.Token.sameName g.name name = false := by
  intro g hg
  rw [hasFunction, h.names, List.contains_eq_mem, decide_eq_false_iff_not] at hf
  rw [Sql.Token.sameName, beq_eq_false_iff_ne]
  exact fun he => hf (he ▸ List.mem_map_of_mem hg)

/-- The names of the functions differ by more than the case of letters. -/
theorem distinct (h : RemembersFunctions r) :
    Sql.Function.Distinct r.session.connection.functions := by
  have hn := h.nodup
  rw [h.names, List.Nodup, List.pairwise_map] at hn
  exact hn.imp fun hne => beq_eq_false_iff_ne.mpr hne

/-- A function under a free name comes behind the others, there and here. -/
theorem functions_addFunction {f : Sql.Function} (h : RemembersFunctions r)
    (hf : r.hasFunction f.name = false) :
    (r.addFunction f).session.connection.functions = r.session.connection.functions ++ [f] :=
  Sql.Connection.functions_addFunction (h.sameName_eq_false hf)

theorem addFunction {f : Sql.Function} (h : RemembersFunctions r)
    (hf : r.hasFunction f.name = false) : RemembersFunctions (r.addFunction f) where
  names := by
    rw [h.functions_addFunction hf, List.map_append, ← h.names]
    rfl
  nodup := by
    rw [hasFunction, List.contains_eq_mem, decide_eq_false_iff_not] at hf
    exact List.nodup_append.mpr ⟨h.nodup, List.pairwise_singleton _ _, fun a ha b hb he =>
      hf (List.mem_singleton.mp hb ▸ he ▸ ha)⟩

theorem of_eq {r' : Registry} (h : RemembersFunctions r) (hn : r'.functions = r.functions)
    (hf : r'.session.connection.functions = r.session.connection.functions) :
    RemembersFunctions r' where
  names := by rw [hn, hf, h.names]
  nodup := hn ▸ h.nodup

end RemembersFunctions

theorem Effect.functions {r' : Registry} (h : Effect r r') :
    r'.functions = r.functions ∧
      r'.session.connection.functions = r.session.connection.functions := by
  cases h with
  | executed i => exact ⟨rfl, Sql.Session.functions_call _ _ _⟩
  | controlled command => exact ⟨rfl, Sql.Session.functions_control _ command⟩
  | counted depth rollbackOnly => exact ⟨rfl, rfl⟩

/-- Calls and units of work leave the functions alone. -/
theorem Effects.functions {r' : Registry} (h : Effects r r') :
    r'.functions = r.functions ∧
      r'.session.connection.functions = r.session.connection.functions := by
  induction h with
  | refl => exact ⟨rfl, rfl⟩
  | tail _ he ih => exact ⟨he.functions.1.trans ih.1, he.functions.2.trans ih.2⟩

theorem Opened.remembersFunctions (h : Opened r) : RemembersFunctions r where
  names := by rw [h.functions.1, h.functions.2, List.map_nil]
  nodup := h.functions.1 ▸ List.nodup_nil

/-- **Every reachable registry remembers the functions of the engine**, and only those. -/
theorem Reachable.remembersFunctions (h : Reachable r) : RemembersFunctions r :=
  h.preserves (fun hg hr => hr.of_eq hg.untouched.functions hg.untouched.callable)
    (fun _ hf hr => hr.addFunction hf)
    (fun he hr => hr.of_eq he.functions.1 he.functions.2) Opened.remembersFunctions

/-- The functions that can be called on a reachable registry have different names. -/
theorem Reachable.distinct (h : Reachable r) :
    Sql.Function.Distinct r.session.connection.functions :=
  h.remembersFunctions.distinct

end Registry

end NamedSql
