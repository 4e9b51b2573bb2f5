import NamedSql.Sql.Resolution

/-!
# Kinds of plans

What a statement can be resolved to, as far as transactions are concerned. Some statements steer the
connection: they begin or end transactions, or are pragmas. None of them writes to a table. All
other statements leave the beginning of transactions and the journal mode to those; an open
transaction they can only end by failing.

## Main definitions

* `Statement.isSteering` — statements about the connection
* `Plan.isSteering` — plans that begin or end transactions, or change how they are secured
* `Resolve.Yields` — what holds of everything that a search for names may come to

## Main results

* `Names.writes_of_resolve` — statements about the connection write to no table
* `Names.isSteering_of_resolve` — no other statement steers the connection
-/

namespace NamedSql.Sql

/-- Whether a statement is about the connection and not about tables. -/
def Statement.isSteering : Statement → Bool
  | .control _ | .pragma .. => true
  | _ => false

/-- Whether a plan begins or ends a transaction, or changes how transactions are secured. -/
def Plan.isSteering : Plan → Bool
  | .control _ | .journalMode _ => true
  | _ => false

namespace Resolve

variable {α β : Type} {P : α → Prop}

/-- Whatever the search for names may come to has a property. -/
def Yields (P : α → Prop) (x : Resolve α) : Prop := ∀ w a w', x.run w = .ok (a, w') → P a

theorem yields_pure {a : α} (h : P a) : Yields P (pure a) := by
  intro w b w' hb
  cases hb
  exact h

theorem yields_throw (f : Fault) : Yields P (throw f) := by
  intro w b w' hb
  cases hb

theorem yields_bind {x : Resolve β} {f : β → Resolve α} (h : ∀ b, Yields P (f b)) :
    Yields P (x >>= f) := by
  intro w a w' ha
  rw [StateT.run_bind] at ha
  cases hx : x.run w with
  | error e =>
    rw [hx] at ha
    cases ha
  | ok p =>
    rw [hx] at ha
    exact h p.1 p.2 a w' ha

/-- What waits until the end of the search decides only whether it fails. -/
theorem Yields.of_start {x : Resolve α} (hx : Yields P x) {a : α} (h : start x = .ok a) : P a := by
  have hs : start x =
      Prod.fst <$> (x >>= fun a => finish >>= fun _ => pure a : Resolve α).run ⟨none, none⟩ := rfl
  rw [hs, StateT.run_bind] at h
  cases hr : x.run ⟨none, none⟩ with
  | error e =>
    rw [hr] at h
    cases h
  | ok p =>
    rw [hr] at h
    change Prod.fst <$> (finish >>= fun _ => pure p.1 : Resolve α).run p.2 = .ok a at h
    rw [StateT.run_bind] at h
    cases hf : finish.run p.2 with
    | error e =>
      rw [hf] at h
      cases h
    | ok q =>
      rw [hf] at h
      cases h
      exact hx ⟨none, none⟩ p.1 p.2 hr

end Resolve

namespace Names

open Resolve

variable {n : Names} {s : Statement} {r : Resolved}

theorem yields_statement (n : Names) (hs : s.isSteering = false) :
    Yields (fun r => r.plan.isSteering = false) (n.statement s) := by
  cases s with
  | control c => cases hs
  | pragma name value => cases hs
  | _ =>
    simp only [Names.statement, Names.insert, Names.update, Names.delete, Names.createTable,
      Names.extendTable]
    -- Every branch fails or ends with a plan of its own kind.
    repeat' first
      | with_reducible exact yields_pure rfl
      | with_reducible exact yields_throw _
      | with_reducible refine yields_bind fun _ => ?_
      | split

/-- A statement that is not about the connection does not steer it. -/
theorem isSteering_of_resolve (hs : s.isSteering = false) (h : n.resolve s = .ok r) :
    r.plan.isSteering = false :=
  (n.yields_statement hs).of_start h

/-- A statement about the connection writes to no table. -/
theorem writes_of_resolve (hs : s.isSteering = true) (h : n.resolve s = .ok r) :
    r.plan.writes = false := by
  cases s with
  | control c =>
    cases h
    rfl
  | pragma name value =>
    change start (pure (n.pragma name value)) = .ok r at h
    rw [start_pure, pragma] at h
    cases h
    repeat' split
    all_goals rfl
  | _ => cases hs

end Names

end NamedSql.Sql
