import NamedSql.Log.Event

/-!
# Spans

The operations of a run as a tree: what was done, what was done inside of it, and with what error it
has ended, if with one. A log is read as the events at the bounds of the operations, which a tree
determines, and the notes in between, which belong to no operation. So a log that comes of a tree is
well nested: it can be read with a stack of open operations, each of which is closed by an event of
its own before any that was open before it.

## Main definitions

* `Span`, `Span.events` — an operation with what is inside of it, and the events at the bounds
* `bounds` — the events of a log that stand at the bounds of operations
* `follow`, `WellNested` — reading a log with a stack of open operations

## Main results

* `Span.tells` — what the last event of an operation says
* `Span.foldlM_follow_eventsAll` — the events of operations leave the open ones as they are
* `wellNested_of_bounds` — a log whose bounds are those of operations is well nested
-/

namespace NamedSql.Log

/-! ### Operations and their events -/

/-- An operation: its name, the fields of its first event, those of its last event if it ends well,
the operations inside of it, and the error that it returns if it does not end well. -/
inductive Span where
  | mk (op : String) (first last : List (String × FieldValue)) (inside : List Span)
    (error? : Option Error)

namespace Span

/-- The error that an operation returns, if it returns one. -/
def error? : Span → Option Error
  | mk _ _ _ _ error? => error?

/-- The name of an operation. -/
def op : Span → String
  | mk op _ _ _ _ => op

/-- The event that closes an operation. -/
def closing (component op : String) (last : List (String × FieldValue)) :
    Option Error → Event
  | none => .opEnd component op 0 last
  | some e => .opError component op e 0 []

/-- The last event of an operation. -/
def lastEvent (component : String) : Span → Event
  | mk op _ last _ error? => closing component op last error?

mutual

/-- The events at the bounds of an operation and of those inside of it. -/
def events (component : String) : Span → List Event
  | mk op first last inside error? =>
    .opStart component op first ::
      (eventsAll component inside ++ [closing component op last error?])

/-- The events at the bounds of operations, one after another. -/
def eventsAll (component : String) : List Span → List Event
  | [] => []
  | s :: rest => s.events component ++ eventsAll component rest

end

theorem eventsAll_append (component : String) (spans rest : List Span) :
    eventsAll component (spans ++ rest) =
      eventsAll component spans ++ eventsAll component rest := by
  induction spans with
  | nil => rfl
  | cons s spans ih => rw [List.cons_append, eventsAll, eventsAll, ih, List.append_assoc]

@[simp] theorem eventsAll_nil (component : String) : eventsAll component [] = [] := rfl

@[simp] theorem eventsAll_singleton (component : String) (s : Span) :
    eventsAll component [s] = s.events component := List.append_nil _

/-- What the last event of an operation says: that it has ended well, or which error it has
returned. -/
structure Tells (component : String) (s : Span) : Prop where
  op : (s.lastEvent component).op? = some s.op
  done : (s.lastEvent component).phase? = some Phase.done.name ↔ s.error? = none
  failed : ∀ e, s.error? = some e →
    (s.lastEvent component).phase? = some Phase.failed.name ∧
    (s.lastEvent component).field? FieldName.errKind.key = some e.kind.name ∧
    (s.lastEvent component).field? FieldName.errCode.key = some e.code ∧
    (s.lastEvent component).field? "error" = some e.message

theorem tells (component : String) : ∀ s : Span, Tells component s
  | mk _ _ _ _ none => ⟨rfl, iff_of_true rfl rfl, nofun⟩
  | mk _ _ _ _ (some e) =>
    { op := rfl
      done := by
        have hn : some Phase.failed.name ≠ some Phase.done.name := by decide
        exact iff_of_false hn nofun
      failed := by
        rintro _ ⟨⟩
        exact ⟨rfl, rfl, rfl, rfl⟩ }

end Span

/-! ### The bounds in a log -/

/-- The events that stand at the bounds of operations. -/
def bounds (events : List Event) : List Event := events.filter (·.op?.isSome)

theorem bounds_append (events rest : List Event) :
    bounds (events ++ rest) = bounds events ++ bounds rest := List.filter_append ..

theorem op?_closing (component op : String) (last : List (String × FieldValue))
    (error? : Option Error) : (Span.closing component op last error?).op? = some op := by
  cases error? <;> rfl

/-- Whether an event is a note, which belongs to no operation. -/
def Event.isNote (e : Event) : Bool := e.op?.isNone

theorem bounds_cons_of_op {e : Event} {op : String} (h : e.op? = some op) (events : List Event) :
    bounds (e :: events) = e :: bounds events :=
  List.filter_cons_of_pos (by rw [h]; rfl)

theorem bounds_cons_of_isNote {e : Event} (h : e.isNote = true) (events : List Event) :
    bounds (e :: events) = bounds events :=
  List.filter_cons_of_neg (by rw [Option.isNone_iff_eq_none.mp h]; exact Bool.false_ne_true)

/-! ### Well-nested logs -/

/-- Reads an event while operations are open, the one opened last at the front: an operation starts,
or the one opened last ends. What belongs to no operation is passed over. -/
def follow (opened : List String) (e : Event) : Option (List String) :=
  match e.op? with
  | none => some opened
  | some op =>
    if e.phase? = some Phase.start.name then some (op :: opened)
    else if e.phase? = some Phase.done.name ∨ e.phase? = some Phase.failed.name then
      match opened with
      | [] => none
      | top :: rest => if top = op then some rest else none
    else none

/-- A log in which every operation that starts is closed by an event of its own, before any that was
open before it. -/
def WellNested (events : List Event) : Prop := events.foldlM follow [] = some []

theorem follow_opStart (opened : List String) (component op : String)
    (first : List (String × FieldValue)) :
    follow opened (.opStart component op first) = some (op :: opened) := by
  rw [follow]
  exact if_pos rfl

theorem follow_closing (opened : List String) (component op : String)
    (last : List (String × FieldValue)) (error? : Option Error) :
    follow (op :: opened) (Span.closing component op last error?) = some opened := by
  have hs : (Span.closing component op last error?).phase? ≠ some Phase.start.name := by
    cases error? <;> exact of_decide_eq_true rfl
  have he : (Span.closing component op last error?).phase? = some Phase.done.name ∨
      (Span.closing component op last error?).phase? = some Phase.failed.name := by
    cases error? with
    | none => exact Or.inl rfl
    | some e => exact Or.inr rfl
  rw [follow, op?_closing]
  dsimp only
  rw [if_neg hs, if_pos he, if_pos rfl]

mutual

/-- The events of an operation leave the open ones as they are. -/
theorem Span.foldlM_follow_events (component : String) : ∀ (s : Span) (opened : List String),
    (s.events component).foldlM follow opened = some opened
  | mk op first last inside error?, opened => by
    rw [Span.events, List.foldlM_cons, follow_opStart, Option.bind_eq_bind, Option.bind_some,
      List.foldlM_append, Span.foldlM_follow_eventsAll component inside, Option.bind_eq_bind,
      Option.bind_some, List.foldlM_cons, follow_closing]
    rfl

theorem Span.foldlM_follow_eventsAll (component : String) :
    ∀ (spans : List Span) (opened : List String),
      (Span.eventsAll component spans).foldlM follow opened = some opened
  | [], _ => rfl
  | s :: rest, opened => by
    rw [Span.eventsAll, List.foldlM_append, s.foldlM_follow_events component,
      Option.bind_eq_bind, Option.bind_some, Span.foldlM_follow_eventsAll component rest]

end

/-- Notes do not count for the nesting. -/
theorem foldlM_follow_bounds (events : List Event) (opened : List String) :
    (bounds events).foldlM follow opened = events.foldlM follow opened := by
  induction events generalizing opened with
  | nil => rfl
  | cons e events ih =>
    cases ho : e.op? with
    | none =>
      rw [bounds_cons_of_isNote (Option.isNone_iff_eq_none.mpr ho), List.foldlM_cons, follow, ho]
      exact ih opened
    | some op =>
      rw [bounds_cons_of_op ho, List.foldlM_cons, List.foldlM_cons]
      exact congrArg (follow opened e).bind (funext ih)

/-- A log that has gained the events of operations is still well nested. -/
theorem wellNested_of_bounds {events events' : List Event} {component : String}
    {spans : List Span}
    (hb : bounds events' = bounds events ++ Span.eventsAll component spans)
    (h : WellNested events) : WellNested events' := by
  rw [WellNested, ← foldlM_follow_bounds] at h ⊢
  rw [hb, List.foldlM_append, h]
  exact Span.foldlM_follow_eventsAll component spans []

end NamedSql.Log
