import NamedSql.Log.Event

/-!
# Captured events

A buffer that keeps events, in the order in which they were logged, for checks on what an
operation has logged.

## Main definitions

* `Capture` — the kept events
* `Capture.eventsFor`, `Capture.countLevel`, `Capture.hasEvent` — what can be asked of them
* `Capture.missing` — the wording for an event that was expected and is not there

## Main results

* `Capture.eventsFor_record`, `Capture.countLevel_record` — what keeping more events adds to the
  answers
-/

namespace NamedSql.Log

/-- The events kept so far, the first logged first. Nothing but what is handed to it gets in. -/
structure Capture where
  events : List Event
deriving DecidableEq, Repr

namespace Capture

/-- A buffer without events. -/
def empty : Capture := ⟨[]⟩

/-- Keeps more events. -/
def record (c : Capture) (events : List Event) : Capture := ⟨c.events ++ events⟩

/-- The events of one operation, in the order in which they were logged; notes belong to none. -/
def eventsFor (c : Capture) (op : String) : List Event := c.events.filter (·.op? == some op)

/-- The number of events of a level. -/
def countLevel (c : Capture) (level : Level) : Nat := c.events.countP (·.level == level)

/-- Whether there is an event of an operation with a given bound, be it its start, its end or its
failure. -/
def hasEvent (c : Capture) (op phase : String) : Bool :=
  c.events.any fun e => e.op? == some op && e.phase? == some phase

/-- The complaint that an expected event is missing, with how many events there are. -/
def missing (c : Capture) (op phase : String) : String :=
  "Expected event op=" ++ op ++ " event=" ++ phase ++ " not found in " ++
    toString c.events.length ++ " captured events"

@[simp] theorem events_record (c : Capture) (events : List Event) :
    (c.record events).events = c.events ++ events := rfl

theorem eventsFor_record (c : Capture) (events : List Event) (op : String) :
    (c.record events).eventsFor op = c.eventsFor op ++ events.filter (·.op? == some op) := by
  simp [eventsFor]

theorem countLevel_record (c : Capture) (events : List Event) (level : Level) :
    (c.record events).countLevel level = c.countLevel level + events.countP (·.level == level) := by
  simp [countLevel]

end Capture

end NamedSql.Log
