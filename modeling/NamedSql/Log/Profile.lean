import NamedSql.Log.Filter

/-!
# Logging profiles

How a running program writes its events: as lines for readers, as JSON, or not at all. The profile
is chosen once; later choices have no effect.

## Main definitions

* `Profile` — the ways of writing
* `Output` — the way chosen, with the filter in force
* `Output.written` — what is written for an event
-/

namespace NamedSql.Log

/-- The ways of writing events, for those who develop a program and for those who run it. -/
inductive Profile where
  /-- Lines for readers, from debug upwards. -/
  | development
  /-- JSON, from info upwards. -/
  | production
  /-- Nothing. -/
  | test
deriving DecidableEq, Repr

/-- What is written for an event. -/
inductive Written where
  | line (text : String)
  | json (j : Json)
deriving Repr

/-- A chosen profile with the filter in force, or nothing if none was chosen. -/
structure Output where
  profile : Profile
  filter : Filter
deriving DecidableEq, Repr

namespace Output

/-- The output of the first profile that is chosen. The setting is the filter that the user asks
for; one that cannot be read is ignored, and the profile's own is taken for the application. -/
def choose (profiles : List Profile) (application : String) (setting : Option String) :
    Option Output :=
  profiles.head?.map fun profile =>
    let own := if profile = .development then 4 else 3
    ⟨profile, (setting.bind Filter.read?).getD ⟨[⟨some application, none, own⟩]⟩⟩

/-- The fields of an event in a line for readers. A message stands without its name. -/
def fieldsLine (e : Event) : String :=
  " ".intercalate (e.fields.map fun f =>
    if f.1 = Event.messageKey then f.2.toText else f.1 ++ "=" ++ f.2.toLine)

/-- What is written for an event of a target: nothing, if the filter keeps it back or the profile
writes nothing at all. -/
def written (out : Output) (target : String) (e : Event) : Option Written :=
  if !out.filter.allows target e then none
  else
    match out.profile with
    | .development => some (.line (e.level.name ++ " " ++ target ++ ": " ++ fieldsLine e))
    | .production =>
      some (.json (.object [("level", .text e.level.name),
        ("fields", .object (e.fields.map fun f => (f.1, f.2.toJson))), ("target", .text target)]))
    | .test => none

end Output

end NamedSql.Log
