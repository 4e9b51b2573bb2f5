import NamedSql.Registry.Functions
import NamedSql.Registry.Loading
import NamedSql.Registry.Script

/-!
# Workspaces

A directory of files with at most one open registry, and the log of everything done. A registry
that is closed or replaced leaves in its file what it has committed.

## Main definitions

* `Workspace` — files, an open registry and a log
* `Workspace.open`, `Workspace.close` — opens and closes the registry
* `Workspace.act` — acts on the open registry
* `Workspace.consume` — what takes the registry and gives it back only if it succeeds

## Main results

* `Workspace.registry_close` — no registry is open after closing
* `Workspace.act_close` — nothing can be done without an open registry
-/

namespace NamedSql

/-- A directory of files with at most one open registry, and with the log of everything that has
been done there. -/
structure Workspace where
  files : Files
  registry : Option Registry
  /-- The name under which operations are logged. -/
  component : String
  events : List Log.Event

namespace Workspace

/-- A workspace without a registry, and with nothing logged yet. -/
def new (files : Files) (component : String) : Workspace := ⟨files, none, component, []⟩

/-- Closes the registry, if one is open. What its connection has committed to a file is in the file
then. -/
def close (w : Workspace) : Workspace :=
  match w.registry with
  | none => w
  | some r => { w with files := w.files.store r.session.connection, registry := none }

/-- Opens a registry in the place of the one that is open. -/
protected def «open» (w : Workspace) (config : Config) : Workspace × Except Error Unit :=
  let w := w.close
  let (result, l) := (Registry.open config).run.run ⟨w.files, w.component, w.events⟩
  let w := { w with files := l.state, events := l.events }
  match result with
  | .ok r => ({ w with registry := some r }, .ok ())
  | .error e => (w, .error e)

/-- Acts on the open registry; nothing is done if there is none. The registry is left as the action
leaves it, whether or not it has failed. -/
def act {α : Type} (w : Workspace) (action : Action Registry α) : Workspace × Option α :=
  match w.registry with
  | none => (w, none)
  | some r =>
    let (a, l) := action.run ⟨r, w.component, w.events⟩
    ({ w with registry := some l.state, events := l.events }, some a)

/-- Acts on the open registry, and closes it if that fails, as operations do that take a registry
over and give it back. -/
def consume {α : Type} (w : Workspace) (op : Op Registry α) : Workspace × Option (Except Error α) :=
  match w.act op.run with
  | (w, some (.error e)) => (w.close, some (.error e))
  | outcome => outcome

/-- Writes a text file. -/
def write (w : Workspace) (path text : String) : Workspace :=
  { w with files := w.files.write path (.bytes (Files.bytesOf text)) }

/-- Removes a file. -/
def remove (w : Workspace) (path : String) : Workspace :=
  { w with files := w.files.remove path }

/-- Whether there is a file. The files beside an open database are there as long as it is open. -/
def fileExists (w : Workspace) (path : String) : Bool :=
  w.files.contains path ||
    match w.registry, w.files.target path with
    | some r, .ok place => (Files.companions r.session.connection).contains place
    | _, _ => false

@[simp] theorem registry_close (w : Workspace) : w.close.registry = none := by
  unfold close
  split
  · assumption
  · rfl

theorem act_close {α : Type} (w : Workspace) (action : Action Registry α) :
    w.close.act action = (w.close, none) := by
  simp [act]

end Workspace

end NamedSql
