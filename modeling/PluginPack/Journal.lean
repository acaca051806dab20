import PluginPack.Error
import PluginPack.Project.Model

/-!
The workspace that packaging steps act on: the file tree, the journal of
messages the steps report on the way, and the projects read so far, which the
resolver reuses for every later read of the same coordinate text.

Steps run in `Step`, which carries the workspace as state and may fail with a
packaging error; a failure keeps the files written and the messages reported
before it.
-/

namespace PluginPack

inductive Level where
  | debug
  | info
  | warning
  | error
  deriving DecidableEq, Repr

def Level.name : Level → String
  | .debug => "DEBUG"
  | .info => "INFO"
  | .warning => "WARNING"
  | .error => "ERROR"

structure Note where
  level : Level
  text : String
  deriving Repr

/-- The state steps act on: the file tree, the journal, and the projects the resolver has read,
by the compact text of their coordinate. -/
structure Workspace where
  store : Files.Store
  notes : Array Note := #[]
  projects : List (String × Project.Model) := []
  deriving Inhabited

abbrev Step := ExceptT PackagingError (StateM Workspace)

def report (level : Level) (text : String) : Step Unit :=
  modify fun w => { w with notes := w.notes.push ⟨level, text⟩ }

def currentStore : Step Files.Store := do pure (← get).store

def Step.ofOutcome (x : Outcome α) : Step α :=
  match x with
  | .ok a => pure a
  | .error e => throw e

def setStore (s : Files.Store) : Step Unit := modify fun w => { w with store := s }

def alterStore (f : Files.Store → Except Files.FsError Files.Store) : Step Unit := do
  match f (← currentStore) with
  | .ok s => setStore s
  | .error e => throw (.fileSystem e)

def Step.run' (x : Step α) (w : Workspace) : Except PackagingError α × Workspace :=
  (ExceptT.run x).run w

def attempt (x : Step α) : Step (Except PackagingError α) := do
  let w ← get
  let (r, w') := x.run' w
  set w'
  pure r

end PluginPack
