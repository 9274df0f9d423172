import EntityDiagram.Generation.Failure
import EntityDiagram.Settings.Basic

/-!
# What a run works on

A run works on a file tree from a directory of its own, reads its settings from the environment, and
reports on the way. All of that is one value, a `Workspace`, and `Work` is a computation that takes
a workspace to a workspace, with a result or a failure. A failure does not undo what was done before
it: the workspace stays as it was when the work failed. What may come from outside and keep a file
from being read or written is part of the workspace too, so a run can fail at every file.

Settings are read once. They are kept from the first time they are asked for until they are
forgotten, and a change of the environment in between does not show; invalid settings are not kept.
-/

namespace EntityDiagram

structure Workspace where
  tree : FileTree
  here : Location
  unreadable : List Location := []
  /-- What keeps the file that a path leads to from being written, if anything does. -/
  obstacle? : Path → Option FileTree.Obstacle := fun _ => none
  environment : Environment := []
  settings : Option Settings := none
  /-- The current day, year first. -/
  today : Text
  log : Log := []

abbrev Work := ExceptT Failure (StateM Workspace)

namespace Workspace

/-- The directory that relative paths are seen from, as a path. -/
def herePath (w : Workspace) : Path := ⟨.root, w.here⟩

def envFile : Path := ⟨.here, [".env"]⟩

/-- The text of the environment file, if there is one. -/
def envFileText (w : Workspace) : Except Failure (Option Text) :=
  match w.tree.read w.here envFile with
  | .error _ => .ok none
  | .ok bytes => match Utf8.decodeStrict bytes with
    | .error f => .error (.settingsEncoding f)
    | .ok text => .ok (some (Utf8.unifyLineEnds text))

def readSettings (w : Workspace) : Except Failure Settings :=
  match w.envFileText with
  | .error f => .error f
  | .ok text => match Settings.read w.environment text with
    | .error issues => .error (.settings issues)
    | .ok settings => .ok settings

end Workspace

namespace Work

/-- What work comes to in a workspace, and the workspace that it leaves. -/
def perform {α : Type} (work : Work α) (w : Workspace) : Except Failure α × Workspace :=
  StateT.run (ExceptT.run work) w

def ofExcept {α : Type} (result : Except Failure α) : Work α :=
  match result with
  | .ok a => pure a
  | .error f => throw f

def report (records : Log) : Work Unit :=
  modify fun w => { w with log := w.log ++ records }

/-- The tree that an operation leaves, and its fault as a failure. -/
def change (operation : Workspace → FileTree × Option FileFault) : Work Unit := do
  let (tree, fault) := operation (← get)
  modify fun w => { w with tree }
  match fault with
  | none => pure ()
  | some f => throw (.file f)

/-- The settings, read now unless they were read before. -/
def settings : Work Settings := do
  let w ← get
  match w.settings with
  | some settings => pure settings
  | none =>
    let settings ← ofExcept w.readSettings
    modify fun w => { w with settings := some settings }
    pure settings

end Work
end EntityDiagram
