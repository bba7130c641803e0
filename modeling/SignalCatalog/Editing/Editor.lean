import SignalCatalog.Editing.Edit
import SignalCatalog.Editing.History
import SignalCatalog.Editing.Tracker
import SignalCatalog.Log.Event

/-!
# The editor

An editor holds a project with its history, a clipboard for one signal and the mark of unsaved
changes. Each accepted edit is one step of the history. Copying and pasting survive every step, also
the opening of another project.
-/

namespace SignalCatalog

/-- What can be asked of an editor. -/
inductive Command
  | edit (edit : Edit)
  | copySignal (name : String)
  | pasteSignal

namespace Command

def label : Command → String
  | .edit change => change.label
  | .copySignal _ => "copy_signal"
  | .pasteSignal => "paste_signal"

/-- Whether a command changes the project. -/
def isMutating : Command → Bool
  | .copySignal _ => false
  | _ => true

end Command

/-- A copied signal and the name that it was copied under. -/
structure Clipping where
  name : String
  signal : Signal

structure Editor where
  history : History Project
  clipboard : Option Clipping
  tracker : Tracker

/-- The direction of a step in the history. -/
inductive Direction
  | undo
  | redo
deriving DecidableEq, Repr

def Direction.word : Direction → String
  | undo => "undo"
  | redo => "redo"

/-- The message when there is no step in a direction. -/
def Direction.exhausted (direction : Direction) : String := "nothing to " ++ direction.word

namespace Editor

def start (project : Project) : Editor := ⟨.start project, none, .clean⟩

def project (editor : Editor) : Project := editor.history.current

def isModified (editor : Editor) : Bool := editor.tracker.dirty

/-- The editor with a new history; whether the mark of unsaved changes has flipped comes first. -/
def changed (editor : Editor) (history : History Project) : Bool × Editor :=
  let (flipped, tracker) := editor.tracker.markDirty
  (flipped, { editor with history, tracker })

def copy (editor : Editor) (name : String) : Except EditError Editor :=
  match editor.project.signals.get? name with
  | none => .error (.unknown .signal name)
  | some signal => .ok { editor with clipboard := some ⟨name, signal⟩ }

/-- Makes an edited project the current one. -/
def commit (editor : Editor) (project : Project) : Bool × Editor :=
  editor.changed (editor.history.commit project)

/-- Makes the result of an edit the current project, unless the edit is refused. -/
def run (editor : Editor) (edit : Edit) : Except EditError (Bool × Editor) :=
  (edit.apply editor.project).map editor.commit

/-- Runs a command and tells whether the mark of unsaved changes has flipped. -/
def apply (editor : Editor) : Command → Except EditError (Bool × Editor)
  | .edit change => editor.run change
  | .copySignal name => (editor.copy name).map fun editor => (false, editor)
  | .pasteSignal =>
    match editor.clipboard with
    | none => .error .nothingCopied
    | some clipping =>
      editor.run (.addSignal (editor.project.freeCopyName clipping.name) clipping.signal)

/-- The event of an accepted command; the editor is the one behind it. -/
def event (editor : Editor) (command : Command) : Log.Event :=
  match command with
  | .copySignal name => ⟨.debug, .editing, "Copied signal", [("signal", .shown name)]⟩
  | command =>
    ⟨.debug, .editing, "Applied command",
      [("command", .quoted command.label), ("undo_depth", .count editor.history.undoDepth)]⟩

/-- One step in the history. -/
def step (editor : Editor) (direction : Direction) : Option (Bool × Editor) :=
  (match direction with
    | .undo => editor.history.undo?
    | .redo => editor.history.redo?).map editor.changed

/-- The event of a step in the history; the editor is the one behind it. -/
def stepEvent (editor : Editor) (direction : Direction) : Log.Event :=
  ⟨.debug, .editing, match direction with | .undo => "Undo" | .redo => "Redo",
    [("undo_depth", .count editor.history.undoDepth),
      ("redo_depth", .count editor.history.redoDepth)]⟩

/-- Installs a project without a history. The clipboard stays. -/
def reset (editor : Editor) (project : Project) : Bool × Editor :=
  let (flipped, tracker) := editor.tracker.reset
  (flipped, { editor with history := .start project, tracker })

def startSave (editor : Editor) : Editor := { editor with tracker := editor.tracker.startSave }

/-- The project could not be saved. -/
def saveFailed (editor : Editor) : Editor := { editor with tracker := editor.tracker.saveFailed }

/-- The project has been saved. -/
def saved (editor : Editor) : Bool × Editor :=
  let (flipped, tracker) := editor.tracker.saved
  (flipped, { editor with tracker })

end Editor

end SignalCatalog
