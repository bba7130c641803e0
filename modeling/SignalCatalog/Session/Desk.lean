import SignalCatalog.Editing.Editor
import SignalCatalog.Files.Disk
import SignalCatalog.Generation.Script
import SignalCatalog.Session.Error
import SignalCatalog.Validation.Validator

/-!
# Sessions

A session is an editor with the file it belongs to and the version it was last stored with. It lies
on a desk together with the disk, what was asked of the host and told to it, and what was reported.
The world around gives the date, the host's answers and the runs of programs; it may be another one at
each operation.
-/

namespace SignalCatalog

/-- What a host answers when it is asked for a path. -/
structure Host where
  openPath : Option String
  savePath : Option String
  scriptPath : Option String
deriving DecidableEq, Repr

/-- The host that never answers. -/
def Host.silent : Host := ⟨none, none, none⟩

structure World where
  clock : Date
  host : Host
  runner : Runner

structure Session where
  editor : Editor
  /-- The file that the project was opened from or last saved to. -/
  file : Option String
  /-- The version that the project was last opened, saved or imported with. -/
  baseline : Option String
  /-- The date that counts as today, if it is not that of the clock. -/
  pinned : Option Date

/-- A call of the host. -/
inductive Call
  | askOpen
  | askSave (current : Option String)
  | askScript (kind : GeneratorKind)
  /-- The mark of unsaved changes has flipped. -/
  | modified (flag : Bool)
deriving DecidableEq, Repr

structure Desk where
  session : Session
  disk : Disk
  /-- In order. -/
  calls : List Call
  /-- In order. -/
  events : List Log.Event

/-- The result of an operation and the desk behind it. -/
abbrev Answer (α : Type) := Except SessionError α × Desk

namespace Session

/-- A session with a new project. -/
def start (world : World) : Session := ⟨.start (.template world.clock), none, none, none⟩

def project (session : Session) : Project := session.editor.project

def today (session : Session) (world : World) : Date := session.pinned.getD world.clock

/-- The issues of the project for today and the version it was last stored with. -/
def issues (session : Session) (world : World) : List Issue :=
  session.project.issues (session.today world) session.baseline

end Session

namespace Desk

/-- A new session beside a disk. -/
def start (world : World) (disk : Disk) : Desk := ⟨.start world, disk, [], []⟩

def project (desk : Desk) : Project := desk.session.project

def call (desk : Desk) (call : Call) : Desk := { desk with calls := desk.calls ++ [call] }

def onDisk (desk : Desk) (disk : Disk) : Desk := { desk with disk }

/-- Adds events that have been recorded. -/
def collect (desk : Desk) (events : List Log.Event) : Desk :=
  { desk with events := desk.events ++ events }

/-- Adds events and records them. -/
def report (desk : Desk) (events : List Log.Event) : Desk :=
  (desk.onDisk (desk.disk.record events)).collect events

/-- Goes on behind a change of the disk. -/
def behind (desk : Desk) (disk : Disk) (events : List Log.Event) : Desk :=
  (desk.onDisk disk).collect events

def withEditor (desk : Desk) (editor : Editor) : Desk :=
  { desk with session := { desk.session with editor } }

/-- Tells the host about the mark of unsaved changes if it has flipped. -/
def notify (desk : Desk) (flipped : Bool) : Desk :=
  if flipped then desk.call (.modified desk.session.editor.isModified) else desk

/-- Takes over a change of the editor that may have flipped the mark of unsaved changes. -/
def change (desk : Desk) (changed : Bool × Editor) : Desk :=
  (desk.withEditor changed.2).notify changed.1

/-- Installs a project with the file and the version it comes from, and forgets the history. -/
def install (desk : Desk) (project : Project) (file baseline : Option String) : Desk :=
  let (flipped, editor) := desk.session.editor.reset project
  { desk with session := { desk.session with editor, file, baseline } }.notify flipped

def warningEvent (issue : Issue) : Log.Event :=
  ⟨.warn, .editing, issue.message,
    [("code", .shown issue.code.text), ("field", .shown issue.field)]⟩

/-- Validates the project and reports the warnings. -/
def ensureValid (desk : Desk) (world : World) : Answer Unit :=
  let issues := desk.session.issues world
  let desk := desk.report (Issue.summary issues :: (Issue.warnings issues).map warningEvent)
  let errors := Issue.errors issues
  (if errors.isEmpty then .ok () else .error (.invalid errors), desk)

end Desk

end SignalCatalog
