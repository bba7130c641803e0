import SignalCatalog.Files.ProjectFile
import SignalCatalog.Session.Desk

/-!
# Opening and saving

A session that fails to open keeps its project; one that fails to save keeps its file. Only a valid
project is saved.
-/

namespace SignalCatalog.Desk

/-- Starts a new project without a file. -/
def newProject (desk : Desk) (world : World) : Desk :=
  (desk.install (.template (desk.session.today world)) none none).report
    [⟨.info, .editing, "Started new project", []⟩]

/-- Closes the project; a new one takes its place. -/
def closeProject (desk : Desk) (world : World) : Desk :=
  let closed := desk.session.file.map fun path =>
    (⟨.info, .editing, "Closed project", [("path", .shown path)]⟩ : Log.Event)
  (desk.report closed.toList).install (.template (desk.session.today world)) none none

/-- Opens a project file. -/
def openProject (desk : Desk) (world : World) (path : String) : Answer Unit :=
  match desk.disk.loadProject world.clock path with
  | (.error error, events) => (.error (.storage error), desk.report events)
  | (.ok project, events) =>
    (.ok (), (desk.report events).install project (some path) (some project.metadata.version))

/-- Opens the file that the host chooses, and tells whether it chose one. -/
def openChosen (desk : Desk) (world : World) : Answer Bool :=
  let desk := desk.call .askOpen
  match world.host.openPath with
  | none => (.ok false, desk)
  | some path =>
    let (result, desk) := desk.openProject world path
    (result.map fun () => true, desk)

/-- The desk whose project has been saved to a file. -/
def savedTo (desk : Desk) (path : String) : Desk :=
  let version := desk.project.metadata.version
  { desk with session := { desk.session with file := some path, baseline := some version } }.change
    desk.session.editor.saved

/-- Writes the project to a file, if it is valid. -/
def saveProject (desk : Desk) (world : World) (path : String) : Answer Unit :=
  match desk.ensureValid world with
  | (.error error, desk) => (.error error, desk)
  | (.ok (), desk) =>
    let desk := desk.withEditor desk.session.editor.startSave
    match desk.disk.saveProject desk.project path with
    | ((.error error, events), disk) =>
      (.error (.storage error),
        (desk.behind disk events).withEditor desk.session.editor.saveFailed)
    | ((.ok (), events), disk) => (.ok (), (desk.behind disk events).savedTo path)

/-- Saves to a file if there is one, and tells whether there is. -/
def saveChosen (desk : Desk) (world : World) : Option String → Answer Bool
  | none => (.ok false, desk)
  | some path =>
    let (result, desk) := desk.saveProject world path
    (result.map fun () => true, desk)

/-- Saves under another path, which the host chooses. -/
def saveAs (desk : Desk) (world : World) : Answer Bool :=
  (desk.call (.askSave desk.session.file)).saveChosen world world.host.savePath

/-- Saves to the file of the session, or asks the host for one. -/
def save (desk : Desk) (world : World) : Answer Bool :=
  match desk.session.file with
  | some path => desk.saveChosen world (some path)
  | none => desk.saveAs world

end SignalCatalog.Desk
