import SignalCatalog.Generation.Artifact
import SignalCatalog.Session.Editing

/-!
# Workbooks and generated code in a session

An import is one step of the history and keeps the file, so that the next save overwrites it. Only a
valid project is exported or turned into code. A script that the host names is kept in the project,
also as a step of the history.
-/

namespace SignalCatalog.Desk

def findingEvent (finding : Finding) : Log.Event :=
  ⟨.warn, .editing, finding.message,
    [("sheet", .shown finding.sheet), ("row", .optional finding.row)]⟩

/-- Makes an imported project the current one; its version is the one to compare with. -/
def installImport (desk : Desk) (project : Project) : Answer Unit :=
  match desk.apply (.edit (.replaceProject project)) with
  | .error error => (.error (.edit error), desk)
  | .ok desk =>
    (.ok (), { desk with session :=
      { desk.session with baseline := some project.metadata.version } })

/-- Imports a workbook file and returns the imported project with the findings. -/
def importBook (desk : Desk) (world : World) (path : String) : Answer (Project × List Finding) :=
  match desk.disk.importBook (desk.session.today world) path with
  | (.error error, events) => (.error (.workbook error), desk.report events)
  | (.ok (project, findings), events) =>
    let (result, desk) := (desk.report (events ++ findings.map findingEvent)).installImport project
    (result.map fun () => (project, findings), desk)

/-- Writes the workbook of the project, if it is valid. -/
def exportBook (desk : Desk) (world : World) (path : String) : Answer Unit :=
  match desk.ensureValid world with
  | (.error error, desk) => (.error error, desk)
  | (.ok (), desk) =>
    let ((result, events), disk) := desk.disk.exportBook desk.project path
    (result.mapError .workbook, desk.behind disk events)

/-- The script for a kind. If none is found, the host is asked, and its answer becomes part of the
project. -/
def resolveScript (desk : Desk) (world : World) (kind : GeneratorKind) (asked : Option String) :
    Answer String :=
  match desk.disk.locateScript? kind asked desk.project with
  | some path => (.ok path, desk)
  | none =>
    let desk := desk.call (.askScript kind)
    match world.host.scriptPath.filter desk.disk.isFile with
    | none => (.error (.generation (.noScript kind asked)), desk)
    | some path =>
      match desk.apply (.edit (.setScript kind path)) with
      | .error error => (.error (.edit error), desk)
      | .ok desk => (.ok path, desk)

/-- Runs the generator of a kind on the project as it is. -/
def runGenerator (desk : Desk) (world : World) (kind : GeneratorKind) (folder : String)
    (asked : Option String) : Answer (List String) :=
  let finish (desk : Desk) (done : Log.Reported GenerationError (List String) × Disk) :
      Answer (List String) :=
    (done.1.1.mapError .generation, desk.behind done.2 done.1.2)
  if kind.needsScript then
    match desk.resolveScript world kind asked with
    | (.error error, desk) => (.error error, desk)
    | (.ok path, desk) =>
      let script : Script := ⟨kind, path, defaultInterpreter⟩
      finish desk (script.generate world.runner desk.disk desk.project folder)
  else finish desk (desk.disk.writeSignalManager desk.project folder)

def generatedEvent (kind : GeneratorKind) (folder : String) (paths : List String) : Log.Event :=
  ⟨.info, .editing, "Generated code",
    [("kind", .shown kind.key), ("output", .shown folder), ("artifacts", .count paths.length)]⟩

/-- Generates code of a kind into a folder, if the project is valid, and returns the paths of what
was written. -/
def generate (desk : Desk) (world : World) (kind : GeneratorKind) (folder : String)
    (asked : Option String) : Answer (List String) :=
  match desk.ensureValid world with
  | (.error error, desk) => (.error error, desk)
  | (.ok (), desk) =>
    match desk.runGenerator world kind folder asked with
    | (.error error, desk) => (.error error, desk)
    | (.ok paths, desk) => (.ok paths, desk.report [generatedEvent kind folder paths])

end SignalCatalog.Desk
