import SignalCatalog.Files.Replacement
import SignalCatalog.Record.Loading

/-!
# Project files

Loading leaves the disk as it is; saving replaces the file by way of a draft, so that a project that
cannot be saved completely leaves the former one in place.
-/

namespace SignalCatalog.Disk

open Log

def loadedEvent (path : String) (project : Project) : Event :=
  ⟨.info, .storage, "Loaded project",
    [("path", .shown path), ("signals", .count project.signals.entries.length),
      ("socs", .count project.socList.length)]⟩

/-- Loads the project of a file. -/
def loadProject (disk : Disk) (today : Date) (path : String) : Reported StorageError Project :=
  match disk.readText path with
  | .error cause => (.error (.step .read path cause), [])
  | .ok text =>
    match Project.ofDocument today path text with
    | (.error error, events) => (.error error, events)
    | (.ok project, events) => (.ok project, events ++ [loadedEvent path project])

/-- The name of a draft whose file has no name. -/
def projectDraftName : String := "project.json"

/-- The draft beside a project file. -/
def projectDraft (path : String) : String := Path.draft projectDraftName path

def savedEvent (path : String) (project : Project) : Event :=
  ⟨.info, .storage, "Saved project",
    [("path", .shown path), ("signals", .count project.signals.entries.length)]⟩

/-- A failed replacement of a project file. -/
def saveError (draft : String) (failure : FileFailure) : StorageError :=
  match failure.action with
  | .replace => .notReplaced draft failure.path failure.cause
  | action => .step action failure.path failure.cause

/-- Saves a project and records it. -/
def saveProject (disk : Disk) (project : Project) (path : String) :
    Reported StorageError Unit × Disk :=
  match disk.replace path (projectDraft path) (.text project.save) with
  | (.error failure, disk) => ((.error (saveError (projectDraft path) failure), []), disk)
  | (.ok (), disk) => disk.reporting (.ok ()) [savedEvent path project]

end SignalCatalog.Disk
