import SignalCatalog.Files.Error
import SignalCatalog.Log.Event
import SignalCatalog.Record.Project

/-!
# Loading a project document

The text of a project file becomes a project with repaired lists, and a list of events: one if a list
was repaired and one for each value that could not be read.
-/

namespace SignalCatalog.Project

open Log

/-- What is reported about a loaded project: `before` is the project as it stood in the text. -/
def loadingEvents (path : String) (before : Project) : List Event :=
  (if before.needsRepair then
    [⟨.debug, .storage, "Repaired SoC/build lists on load", [("path", .shown path)]⟩] else []) ++
  before.unreadable.map fun (name, field, raw) =>
    ⟨.warn, .storage, "Unreadable value '" ++ raw ++ "', using the default",
      [("path", .shown path), ("signal", .shown name), ("field", .shown field)]⟩

/-- Reads the text of a project file; the path serves for messages only. -/
def ofDocument (today : Date) (path text : String) : Reported StorageError Project :=
  match ofText today text with
  | .ok project => (.ok project.normalize, loadingEvents path project)
  | .error fault => (.error (.document path fault text), [])

end SignalCatalog.Project
