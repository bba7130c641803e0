import SignalCatalog.Exchange.Export
import SignalCatalog.Exchange.Import
import SignalCatalog.Files.ProjectFile

/-!
# Workbook files

An import reads the archive of a workbook file, an export replaces a workbook file by way of a draft.
-/

namespace SignalCatalog.Disk

open Exchange Log

/-- The event of an import that gave a project. -/
def importedEvent (path : String) (project : Project) (findings : List Finding) : Event :=
  ⟨.info, .workbook, "Imported workbook",
    [("path", .shown path), ("signals", .count project.signals.entries.length),
      ("diagnostics", .count findings.length)]⟩

/-- Imports a workbook file. -/
def importBook (disk : Disk) (today : Date) (path : String) :
    Reported WorkbookError (Project × List Finding) :=
  match disk.read path with
  | .error cause => (.error (.step .read path cause), [])
  | .ok content =>
    match content.archive? with
    | none => (.error .notArchive, [])
    | some archive =>
      match importReported today archive with
      | (.error error, events) => (.error error, events)
      | (.ok (project, findings), events) =>
        (.ok (project, findings), events ++ [importedEvent path project findings])

/-- The name of a draft whose workbook has no name, and of the workbook that a script reads. -/
def bookName : String := "signal_data.xlsx"

/-- The draft beside a workbook file. -/
def bookDraft (path : String) : String := Path.draft bookName path

def exportedEvent (path : String) (project : Project) : Event :=
  ⟨.info, .workbook, "Exported workbook",
    [("path", .shown path), ("cores", .count project.availableCores.length),
      ("signals", .count project.signals.entries.length)]⟩

/-- Writes the workbook of a project and records it. -/
def exportBook (disk : Disk) (project : Project) (path : String) :
    Reported WorkbookError Unit × Disk :=
  match disk.replace path (bookDraft path) (.archive project.workbook.toArchive) with
  | (.error failure, disk) =>
    ((.error (.step failure.action failure.path failure.cause), []), disk)
  | (.ok (), disk) => disk.reporting (.ok ()) [exportedEvent path project]

end SignalCatalog.Disk
