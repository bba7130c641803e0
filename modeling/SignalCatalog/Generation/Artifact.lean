import SignalCatalog.Files.Replacement
import SignalCatalog.Generation.Error

/-!
# Writing generated code

Both texts of the signal manager are made before the first file is written, so a project that is
unfit leaves no file behind.
-/

namespace SignalCatalog.Disk

open Log

/-- Writes a generated file into a folder and records it. The folder is made if it is not there. -/
def writeArtifact (disk : Disk) (folder name text : String) :
    Reported GenerationError String × Disk :=
  match disk.makeFolders folder with
  | (.error cause, disk) => ((.error (.notWritten folder cause), []), disk)
  | (.ok (), disk) =>
    let path := Path.join folder name
    match disk.overwrite path (.text text) with
    | (.error cause, disk) => ((.error (.notWritten path cause), []), disk)
    | (.ok (), disk) =>
      disk.reporting (.ok path) [⟨.info, .generation, "Wrote artifact",
        [("path", .shown path), ("bytes", .count text.utf8ByteSize)]⟩]

/-- Writes the files of the signal manager and returns their paths. -/
def writeSignalManager (disk : Disk) (project : Project) (folder : String) :
    Reported GenerationError (List String) × Disk :=
  match SignalManager.source project, SignalManager.header project with
  | .error error, _ | .ok _, .error error => ((.error (.unfit error), []), disk)
  | .ok source, .ok header =>
    match disk.writeArtifact folder SignalManager.sourceFile source with
    | ((.error error, events), disk) => ((.error error, events), disk)
    | ((.ok sourcePath, events), disk) =>
      match disk.writeArtifact folder SignalManager.headerFile header with
      | ((.error error, more), disk) => ((.error error, events ++ more), disk)
      | ((.ok headerPath, more), disk) => ((.ok [sourcePath, headerPath], events ++ more), disk)

end SignalCatalog.Disk
