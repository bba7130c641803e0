import SignalCatalog.Files.Disk

/-!
# Replacing files

A file is replaced by writing its new content to a hidden draft beside it, and moving the draft onto
it when it is complete. Whatever fails on the way, the file keeps its content, and the draft is
removed if it can be.
-/

namespace SignalCatalog

/-- A step of a replacement that failed. -/
structure FileFailure where
  action : FileStep
  path : String
  cause : OsError
deriving DecidableEq, Repr

namespace Disk

/-- Makes a file and writes its content. -/
def writeStored (disk : Disk) (path : String) (content : Content) :
    Except FileFailure Unit × Disk :=
  match disk.create path with
  | (.error cause, disk) => (.error ⟨.create, path, cause⟩, disk)
  | (.ok place, disk) =>
    match disk.write place content with
    | (.error cause, disk) => (.error ⟨.write, path, cause⟩, disk)
    | (.ok (), disk) =>
      match disk.sync with
      | (.error cause, disk) => (.error ⟨.sync, path, cause⟩, disk)
      | (.ok (), disk) => (.ok (), disk)

/-- Makes the folder of a path. -/
def prepare (disk : Disk) (path : String) : Except FileFailure Unit × Disk :=
  match Path.folder? path with
  | none => (.ok (), disk)
  | some folder =>
    match disk.makeFolders folder with
    | (.error cause, disk) => (.error ⟨.createDirectory, folder, cause⟩, disk)
    | (.ok (), disk) => (.ok (), disk)

/-- Replaces the content of a file, or makes it, by way of a draft. -/
def replace (disk : Disk) (path draft : String) (content : Content) :
    Except FileFailure Unit × Disk :=
  match disk.prepare path with
  | (.error failure, disk) => (.error failure, disk)
  | (.ok (), disk) =>
    match disk.writeStored draft content with
    | (.error failure, disk) => (.error failure, disk.remove draft)
    | (.ok (), disk) =>
      match disk.rename draft path with
      | (.error cause, disk) => (.error ⟨.replace, path, cause⟩, disk.remove draft)
      | (.ok (), disk) => (.ok (), disk)

/-- Writes a file in its place. -/
def overwrite (disk : Disk) (path : String) (content : Content) : Except OsError Unit × Disk :=
  match disk.create path with
  | (.error cause, disk) => (.error cause, disk)
  | (.ok place, disk) => disk.write place content

end Disk

end SignalCatalog
