import SignalCatalog.CommandLine.Drawing
import SignalCatalog.CommandLine.Footprint
import SignalCatalog.Scripting.Programs
import Std.Time

/-!
# The program

The files of a run are read into a disk, the run happens on it, and what has changed is written back.
-/

namespace SignalCatalog.Console

/-- The environment variable that may hold a filter for logs. -/
def filterVariable : String := "RUST_LOG"

def pathOf (place : Place) : String := "/" ++ "/".intercalate place

/-- Reads what stands at a place. -/
def readPlace (disk : Disk) (place : Place) : IO Disk := do
  if (disk.entry? place).isSome then return disk
  try
    let data ← IO.FS.readBinFile (pathOf place)
    return disk.put place (.file (.ofBytes data))
  catch
    | .inappropriateType .. => return disk.put place .folder
    | _ => return disk

/-- Reads what stands at a path and at the folders above it. -/
def readPath (disk : Disk) (path : String) : IO Disk := do
  let place := Disk.resolve disk.home path
  let mut disk := disk
  for size in List.range place.length do
    disk ← readPlace disk (place.take (size + 1))
  return disk

/-- Writes what has changed. -/
def writeBack (former disk : Disk) : IO Unit := do
  for (place, entry) in Disk.changes former disk do
    match entry with
    | .folder => IO.FS.createDirAll (pathOf place)
    | .file content => IO.FS.writeBinFile (pathOf place) content.toBytes
  for place in Disk.losses former disk do
    IO.FS.removeFile (pathOf place)

/-- Reads the files of a command line. -/
def gather (today : Date) (words : List String) : IO Disk := do
  let home := Disk.resolve [] (← IO.currentDir).toString
  match CommandLine.parse words with
  | .error _ => return .empty home
  | .ok invocation =>
    let mut disk := Disk.empty home
    for path in invocation.paths do
      disk ← readPath disk path
    for path in invocation.request.scripts today disk do
      disk ← readPath disk path
    return disk

def surroundings : IO CommandLine.Surroundings := do
  let day ← Std.Time.PlainDate.now
  let clock := (Date.of? day.year.toInt day.month.val.toNat day.day.val.toNat).getD Date.epoch
  let now := Std.Time.DateTime.ofTimestamp (← Std.Time.Timestamp.now) .UTC
  return ⟨⟨clock, .silent, Program.runner⟩, ← IO.getEnv filterVariable, now.toISO8601String⟩

def outputLines : CommandLine.Output → List String
  | .text text => [text]
  | .table table => table.drawn

end SignalCatalog.Console

open SignalCatalog Console in
def main (words : List String) : IO UInt32 := do
  let around ← surroundings
  let former ← gather around.world.clock words
  let (report, disk) := CommandLine.run around words former
  writeBack former disk
  for line in report.output.flatMap outputLines do
    IO.println line
  for line in report.errors do
    IO.eprintln line
  return report.status.toUInt32
