import SignalCatalog.CommandLine.Run

/-!
# The files of a run

Before a run its files are brought together on a disk. These are all paths that a request can read or
write; the scripts that a project names are known only when the project has been read.
-/

namespace SignalCatalog.CommandLine

/-- The files that a generator makes or reads in its folder. -/
def outputNames : List String :=
  [SignalManager.sourceFile, SignalManager.headerFile, Disk.bookName, Disk.bookDraft Disk.bookName]

def Request.paths : Request → List String
  | .display project | .validate project => [project]
  | .exportBook project output => [project, output, Disk.bookDraft output]
  | .importBook input output => [input, output, Disk.projectDraft output]
  | .generate project kind folder script =>
    [project, folder, kind.installedScript] ++ script.toList ++
      outputNames.map (Path.join folder)

def Invocation.paths (invocation : Invocation) : List String :=
  invocation.request.paths ++ invocation.logFile.toList

/-- The scripts named by a project that has been read. -/
def Request.scripts (request : Request) (today : Date) (disk : Disk) : List String :=
  match request with
  | .generate path .. =>
    match (disk.loadProject today path).1 with
    | .ok project => project.scripts.entries.map Prod.snd
    | .error _ => []
  | _ => []

end SignalCatalog.CommandLine
