import SignalCatalog.CommandLine.Arguments
import SignalCatalog.Session.Exchanging
import SignalCatalog.Session.Storing

/-!
# The requests of the command line

Each request works in a session of its own with a host that never answers. A failure says what was
being done.
-/

namespace SignalCatalog.CommandLine

/-- A failure, and what was being done. -/
structure TaskError where
  context : String
  error : SessionError

namespace TaskError

/-- The messages of a failure from the outermost to the innermost. -/
def causes (failure : TaskError) : List String := failure.context :: failure.error.causes

def text (failure : TaskError) : String := ": ".intercalate failure.causes

end TaskError

/-- The result of a request with the desk behind it. -/
abbrev Task (α : Type) := Except TaskError α × Desk

/-- Says what an operation of the session is done for. -/
def doing {α : Type} (context : String) (answer : Answer α) : Task α :=
  (answer.1.mapError fun error => ⟨context, error⟩, answer.2)

/-- A session for a request. -/
def freshDesk (world : World) (disk : Disk) (date : Option Date) : Desk :=
  (Desk.start world disk).pin date

def openFile (world : World) (disk : Disk) (path : String) (date : Option Date) : Task Unit :=
  doing ("open " ++ path) ((freshDesk world disk date).openProject world path)

/-- Reads a project to show it. -/
def display (world : World) (disk : Disk) (path : String) : Task Project :=
  let (result, desk) := openFile world disk path none
  (result.map fun () => desk.project, desk)

/-- Validates a project against its own version. -/
def validate (world : World) (disk : Disk) (path : String) (date : Option Date) :
    Task (List Issue) :=
  match openFile world disk path date with
  | (.error failure, desk) => (.error failure, desk)
  | (.ok (), desk) =>
    let (issues, desk) := desk.validate world
    (.ok issues, desk)

def exportBook (world : World) (disk : Disk) (path output : String) (date : Option Date) :
    Task Unit :=
  match openFile world disk path date with
  | (.error failure, desk) => (.error failure, desk)
  | (.ok (), desk) => doing ("export " ++ output) (desk.exportBook world output)

/-- What an import gave. -/
structure ImportSummary where
  savedTo : String
  signalCount : Nat
  findings : List Finding

/-- Imports a workbook and saves it as a project, which must be valid. -/
def importBook (world : World) (disk : Disk) (input output : String) (date : Option Date) :
    Task ImportSummary :=
  match doing ("import " ++ input) ((freshDesk world disk date).importBook world input) with
  | (.error failure, desk) => (.error failure, desk)
  | (.ok (project, findings), desk) =>
    let (result, desk) := doing ("save " ++ output) (desk.saveProject world output)
    (result.map fun () => ⟨output, project.signals.entries.length, findings⟩, desk)

/-- Generates code and returns the paths of what was written. -/
def generate (world : World) (disk : Disk) (path : String) (kind : GeneratorKind)
    (folder : String) (script : Option String) (date : Option Date) : Task (List String) :=
  match openFile world disk path date with
  | (.error failure, desk) => (.error failure, desk)
  | (.ok (), desk) =>
    doing ("generate " ++ kind.key ++ " into " ++ folder) (desk.generate world kind folder script)

end SignalCatalog.CommandLine
