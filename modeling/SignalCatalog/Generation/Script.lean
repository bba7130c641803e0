import SignalCatalog.Exchange.BookFile
import SignalCatalog.Generation.Error

/-!
# Generator scripts

A script reads the exchange workbook that is written into its output folder first. What happens in a
run is left to a runner, which may change the disk as it likes; only the end of the run counts.
-/

namespace SignalCatalog

/-- The end of a run of a program. -/
inductive RunEnd
  | notStarted (cause : OsError)
  /-- The status, if the program ended by itself, and what it wrote about errors. -/
  | ended (status : Option Nat) (errors : String)
deriving DecidableEq, Repr

/-- Runs a program with arguments. -/
abbrev Runner := (program : String) → (arguments : List String) → Disk → RunEnd × Disk

/-- The program that runs scripts if no other is named. -/
def defaultInterpreter : String := "python3"

/-- A script of a kind and the program that runs it. -/
structure Script where
  kind : GeneratorKind
  path : String
  interpreter : String
deriving DecidableEq, Repr

namespace Script

open Log

/-- The arguments behind the script. -/
def arguments (script : Script) (book board folder : String) : List String :=
  script.path :: "-f" :: book :: (match script.kind.interface? with
    | some interface => ["-i", interface]
    | none => []) ++ ["-B", board, "-O", folder]

def startEvent (script : Script) (board folder : String) : Event :=
  ⟨.info, .generation, "Running generator script",
    [("kind", .shown script.kind.key), ("script", .shown script.path),
      ("board", .quoted board), ("output", .shown folder)]⟩

def failureEvent (script : Script) (status : Option Nat) : Event :=
  ⟨.warn, .generation, "Generator script failed",
    [("kind", .shown script.kind.key), ("status", .optional status)]⟩

/-- Runs the script on a workbook that has been written. Its start is recorded before it runs. -/
def run (script : Script) (runner : Runner) (disk : Disk) (book board folder : String) :
    Reported GenerationError (List String) × Disk :=
  let start := script.startEvent board folder
  match runner script.interpreter (script.arguments book board folder) (disk.record [start]) with
  | (.notStarted cause, disk) =>
    ((.error (.script (.notStarted script.interpreter cause)), [start]), disk)
  | (.ended (some 0) _, disk) => ((.ok [book], [start]), disk)
  | (.ended status errors, disk) =>
    let failure := script.failureEvent status
    ((.error (.script (.failed status (Text.trimmed errors))), [start, failure]),
      disk.record [failure])

/-- Writes the workbook of a project into a folder and runs the script on it. -/
def generate (script : Script) (runner : Runner) (disk : Disk) (project : Project)
    (folder : String) : Reported GenerationError (List String) × Disk :=
  let board := Text.trimmed project.board
  if !disk.isFile script.path then
    ((.error (.noScript script.kind (some script.path)), []), disk)
  else if board.isEmpty then ((.error .noBoard, []), disk)
  else
    let book := Path.join folder Disk.bookName
    match disk.exportBook project book with
    | ((.error error, events), disk) => ((.error (.workbook error), events), disk)
    | ((.ok (), events), disk) =>
      let ((result, more), disk) := script.run runner disk book board folder
      ((result, events ++ more), disk)

end Script

/-- The first script that is there: the one asked for, that of the project, the installed one. -/
def Disk.locateScript? (disk : Disk) (kind : GeneratorKind) (asked : Option String)
    (project : Project) : Option String :=
  let configured := (project.scripts.get? kind.key).filter fun path => !Text.blank path
  (asked.toList ++ configured.toList ++ [kind.installedScript]).find? disk.isFile

end SignalCatalog
