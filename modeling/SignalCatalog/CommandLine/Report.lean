import SignalCatalog.CommandLine.Task
import SignalCatalog.Summary

/-!
# What the command line shows

A report is the exit status with what goes to the output and to the error stream. Tables are kept as
tables until they are drawn.
-/

namespace SignalCatalog.CommandLine

inductive Output
  | text (text : String)
  | table (table : Table)
deriving DecidableEq, Repr

structure Report where
  status : Nat
  output : List Output
  errors : List String
deriving DecidableEq, Repr

def success (output : List Output) : Report := ⟨0, output, []⟩

def showProject (project : Project) : List Output :=
  let data := project.metadata
  [.text ("Version " ++ data.version ++ " (" ++ data.date.text ++ ") by " ++ orDash data.editor)] ++
    (if data.description.isEmpty then [] else [.text data.description]) ++
    [.text ("SoC: " ++ project.socType ++ "  Build: " ++ project.buildType ++ "  Board: " ++
        orDash project.board),
      .table project.coreTable, .table project.signalTable]

def showIssues (issues : List Issue) : List Output :=
  if issues.isEmpty then [.text "No issues found."] else [.table (issueTable issues)]

def findingTable (findings : List Finding) : Table where
  header := ["Sheet", "Row", "Action", "Detail"]
  rows := findings.map fun finding =>
    [finding.sheet, (finding.row.map Text.number).getD "-",
      match finding.kind with
        | .skipped => "skipped"
        | .adjusted => "adjusted",
      finding.message]

def showImport (summary : ImportSummary) : List Output :=
  .text ("Imported " ++ Text.number summary.signalCount ++ " signal(s) into " ++
      summary.savedTo) ::
    if summary.findings.isEmpty then [] else [.table (findingTable summary.findings)]

/-- The report of a failure; the errors of an invalid project come first. -/
def failed (failure : TaskError) : Report where
  status := 1
  output := match failure.error with
    | .invalid issues => showIssues issues
    | _ => []
  errors := ["error: " ++ failure.text]

/-- The report of a task, given that of its success. -/
def reportOf {α : Type} (task : Task α) (onSuccess : α → Report) : Report × Desk :=
  (match task.1 with
    | .ok value => onSuccess value
    | .error failure => failed failure, task.2)

def Request.run (request : Request) (world : World) (disk : Disk) (date : Option Date) :
    Report × Desk :=
  match request with
  | .display path => reportOf (CommandLine.display world disk path) (success ∘ showProject)
  | .validate path =>
    reportOf (CommandLine.validate world disk path date) fun issues =>
      ⟨if (Issue.errors issues).isEmpty then 0 else 1, showIssues issues, []⟩
  | .exportBook path output =>
    reportOf (CommandLine.exportBook world disk path output date) fun () =>
      success [.text ("Exported " ++ output)]
  | .importBook input output =>
    reportOf (CommandLine.importBook world disk input output date) (success ∘ showImport)
  | .generate path kind folder script =>
    reportOf (CommandLine.generate world disk path kind folder script date) fun paths =>
      success (paths.map fun path => .text ("Wrote " ++ path))

end SignalCatalog.CommandLine
