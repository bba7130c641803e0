import SignalCatalog.Exchange.Finding
import SignalCatalog.Generation.Kind
import SignalCatalog.Generation.SignalManager

/-!
# Failures of generation
-/

namespace SignalCatalog

/-- How a run of a script went wrong. -/
inductive ScriptFault
  | notStarted (interpreter : String) (cause : OsError)
  /-- It ended with a status that is not zero, or with none. -/
  | failed (status : Option Nat) (errors : String)
deriving DecidableEq, Repr

namespace ScriptFault

def message : ScriptFault → String
  | notStarted interpreter cause =>
    "Generator script failed: could not start " ++ interpreter ++ ": " ++ cause.message
  | failed none errors => "Generator script failed: " ++ errors
  | failed (some status) errors =>
    "Generator script failed with exit status " ++ Text.number status ++ ": " ++ errors

end ScriptFault

inductive GenerationError
  /-- There is no script at the path, or none was found at all. -/
  | noScript (kind : GeneratorKind) (path : Option String)
  | notWritten (path : String) (cause : OsError)
  | unfit (error : SlotError)
  | noBoard
  | script (fault : ScriptFault)
  | workbook (error : WorkbookError)

namespace GenerationError

/-- The words for a project that cannot be turned into code. -/
def unfitMessage (reason : String) : String := "Cannot generate code: " ++ reason

def message : GenerationError → String
  | noScript kind path =>
    "No " ++ kind.key ++ " generator script found" ++
      match path with
      | some path => " at " ++ path
      | none => ""
  | notWritten path _ => "Failed to write " ++ path
  | unfit error => unfitMessage error.message
  | noBoard => unfitMessage "no board selected"
  | script fault => fault.message
  | workbook error => error.message

/-- The messages of a failure and of what caused it. -/
def causes : GenerationError → List String
  | error@(notWritten _ cause) => [error.message, cause.message]
  | workbook error => error.causes
  | error => [error.message]

end GenerationError

end SignalCatalog
