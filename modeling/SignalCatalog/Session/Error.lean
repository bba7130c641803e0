import SignalCatalog.Editing.Edit
import SignalCatalog.Files.Error
import SignalCatalog.Generation.Error
import SignalCatalog.Validation.Issue

/-!
# Failures of session operations
-/

namespace SignalCatalog

inductive SessionError
  /-- Validation found errors, and nothing was written. -/
  | invalid (errors : List Issue)
  | storage (error : StorageError)
  | workbook (error : WorkbookError)
  | generation (error : GenerationError)
  | edit (error : EditError)

namespace SessionError

def message : SessionError → String
  | invalid errors => "project has " ++ Text.number errors.length ++ " validation error(s)"
  | storage error => error.message
  | workbook error => error.message
  | generation error => error.message
  | edit error => error.message

/-- The messages of a failure and of what caused it. -/
def causes : SessionError → List String
  | storage error => error.causes
  | workbook error => error.causes
  | generation error => error.causes
  | error => [error.message]

end SessionError

end SignalCatalog
