import SignalCatalog.Json.Shape

/-!
# Failures of file operations

The ways in which a step on files can fail, in the words of the operating system, and the failures of
reading and saving a project file, each with a message, a message for users and a suggestion.
-/

namespace SignalCatalog

inductive OsError
  | notFound
  | busy
  | alreadyThere
  | notDirectory
  | isDirectory
  | nameTooLong
  | notEmpty
  | nulInName
  | nulInWord
  | notText
  /-- Any other failure, in the words of the system. -/
  | other (words : String)
deriving DecidableEq, Repr

def OsError.message : OsError → String
  | notFound => "No such file or directory (os error 2)"
  | busy => "Device or resource busy (os error 16)"
  | alreadyThere => "File exists (os error 17)"
  | notDirectory => "Not a directory (os error 20)"
  | isDirectory => "Is a directory (os error 21)"
  | nameTooLong => "File name too long (os error 36)"
  | notEmpty => "Directory not empty (os error 39)"
  | nulInName => "file name contained an unexpected NUL byte"
  | nulInWord => "nul byte found in provided data"
  | notText => "stream did not contain valid UTF-8"
  | other words => words

/-- The steps of file operations that can fail. -/
inductive FileStep
  | read
  | createDirectory
  | create
  | write
  | sync
  | replace
deriving DecidableEq, Repr

def FileStep.verb : FileStep → String
  | read => "read"
  | createDirectory => "create directory"
  | create => "create"
  | write => "write"
  | sync => "sync"
  | replace => "replace"

/-- A failure of reading or saving a project file. -/
inductive StorageError
  | step (action : FileStep) (path : String) (cause : OsError)
  /-- The text is no project document. -/
  | document (path : String) (fault : Json.Fault) (text : String)
  /-- The written file could not be put in place. -/
  | notReplaced (draft target : String) (cause : OsError)

namespace StorageError

def path : StorageError → String
  | .step _ path _ => path
  | .document path .. => path
  | .notReplaced _ target _ => target

def message : StorageError → String
  | .step action path _ => "Failed to " ++ action.verb ++ " file: " ++ path
  | .document path fault text =>
    let place := fault.position text
    "Invalid project file " ++ path ++ " at line " ++ Text.number place.line ++ ", column " ++
      Text.number place.column
  | .notReplaced .. => "Failed to complete save operation"

def userMessage : StorageError → String
  | .step action path _ => "Could not " ++ action.verb ++ " the file at " ++ path
  | .document path fault text =>
    let place := fault.position text
    "The file at " ++ path ++ " is not a valid project file (line " ++ Text.number place.line ++
      ", column " ++ Text.number place.column ++ "): " ++ fault.message text
  | .notReplaced _ target _ =>
    "Could not save the file to " ++ target ++ ". Please check disk space and permissions."

def suggestion : StorageError → String
  | .step .read _ _ => "Check that the file exists and you have permission to read it."
  | .step .. => "Check that you have permission to write to this location."
  | .document .. =>
    "Make sure you selected a signal configuration .json file, or import the workbook instead."
  | .notReplaced .. => "Free up disk space or try saving to a different location."

/-- The messages of a failure and of what caused it. -/
def causes : StorageError → List String
  | error@(.step _ _ cause) => [error.message, cause.message]
  | error@(.document _ fault text) => [error.message, fault.message text]
  | error@(.notReplaced _ _ cause) => [error.message, cause.message]

end StorageError

end SignalCatalog
