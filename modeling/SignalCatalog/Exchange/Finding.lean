import SignalCatalog.Attribute
import SignalCatalog.Files.Error
import SignalCatalog.Log.Event
import SignalCatalog.Workbook.Archive

/-!
# Findings of an import

Reading a workbook skips what it cannot use and replaces values that make no sense. Each of these is
a finding with its cause; it has a message and is logged as a warning.
-/

namespace SignalCatalog

inductive FindingCause
  | unreadableSheet (error : PartError)
  | missingColumn (title : String)
  | unreadableDate (raw : String)
  | duplicateSignal (name : String)
  | structWithoutMembers (name : String)
  | noMember (error : ValueError)
  | noNumber (field raw : String) (used : UInt32)
  | adjusted (field number : String) (used : UInt32)
  | sourceAmongDestinations (name source : String)
  | unknownSource (name source : String)
deriving DecidableEq, Repr

/-- What was done about a finding. -/
inductive FindingKind
  | skipped
  | adjusted
deriving DecidableEq, Repr

/-- A finding; the row counts from one. -/
structure Finding where
  sheet : String
  row : Option Nat
  cause : FindingCause
deriving DecidableEq, Repr

namespace FindingCause

def kind : FindingCause → FindingKind
  | unreadableSheet _ | missingColumn _ => .skipped
  | _ => .adjusted

def message : FindingCause → String
  | unreadableSheet error => error.message
  | missingColumn title => "missing '" ++ title ++ "' column"
  | unreadableDate raw => "unreadable date '" ++ raw ++ "', using today"
  | duplicateSignal name => "duplicate signal '" ++ name ++ "', row ignored"
  | structWithoutMembers name =>
    "signal '" ++ name ++ "' is a STRUCT but the workbook carries no struct fields"
  | noMember error => error.message ++ "; keeping the default"
  | noNumber field raw used =>
    field ++ " '" ++ raw ++ "' is not a number; using " ++ Text.number used.toNat
  | adjusted field number used =>
    field ++ " " ++ number ++ " adjusted to " ++ Text.number used.toNat
  | sourceAmongDestinations name source =>
    "signal '" ++ name ++ "' listed its source " ++ source ++ " as a destination; cleared"
  | unknownSource name source =>
    "signal '" ++ name ++ "' has unknown source '" ++ source ++ "'; cleared"

end FindingCause

namespace Finding

def kind (finding : Finding) : FindingKind := finding.cause.kind

def message (finding : Finding) : String := finding.cause.message

def text (finding : Finding) : String :=
  match finding.row with
  | some row => finding.sheet ++ " row " ++ Text.number row ++ ": " ++ finding.message
  | none => finding.sheet ++ ": " ++ finding.message

/-- The warning of a finding; a missing column is only reported. -/
def event? (finding : Finding) : Option Log.Event :=
  let sheet : String × Log.Value := ("sheet", .quoted finding.sheet)
  match finding.cause with
  | .missingColumn _ => none
  | .unreadableSheet error =>
    some ⟨.warn, .workbook, "Skipping unreadable sheet", [sheet, ("error", .shown error.message)]⟩
  | cause =>
    some ⟨.warn, .workbook, cause.message,
      sheet :: (finding.row.map fun row => ("row", Log.Value.count row)).toList⟩

end Finding

/-- A failure of reading or writing a workbook file. -/
inductive WorkbookError
  | step (action : FileStep) (path : String) (cause : OsError)
  | notArchive
  | part (error : PartError)
  /-- No sheet gave a selection or a signal. -/
  | noData (findings : List Finding)

namespace WorkbookError

def message : WorkbookError → String
  | step action path _ => "Failed to " ++ action.verb ++ " file: " ++ path
  | notArchive =>
    "Not a readable xlsx workbook: invalid Zip archive: Could not find EOCD"
  | part error => error.message
  | noData findings =>
    "No valid data found in workbook (" ++ Text.number findings.length ++ " sheet problem(s))"

/-- The messages of a failure and of what caused it. -/
def causes : WorkbookError → List String
  | error@(step _ _ cause) => [error.message, cause.message]
  | error => [error.message]

end WorkbookError

end SignalCatalog
