import SignalCatalog.Violation

/-!
# Issues

What validation finds: a code, the place in the document as a dotted path, and a message. Errors stop
saving, exporting and generating; warnings are only reported.
-/

namespace SignalCatalog

inductive Severity
  | error
  | warning
deriving DecidableEq, Repr

namespace Severity

def name : Severity → String
  | error => "Error"
  | warning => "Warning"

end Severity

inductive IssueCode
  | editorEmpty
  | editorPlaceholder
  | versionInvalid
  | versionRegression
  | dateInPast
  | socTypeNotListed
  | buildTypeNotListed
  | coreSocNotListed
  | duplicateSoc
  | duplicateBuildType
  | unknownSource
  | sourceIsDestination
  | membersWithoutStruct
  | structWithoutMembers
  | structTooDeep
  | outOfRange
  | socTypeWithoutCores
  | unreadableValue
deriving DecidableEq, Repr

namespace IssueCode

def text : IssueCode → String
  | editorEmpty => "EDITOR_EMPTY"
  | editorPlaceholder => "EDITOR_PLACEHOLDER"
  | versionInvalid => "VERSION_INVALID"
  | versionRegression => "VERSION_REGRESSION"
  | dateInPast => "DATE_IN_PAST"
  | socTypeNotListed => "SOC_TYPE_NOT_LISTED"
  | buildTypeNotListed => "BUILD_TYPE_NOT_LISTED"
  | coreSocNotListed => "CORE_SOC_NOT_LISTED"
  | duplicateSoc => "DUPLICATE_SOC"
  | duplicateBuildType => "DUPLICATE_BUILD_TYPE"
  | unknownSource => "UNKNOWN_SOURCE"
  | sourceIsDestination => "SOURCE_IS_DESTINATION"
  | membersWithoutStruct => "STRUCT_FIELDS_WITHOUT_STRUCT"
  | structWithoutMembers => "STRUCT_WITHOUT_FIELDS"
  | structTooDeep => "STRUCT_TOO_DEEP"
  | outOfRange => "OUT_OF_RANGE"
  | socTypeWithoutCores => "SOC_TYPE_WITHOUT_CORES"
  | unreadableValue => "UNREADABLE_VALUE"

def severity : IssueCode → Severity
  | socTypeWithoutCores | unreadableValue => .warning
  | _ => .error

end IssueCode

structure Issue where
  code : IssueCode
  field : String
  message : String
deriving DecidableEq, Repr

namespace Issue

def severity (issue : Issue) : Severity := issue.code.severity

def isError (issue : Issue) : Bool := issue.severity = .error

def text (issue : Issue) : String :=
  "[" ++ issue.code.text ++ "] " ++ issue.field ++ ": " ++ issue.message

/-- The place of a field of a signal. -/
def signalField (signal field : String) : String := "signals." ++ signal ++ "." ++ field

end Issue

namespace Violation

def code : Violation → IssueCode
  | socTypeNotListed _ => .socTypeNotListed
  | buildTypeNotListed _ => .buildTypeNotListed
  | coreSocNotListed _ => .coreSocNotListed
  | duplicateSoc _ => .duplicateSoc
  | duplicateBuildType _ => .duplicateBuildType
  | unknownSource .. => .unknownSource
  | sourceIsDestination .. => .sourceIsDestination
  | membersWithoutStruct _ => .membersWithoutStruct
  | structWithoutMembers _ => .structWithoutMembers
  | structTooDeep .. => .structTooDeep
  | outOfRange .. => .outOfRange

/-- The place in the document that a violation is about. -/
def field : Violation → String
  | socTypeNotListed _ => "soc_type"
  | buildTypeNotListed _ => "build_type"
  | coreSocNotListed soc => "core_info." ++ soc
  | duplicateSoc _ => "soc_list"
  | duplicateBuildType _ => "build_list"
  | unknownSource signal _ | sourceIsDestination signal _ => Issue.signalField signal "Source"
  | membersWithoutStruct signal | structWithoutMembers signal | structTooDeep signal _ _ =>
    Issue.signalField signal "struct_fields"
  | outOfRange signal field .. => Issue.signalField signal field

def toIssue (violation : Violation) : Issue :=
  ⟨violation.code, violation.field, violation.message⟩

end Violation

end SignalCatalog
