import SignalCatalog.Log.Event
import SignalCatalog.Project
import SignalCatalog.Validation.Issue
import SignalCatalog.Validation.Version

/-!
# Validation

`Project.issues` checks a project for a date and, if there is one, against the version it was last
stored with: first editor, version and date, then the broken rules, then what is only advice.
-/

namespace SignalCatalog

/-- What the editor field of a new project shows. -/
def editorPlaceholder : String := "enter your name"

namespace Metadata

def editorIssues (metadata : Metadata) : List Issue :=
  let editor := Text.trimmed metadata.editor
  if editor.isEmpty then [⟨.editorEmpty, "metadata.editor", "editor name is required"⟩]
  else if Text.sameIgnoringCase editor editorPlaceholder then
    [⟨.editorPlaceholder, "metadata.editor",
      "replace the placeholder editor name with your own"⟩]
  else []

def versionIssues (metadata : Metadata) (baseline : Option String) : List Issue :=
  match Version.ofText? metadata.version with
  | none =>
    [⟨.versionInvalid, "metadata.version",
      "version '" ++ metadata.version ++ "' is not a decimal number"⟩]
  | some version =>
    match baseline with
    | none => []
    | some text =>
      match Version.ofText? text with
      | none => []
      | some stored =>
        if version.below stored then
          [⟨.versionRegression, "metadata.version",
            "version " ++ Text.trimmed metadata.version ++ " is lower than the saved version " ++
              Text.trimmed text⟩]
        else []

def dateIssues (metadata : Metadata) (today : Date) : List Issue :=
  if metadata.date.before today then
    [⟨.dateInPast, "metadata.date",
      "date " ++ metadata.date.text ++ " is before today (" ++ today.text ++ ")"⟩]
  else []

end Metadata

namespace Project

/-- The selected system has no cores. -/
def coreAdvice (project : Project) : List Issue :=
  let hasCores := match project.cores.get? project.socType with
    | some cores => !cores.isEmpty
    | none => false
  if hasCores then []
  else
    [⟨.socTypeWithoutCores, "soc_type",
      "selected SoC '" ++ project.socType ++ "' has no cores configured"⟩]

/-- Values of the file in whose place a default stands. -/
def unreadableAdvice (project : Project) : List Issue :=
  project.unreadable.map fun (name, field, raw) =>
    ⟨.unreadableValue, Issue.signalField name field,
      "'" ++ raw ++ "' is not a valid " ++ field ++ "; the default will be saved"⟩

def issues (project : Project) (today : Date) (baseline : Option String) : List Issue :=
  project.metadata.editorIssues ++ project.metadata.versionIssues baseline ++
    project.metadata.dateIssues today ++ project.violations.map Violation.toIssue ++
    project.coreAdvice ++ project.unreadableAdvice

end Project

def Issue.errors (issues : List Issue) : List Issue := issues.filter Issue.isError

def Issue.warnings (issues : List Issue) : List Issue := issues.filter fun issue => !issue.isError

/-- The event of a validation run. -/
def Issue.summary (issues : List Issue) : Log.Event :=
  ⟨.debug, .validation, "Validated project",
    [("errors", .count (Issue.errors issues).length),
      ("warnings", .count (Issue.warnings issues).length)]⟩

end SignalCatalog
