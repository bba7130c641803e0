import SignalCatalog.Project
import SignalCatalog.Validation.Issue

/-!
# Summary tables

The tables that the command line shows: the cores of a project, its signals, and issues. A table is
a header and rows of texts; an absent value is a dash.
-/

namespace SignalCatalog

structure Table where
  header : List String
  rows : List (List String)
deriving DecidableEq, Repr

/-- The lines of a row, each with a piece of every cell; the longest cell has the most lines. -/
def rowLines (row : List String) : List (List String) :=
  let cells := row.map fun text => (Text.pieces '\n' text.toList).map fun line =>
    String.ofList (Text.trim line)
  let height := (cells.map List.length).foldl max 0
  (List.range height).map fun line => cells.map fun lines => (lines[line]?).getD ""

/-- The lines of a table, that of the header first. -/
def Table.lines (table : Table) : List (List String) := (table.header :: table.rows).flatMap rowLines

/-- A text, or a dash if it is empty. -/
def orDash (text : String) : String := if text.isEmpty then "-" else text

namespace Project

/-- One row for each core. -/
def coreTable (project : Project) : Table where
  header := ["SoC", "Core", "Role", "OS", "Family", "Signals", "Description"]
  rows := project.availableCores.filterMap fun id =>
    (project.core? id).map fun core =>
      [id.soc, id.core, core.role, core.os, core.socFamily,
        Text.number (project.sourcedFrom id).length, core.description]

/-- One row for each signal, with the cores it goes to. -/
def signalTable (project : Project) : Table where
  header := ["Signal", "Type", "Source", "Destinations", "Timeout", "Period", "ASIL"]
  rows := project.signals.entries.map fun (name, signal) =>
    let destinations := (project.availableCores.map CoreId.text).filter signal.isDestination
    [name, signal.dataType.text, orDash signal.source,
      if destinations.isEmpty then "-" else ", ".intercalate destinations,
      Text.number signal.timeout.toNat, Text.number signal.periodicity.toNat,
      Attribute.spelling signal.safetyLevel]

end Project

/-- One row for each issue. -/
def issueTable (issues : List Issue) : Table where
  header := ["Severity", "Code", "Field", "Message"]
  rows := issues.map fun issue =>
    [if issue.isError then "ERROR" else "WARN", issue.code.text, issue.field, issue.message]

end SignalCatalog
