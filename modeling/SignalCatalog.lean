import SignalCatalog.Attribute
import SignalCatalog.Binary64
import SignalCatalog.Binary64.Reading
import SignalCatalog.Binary64.Shortest
import SignalCatalog.Calendar.Date
import SignalCatalog.Calendar.Pattern
import SignalCatalog.Calendar.Reading
import SignalCatalog.CommandLine.Arguments
import SignalCatalog.CommandLine.Drawing
import SignalCatalog.CommandLine.Footprint
import SignalCatalog.CommandLine.Report
import SignalCatalog.CommandLine.Run
import SignalCatalog.CommandLine.Task
import SignalCatalog.Core
import SignalCatalog.DataType
import SignalCatalog.Editing.Edit
import SignalCatalog.Editing.Editor
import SignalCatalog.Editing.History
import SignalCatalog.Editing.Tracker
import SignalCatalog.Exchange.BookFile
import SignalCatalog.Exchange.Export
import SignalCatalog.Exchange.Finding
import SignalCatalog.Exchange.Import
import SignalCatalog.Exchange.Layout
import SignalCatalog.Files.Content
import SignalCatalog.Files.Disk
import SignalCatalog.Files.Error
import SignalCatalog.Files.Path
import SignalCatalog.Files.ProjectFile
import SignalCatalog.Files.Replacement
import SignalCatalog.Generation.Artifact
import SignalCatalog.Generation.Error
import SignalCatalog.Generation.Kind
import SignalCatalog.Generation.Script
import SignalCatalog.Generation.SignalManager
import SignalCatalog.Json
import SignalCatalog.Json.Node
import SignalCatalog.Json.Printer
import SignalCatalog.Json.Shape
import SignalCatalog.Log.Config
import SignalCatalog.Log.Event
import SignalCatalog.Log.Filter
import SignalCatalog.Log.Line
import SignalCatalog.Log.Writer
import SignalCatalog.Main
import SignalCatalog.Markup.Element
import SignalCatalog.Markup.Printer
import SignalCatalog.Markup.Token
import SignalCatalog.Markup.Tree
import SignalCatalog.OrderedMap
import SignalCatalog.Packing.Container
import SignalCatalog.Packing.Inflate
import SignalCatalog.Project
import SignalCatalog.Record.Kind
import SignalCatalog.Record.Loading
import SignalCatalog.Record.Project
import SignalCatalog.Record.Signal
import SignalCatalog.Scripting.Indented.Code
import SignalCatalog.Scripting.Indented.Display
import SignalCatalog.Scripting.Indented.Evaluation
import SignalCatalog.Scripting.Indented.Grammar
import SignalCatalog.Scripting.Indented.Library
import SignalCatalog.Scripting.Indented.Methods
import SignalCatalog.Scripting.Indented.Modules
import SignalCatalog.Scripting.Indented.Operators
import SignalCatalog.Scripting.Indented.Program
import SignalCatalog.Scripting.Indented.Scopes
import SignalCatalog.Scripting.Indented.Script
import SignalCatalog.Scripting.Indented.Token
import SignalCatalog.Scripting.Indented.Value
import SignalCatalog.Scripting.Programs
import SignalCatalog.Scripting.Shell.Builtin
import SignalCatalog.Scripting.Shell.Command
import SignalCatalog.Scripting.Shell.Condition
import SignalCatalog.Scripting.Shell.Evaluation
import SignalCatalog.Scripting.Shell.Expansion
import SignalCatalog.Scripting.Shell.Format
import SignalCatalog.Scripting.Shell.Grammar
import SignalCatalog.Scripting.Shell.Opening
import SignalCatalog.Scripting.Shell.Pattern
import SignalCatalog.Scripting.Shell.Reader
import SignalCatalog.Scripting.Shell.State
import SignalCatalog.Scripting.Shell.Sum
import SignalCatalog.Scripting.Utilities.Calls
import SignalCatalog.Scripting.Utilities.Expression
import SignalCatalog.Scripting.Utilities.Fields
import SignalCatalog.Scripting.Utilities.Files
import SignalCatalog.Scripting.Utilities.LineEditor
import SignalCatalog.Scripting.Utilities.Lines
import SignalCatalog.Scripting.Utilities.Matching
import SignalCatalog.Scripting.Utilities.Options
import SignalCatalog.Session.Desk
import SignalCatalog.Session.Editing
import SignalCatalog.Session.Error
import SignalCatalog.Session.Exchanging
import SignalCatalog.Session.Storing
import SignalCatalog.Signal
import SignalCatalog.Signal.Range
import SignalCatalog.Summary
import SignalCatalog.Text.Ascii
import SignalCatalog.Text.Blank
import SignalCatalog.Text.Numeral
import SignalCatalog.Text.Octets
import SignalCatalog.Text.Quoted
import SignalCatalog.Text.Unprintable
import SignalCatalog.Validation.Issue
import SignalCatalog.Validation.Validator
import SignalCatalog.Validation.Version
import SignalCatalog.Violation
import SignalCatalog.Workbook.Archive
import SignalCatalog.Workbook.Cell
import SignalCatalog.Workbook.Reader
import SignalCatalog.Workbook.Reference
import SignalCatalog.Workbook.Sheet
import SignalCatalog.Workbook.Writer
import SignalCatalog.Proofs.Editing.Run
import SignalCatalog.Proofs.Editing.Timeline
import SignalCatalog.Proofs.Project.Soundness
import SignalCatalog.Proofs.Editing.Violations
import SignalCatalog.Proofs.Binary64.Whole
import SignalCatalog.Proofs.Json.Tokens
import SignalCatalog.Proofs.OrderedMap
import SignalCatalog.Proofs.Text.Numerals
import SignalCatalog.Proofs.Json.Reading
import SignalCatalog.Proofs.Json.Shapes
import SignalCatalog.Proofs.DataType
import SignalCatalog.Proofs.Calendar.Written
import SignalCatalog.Proofs.Record.Members
import SignalCatalog.Proofs.Attribute
import SignalCatalog.Proofs.Record.Signal
import SignalCatalog.Proofs.Record.Project
import SignalCatalog.Proofs.Project.Lists
import SignalCatalog.Proofs.Editing.Storable
import SignalCatalog.Proofs.Exchange.Storable
import SignalCatalog.Proofs.Record.Saving
import SignalCatalog.Proofs.Exchange.Written
import SignalCatalog.Proofs.Exchange.Carried
import SignalCatalog.Proofs.Exchange.Platform
import SignalCatalog.Proofs.Exchange.RoundTrip
import SignalCatalog.Proofs.Exchange.Sound
import SignalCatalog.Proofs.Session.Failure
import SignalCatalog.Proofs.Editing.Destinations
import SignalCatalog.Proofs.Workbook.Archive
import SignalCatalog.Proofs.Validation.Validity
import SignalCatalog.Proofs.Generation.Names
import SignalCatalog.Proofs.Session.Unsaved
import SignalCatalog.Proofs.Session.Versions
import SignalCatalog.Proofs.Session.Reached
import SignalCatalog.Proofs.Editing.Names
import SignalCatalog.Proofs.Exchange.Entities
import SignalCatalog.Proofs.Json.Places
import SignalCatalog.Proofs.Record.Unknown
import SignalCatalog.Proofs.Editing.Renaming
import SignalCatalog.Proofs.Session.Notices
import SignalCatalog.Proofs.Exchange.Independence
import SignalCatalog.Proofs.Exchange.Legible
import SignalCatalog.Proofs.Exchange.Stable
import SignalCatalog.Proofs.Validation.Comparison
import SignalCatalog.Proofs.DataType.Spelling
import SignalCatalog.Proofs.Exchange.Rows
import SignalCatalog.Proofs.Exchange.Reported
import SignalCatalog.Proofs.Editing.Splicing
import SignalCatalog.Proofs.Editing.Pasting
import SignalCatalog.Proofs.Editing.Commuting
import SignalCatalog.Proofs.Editing.Extent
import SignalCatalog.Proofs.Record.Lenient
import SignalCatalog.Proofs.Generation.Accessors
import SignalCatalog.Proofs.Exchange.Columns
import SignalCatalog.Proofs.Files.Replacement
import SignalCatalog.Proofs.Workbook.Numerals
import SignalCatalog.Proofs.Workbook.Placement
import SignalCatalog.Proofs.Validation.Members
import SignalCatalog.Proofs.Calendar.TimeOfDay
import SignalCatalog.Proofs.Signal.Clamping
