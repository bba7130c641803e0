import SignalCatalog.Log.Filter
import SignalCatalog.Log.Line

/-!
# Writers of logs

A writer knows which events are written, and how.
-/

namespace SignalCatalog.Log

structure Writer where
  filter : Filter
  format : Format
  colored : Bool
  /-- The time, as it is written. -/
  time : String
deriving DecidableEq

namespace Writer

/-- The lines of those of some events that are written. -/
def lines (writer : Writer) (events : List Event) : List String :=
  (events.filter writer.filter.passes).map (Event.written writer.format writer.colored writer.time)

/-- The lines with their line breaks. -/
def text (writer : Writer) (events : List Event) : String :=
  String.join ((writer.lines events).map (· ++ "\n"))

theorem lines_append (writer : Writer) (first second : List Event) :
    writer.lines (first ++ second) = writer.lines first ++ writer.lines second := by
  simp [lines]

end Writer

/-- The writer of a configuration, given the filter of the environment as text. -/
def Config.writer (config : Config) (environment : Option String) (time : String) : Writer :=
  ⟨config.filter environment, config.format, config.colored, time⟩

end SignalCatalog.Log
