import SignalCatalog.Log.Event
import SignalCatalog.Text.Ascii
import SignalCatalog.Text.Blank
import SignalCatalog.Text.Numeral

/-!
# Which events are written

A threshold lets events up to a level through. A filter is a list of directives: one for everything
and one for each named origin, of which the last that names an event's origin decides. The
configuration sets a threshold for the origins of this library and leaves all others at warnings.
-/

namespace SignalCatalog.Log

namespace Level

/-- Errors have the least rank. -/
def rank : Level → Nat
  | error => 1
  | warn => 2
  | info => 3
  | debug => 4
  | trace => 5

def name : Level → String
  | error => "error"
  | warn => "warn"
  | info => "info"
  | debug => "debug"
  | trace => "trace"

def all : List Level := [error, warn, info, debug, trace]

end Level

/-- The most talkative level that is let through; none turns everything off. -/
abbrev Threshold := Option Level

namespace Threshold

def name (threshold : Threshold) : String := (threshold.map Level.name).getD "off"

def rank (threshold : Threshold) : Nat := (threshold.map Level.rank).getD 0

def passes (threshold : Threshold) (level : Level) : Bool := level.rank ≤ rank threshold

/-- The levels in the order of their ranks, with that of nothing in front. -/
def all : List Threshold := none :: Level.all.map some

/-- Reads a level by its rank, or by its name in any case. -/
def ofText? (text : String) : Option Threshold :=
  let word := Text.lowered text
  match Text.unsigned? Text.maxWord64 text.toList with
  | some rank => all[rank]?
  | none => all.find? fun threshold => threshold.name == word

end Threshold

namespace Origin

def name : Origin → String
  | program => "sigm"
  | commandLine => "sigm_cli"
  | generation => "sigm_codegen"
  | editing => "sigm_core"
  | catalog => "sigm_model"
  | storage => "sigm_persistence"
  | validation => "sigm_validate"
  | workbook => "sigm_workbook"

def all : List Origin :=
  [program, commandLine, generation, editing, catalog, storage, validation, workbook]

end Origin

inductive Format
  | pretty
  | compact
  | json
deriving DecidableEq, Repr

namespace Format

def name : Format → String
  | pretty => "pretty"
  | compact => "compact"
  | json => "json"

def all : List Format := [pretty, compact, json]

end Format

/-- How a log is written. -/
structure Config where
  threshold : Threshold
  /-- A filter in the environment takes the place of the threshold. -/
  usesEnvironment : Bool
  showsTime : Bool
  showsOrigin : Bool
  colored : Bool
  format : Format
  file : Option String
deriving DecidableEq, Repr

namespace Config

def default : Config where
  threshold := some .warn
  usesEnvironment := true
  showsTime := false
  showsOrigin := false
  colored := true
  format := .pretty
  file := none

/-- The filter of the threshold as text. -/
def directives (config : Config) : String :=
  ",".intercalate
    ("warn" :: Origin.all.map fun origin => origin.name ++ "=" ++ config.threshold.name)

end Config

end SignalCatalog.Log
