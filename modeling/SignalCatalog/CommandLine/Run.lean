import SignalCatalog.CommandLine.Report

/-!
# Runs of the command line

A run reads its arguments, opens the log file if there is one, does what it was asked for and writes
its log. Logs go to the error stream or are appended to the log file. The surroundings of a run are its
world, the filter text of the environment and the time that is written into logs.
-/

namespace SignalCatalog.CommandLine

structure Surroundings where
  world : World
  /-- The text of the filter in the environment. -/
  filterText : Option String
  /-- The time, as it is written into logs. -/
  time : String

/-- How the log of a run is written. Without a terminal, colour has to be asked for. -/
def Invocation.logConfig (invocation : Invocation) : Log.Config :=
  { Log.Config.default with
    threshold := match invocation.logLevel with
      | some level => some level
      | none => invocation.verbosity
    usesEnvironment := !(invocation.verbosityGiven || invocation.logLevel.isSome)
    colored := invocation.color = .always
    format := invocation.logFormat
    file := invocation.logFile }

/-- Does what was asked for and writes its log. -/
def Invocation.run (invocation : Invocation) (around : Surroundings) (disk : Disk) :
    Report × Disk :=
  let config := invocation.logConfig
  let writer := config.writer around.filterText around.time
  let work (disk : Disk) : Report × Desk :=
    invocation.request.run around.world disk invocation.referenceDate
  match config.file with
  | none =>
    let (report, desk) := work disk
    ({ report with errors := writer.lines desk.events ++ report.errors }, desk.disk)
  | some path =>
    match disk.openLog path writer with
    | .error cause =>
      (⟨1, [], ["error: failed to initialize logging: " ++ cause.message]⟩, disk)
    | .ok disk =>
      let (report, desk) := work disk
      (report, desk.disk.closeLog)

def versionLine : String := "sigm 0.1.0"

/-- The words for arguments that are refused. -/
def Refusal.words : Refusal → String
  | help | version => ""
  | helpOnNothing | noRequest => "no request is given"
  | unknownRequest => "there is no such request"
  | unknownArgument => "there is no such argument"
  | missingArgument => "an argument is missing"
  | conflict => "two arguments exclude each other"
  | unwantedValue => "an option has a value that it does not take"
  | badChoice => "an option has a value that is not one of its choices"
  | badValue => "an option has a value that cannot be read"

def usage : List String :=
  ["Signal manager configuration tool", "",
    "Usage: sigm [OPTIONS] <COMMAND>", "",
    "  show <PROJECT>", "  validate <PROJECT>", "  export <PROJECT> <XLSX>",
    "  import <XLSX> <PROJECT>",
    "  generate <PROJECT> --output-dir <DIR> [--kind <KIND>] [--script <PATH>]", "",
    "Options: -v, --verbose; -q, --quiet; --color <WHEN>; --log-level <LEVEL>;",
    "  --log-format <FORMAT>; --log-file <PATH>; --reference-date <DATE>; -h, --help; -V, --version"]

/-- The report of arguments that ask for no run. -/
def Refusal.report : Refusal → Report
  | help => success (usage.map .text)
  | version => success [.text versionLine]
  | refusal => ⟨refusal.status, [], ("error: " ++ refusal.words) :: "" :: usage⟩

/-- Runs a command line without the name of the program. -/
def run (around : Surroundings) (words : List String) (disk : Disk) : Report × Disk :=
  match parse words with
  | .error refusal => (refusal.report, disk)
  | .ok invocation => invocation.run around disk

end SignalCatalog.CommandLine
