import SignalCatalog.Calendar.Reading
import SignalCatalog.Generation.Kind
import SignalCatalog.Log.Config

/-!
# Command line arguments

A command line names one request with its paths. Options for logging and for the date may stand
before and behind the request; one that stands on both sides has its later value. An option with a
value is settled when the next word that belongs to another argument is met, so that an unknown word
is reported before a bad value in front of it.
-/

namespace SignalCatalog.CommandLine

inductive Verb
  | display
  | validate
  | exportBook
  | importBook
  | generate
deriving DecidableEq, Repr

namespace Verb

def all : List Verb := [.display, .validate, .exportBook, .importBook, .generate]

def name : Verb → String
  | .display => "show"
  | .validate => "validate"
  | .exportBook => "export"
  | .importBook => "import"
  | .generate => "generate"

def ofName? (name : String) : Option Verb := all.find? fun verb => verb.name == name

/-- The number of paths that a request takes. -/
def pathCount : Verb → Nat
  | .exportBook | .importBook => 2
  | _ => 1

end Verb

/-- When output is coloured. -/
inductive Colouring
  | auto
  | always
  | never
deriving DecidableEq, Repr

namespace Colouring

def name : Colouring → String
  | auto => "auto"
  | always => "always"
  | never => "never"

def all : List Colouring := [auto, always, never]

end Colouring

/-- Options that take a value, and the paths of a request. -/
inductive Setting
  | color
  | logLevel
  | logFormat
  | logFile
  | referenceDate
  | kind
  | outputFolder
  | script
  | path
deriving DecidableEq, Repr

/-- Options without a value. -/
inductive Switch
  | verbose
  | quiet
  | help
  | version
deriving DecidableEq, Repr

inductive Choice
  | setting (setting : Setting)
  | switch (switch : Switch)
deriving DecidableEq, Repr

/-- Why a command line is refused, or what is shown instead of running it. -/
inductive Refusal
  | help
  | version
  | helpOnNothing
  | noRequest
  | unknownRequest
  | unknownArgument
  | missingArgument
  | conflict
  | unwantedValue
  | badChoice
  | badValue
deriving DecidableEq, Repr

def Refusal.status : Refusal → Nat
  | help | version => 0
  | _ => 2

/-- What has been given on one side of the request. -/
structure Side where
  verbose : Nat
  quiet : Nat
  color : Option Colouring
  logLevel : Option Log.Level
  logFormat : Option Log.Format
  logFile : Option String
  referenceDate : Option Date
  kind : Option GeneratorKind
  outputFolder : Option String
  script : Option String
  /-- In order. -/
  paths : List String
  /-- The last option or path, which is not settled yet, with its value. -/
  pending : Option (Setting × Option String)

namespace Side

def empty : Side := ⟨0, 0, none, none, none, none, none, none, none, none, [], none⟩

/-- Whether a setting that can be given once has been given. -/
def has (side : Side) : Setting → Bool
  | .color => side.color.isSome
  | .logLevel => side.logLevel.isSome
  | .logFormat => side.logFormat.isSome
  | .logFile => side.logFile.isSome
  | .referenceDate => side.referenceDate.isSome
  | .kind => side.kind.isSome
  | .outputFolder => side.outputFolder.isSome
  | .script => side.script.isSome
  | .path => false

/-- Whether nothing has been given. -/
def isEmpty (side : Side) : Bool :=
  side.verbose == 0 && side.quiet == 0 && side.paths.isEmpty &&
    [Setting.color, .logLevel, .logFormat, .logFile, .referenceDate, .kind, .outputFolder,
      .script].all fun setting => !side.has setting

/-- The member of a closed set that has a name. -/
def choose {α : Type} (all : List α) (name : α → String) (word : String) : Except Refusal α :=
  match all.find? fun value => name value == word with
  | some value => .ok value
  | none => .error .badChoice

/-- A path is any text that is not empty. -/
def path (word : String) : Except Refusal String :=
  if word.isEmpty then .error .badChoice else .ok word

/-- The name of a kind as a value: its key with dashes. -/
def kindName (kind : GeneratorKind) : String :=
  String.ofList (kind.key.toList.map fun c => if c = '_' then '-' else c)

/-- A date in the form of the calendar, with blanks around its parts. -/
def date (word : String) : Except Refusal Date :=
  match Calendar.read? Calendar.spacedIsoItems word.toList with
  | some date => .ok date
  | none => .error .badValue

/-- Takes the value of a setting. -/
def assign (side : Side) (setting : Setting) (word : String) : Except Refusal Side :=
  if side.has setting then .error .conflict
  else match setting with
    | .color =>
      (choose Colouring.all Colouring.name word).map fun value => { side with color := some value }
    | .logLevel =>
      (choose Log.Level.all Log.Level.name word).map fun value =>
        { side with logLevel := some value }
    | .logFormat =>
      (choose Log.Format.all Log.Format.name word).map fun value =>
        { side with logFormat := some value }
    | .logFile => (path word).map fun value => { side with logFile := some value }
    | .referenceDate => (date word).map fun value => { side with referenceDate := some value }
    | .kind =>
      (choose GeneratorKind.all kindName word).map fun value => { side with kind := some value }
    | .outputFolder => (path word).map fun value => { side with outputFolder := some value }
    | .script => (path word).map fun value => { side with script := some value }
    | .path => (path word).map fun value => { side with paths := side.paths ++ [value] }

/-- Settles what is pending. -/
def settle (side : Side) : Except Refusal Side :=
  match side.pending with
  | none => .ok side
  | some (_, none) => .error .badChoice
  | some (setting, some word) => { side with pending := none }.assign setting word

/-- The number of paths met, also one that is pending. -/
def pathsMet (side : Side) : Nat :=
  match side.pending with
  | some (.path, _) => side.paths.length + 1
  | _ => side.paths.length

/-- Meets an option without a value. -/
def meetSwitch (side : Side) (switch : Switch) : Except Refusal Side := do
  let side ← side.settle
  match switch with
  | .verbose => .ok { side with verbose := side.verbose + 1 }
  | .quiet => .ok { side with quiet := side.quiet + 1 }
  | .help => .error .help
  | .version => .error .version

/-- Meets an option with a value, which may be attached to it. -/
def meetSetting (side : Side) (setting : Setting) (value : Option String) :
    Except Refusal Side := do
  let side ← side.settle
  match value with
  | some word => side.assign setting word
  | none => .ok { side with pending := some (setting, none) }

/-- What was asked for twice in opposite ways, or is missing for a request. -/
def check (side : Side) (request : Option Verb) : Except Refusal Unit :=
  if side.verbose ≠ 0 && side.quiet ≠ 0 then .error .conflict
  else match request with
    | none => .ok ()
    | some verb =>
      if side.paths.length < verb.pathCount then .error .missingArgument
      else if verb = .generate && side.outputFolder.isNone then .error .missingArgument
      else .ok ()

end Side

/-- The options that are known on a side: without a request those before it. -/
def longOption? (request : Option Verb) (name : String) : Option Choice :=
  match name with
  | "verbose" => some (.switch .verbose)
  | "quiet" => some (.switch .quiet)
  | "help" => some (.switch .help)
  | "version" => if request.isNone then some (.switch .version) else none
  | "color" => some (.setting .color)
  | "log-level" => some (.setting .logLevel)
  | "log-format" => some (.setting .logFormat)
  | "log-file" => some (.setting .logFile)
  | "reference-date" => some (.setting .referenceDate)
  | "kind" => if request = some .generate then some (.setting .kind) else none
  | "output-dir" => if request = some .generate then some (.setting .outputFolder) else none
  | "script" => if request = some .generate then some (.setting .script) else none
  | _ => none

def shortOption? (request : Option Verb) (letter : Char) : Option Switch :=
  match letter with
  | 'v' => some .verbose
  | 'q' => some .quiet
  | 'h' => some .help
  | 'V' => if request.isNone then some .version else none
  | _ => none

/-- The kinds of words outside of values. -/
inductive Word
  | stop
  | long (name : String) (value : Option String)
  | short (letters : List Char)
  | plain

def Word.of (word : String) : Word :=
  match word.toList with
  | ['-', '-'] => .stop
  | '-' :: '-' :: rest =>
    match Text.cutAt? '=' rest with
    | some (name, value) => .long (String.ofList name) (some (String.ofList value))
    | none => .long (String.ofList rest) none
  | '-' :: c :: rest => .short (c :: rest)
  | _ => .plain

/-- Meets the letters behind one dash. -/
def meetLetters (request : Option Verb) (side : Side) : List Char → Except Refusal Side
  | [] => .ok side
  | c :: rest =>
    match shortOption? request c with
    | none => .error .unknownArgument
    | some switch => do meetLetters request (← side.meetSwitch switch) rest

def helpWord : String := "help"

/-- The help that words behind `help` ask for: one request at most. -/
def helpOn : List String → Refusal
  | [] => .help
  | [word] => if word = helpWord || (Verb.ofName? word).isSome then .help else .unknownRequest
  | _ => .unknownRequest

/-- A word that is no option and no value: a path, or one too many. -/
def meetPlain (request : Option Verb) (stopped : Bool) (side : Side) (word : String) :
    Except Refusal Side :=
  match request with
  | none =>
    if stopped && (word = helpWord || (Verb.ofName? word).isSome) then .error .unknownArgument
    else .error .unknownRequest
  | some verb =>
    if verb.pathCount ≤ side.pathsMet then .error .unknownArgument
    else side.settle.map fun side => { side with pending := some (.path, some word) }

/-- Whether an option waits for its value. -/
def Side.waits (side : Side) : Bool :=
  match side.pending with
  | some (_, none) => true
  | _ => false

/-- Reads the words of one side. Before the request it stops at the request and returns it with the
words behind it. -/
def scan (request : Option Verb) (stopped : Bool) (side : Side) :
    List String → Except Refusal (Side × Option (Verb × List String))
  | [] => .ok (side, none)
  | word :: rest =>
    if stopped then do scan request true (← meetPlain request true side word) rest
    else if !side.waits && request.isNone && word = helpWord then .error (helpOn rest)
    else
      match if side.waits || request.isSome then none else Verb.ofName? word with
      | some verb => .ok (side, some (verb, rest))
      | none =>
        match Word.of word with
        | .stop => scan request true side rest
        | .long name value =>
          match longOption? request name, value with
          | none, _ => .error .unknownArgument
          | some (.switch _), some _ => .error .unwantedValue
          | some (.switch switch), none => do
            scan request false (← side.meetSwitch switch) rest
          | some (.setting setting), value => do
            scan request false (← side.meetSetting setting value) rest
        | .short letters => do scan request false (← meetLetters request side letters) rest
        | .plain =>
          match side.pending with
          | some (setting, none) =>
            scan request false { side with pending := some (setting, some word) } rest
          | _ => do scan request false (← meetPlain request false side word) rest

/-- A request with its paths. -/
inductive Request
  | display (project : String)
  | validate (project : String)
  | exportBook (project output : String)
  | importBook (input output : String)
  | generate (project : String) (kind : GeneratorKind) (folder : String) (script : Option String)
deriving DecidableEq, Repr

def Request.verb : Request → Verb
  | .display _ => .display
  | .validate _ => .validate
  | .exportBook .. => .exportBook
  | .importBook .. => .importBook
  | .generate .. => .generate

structure Invocation where
  request : Request
  /-- The threshold of the switches alone. -/
  verbosity : Log.Threshold
  verbosityGiven : Bool
  color : Colouring
  logLevel : Option Log.Level
  logFormat : Log.Format
  logFile : Option String
  referenceDate : Option Date

/-- The threshold a number of steps above or below warnings. -/
def thresholdOf (verbose quiet : Nat) : Log.Threshold :=
  let rank := 2 + verbose - quiet
  if rank = 0 then none
  else some ((Log.Level.all.find? fun level => level.rank == rank).getD .trace)

/-- The request that a side describes, if its paths are complete. -/
def requestOf? (verb : Verb) (side : Side) : Option Request :=
  match verb, side.paths with
  | .display, [project] => some (.display project)
  | .validate, [project] => some (.validate project)
  | .exportBook, [project, output] => some (.exportBook project output)
  | .importBook, [input, output] => some (.importBook input output)
  | .generate, [project] =>
    side.outputFolder.map fun folder =>
      .generate project (side.kind.getD .signalManager) folder side.script
  | _, _ => none

/-- Joins the two sides; what stands behind the request counts. -/
def Invocation.join (request : Request) (before behind : Side) : Invocation :=
  let verbose := if behind.verbose = 0 then before.verbose else behind.verbose
  let quiet := if behind.quiet = 0 then before.quiet else behind.quiet
  { request
    verbosity := thresholdOf verbose quiet
    verbosityGiven := verbose ≠ 0 || quiet ≠ 0
    color := (behind.color.or before.color).getD .auto
    logLevel := behind.logLevel.or before.logLevel
    logFormat := (behind.logFormat.or before.logFormat).getD .pretty
    logFile := behind.logFile.or before.logFile
    referenceDate := behind.referenceDate.or before.referenceDate }

/-- Reads a command line without the name of the program. -/
def parse (words : List String) : Except Refusal Invocation := do
  let (before, found) ← scan none false .empty words
  match found with
  | none =>
    let before ← before.settle
    .error (if before.isEmpty then .helpOnNothing else .noRequest)
  | some (verb, rest) =>
    let (behind, _) ← scan (some verb) false .empty rest
    let behind ← behind.settle
    behind.check (some verb)
    let before ← before.settle
    before.check none
    match requestOf? verb behind with
    | some request => .ok (.join request before behind)
    | none => .error .missingArgument

end SignalCatalog.CommandLine
