import SignalCatalog.Files.Replacement
import SignalCatalog.Scripting.Shell.Command
import SignalCatalog.Text.Numeral
import SignalCatalog.Text.Octets

/-!
# The state of a shell

A shell knows the script with its arguments, variables and functions, the files that are open and the
streams that stand for them, and how the script goes on. Commands run one after another: a pipeline is
run from its start to its end, and a command in the background before what follows it. All texts are
octets; paths become texts when they reach the disk.
-/

namespace SignalCatalog.Shell

/-- What an open file is. -/
inductive Target
  /-- What is written is lost, and there is nothing to read. -/
  | nothing
  /-- The errors of the script. -/
  | errors
  /-- A buffer. -/
  | buffer (text : String)
  | file (place : Place)

structure OpenFile where
  target : Target
  /-- Where the next byte is read or written. -/
  offset : Nat
  appends : Bool
  readable : Bool
  writable : Bool

structure Variable where
  value : Option String
  exported : Bool
  fixed : Bool

/-- How the script goes on behind a command. -/
inductive Flow
  | going
  /-- Leaves a number of loops. -/
  | leaving (loops : Nat)
  /-- Leaves a number of loops but for the last, which goes on with its next round. -/
  | nextRound (loops : Nat)
  /-- Leaves a function or a script that was read in. -/
  | returning
  | ended
  /-- Ended from outside. -/
  | killed
deriving DecidableEq

structure State where
  disk : Disk
  /-- The name of the script. -/
  script : String
  arguments : List String
  /-- The last one set comes first. -/
  bindings : List (String × Variable)
  functions : List (String × Nat × Command)
  /-- The former values of the local variables of each function that is running. -/
  locals : List (List (String × Option Variable))
  /-- The letters of the options that are on. -/
  options : List Char
  /-- What is done at signals and at the end. -/
  traps : List (String × String)
  /-- Signals that have come and not been seen to. -/
  pending : List String
  status : Nat
  /-- The status of the last command whose output was put in. -/
  outputStatus : Nat
  flow : Flow
  loops : Nat
  /-- The line of the command that is running. -/
  line : Nat
  /-- The line at which the function that is running starts. -/
  functionLine : Nat
  /-- The utility of the shell that is running. -/
  utility : Option String
  files : List OpenFile
  /-- The open file of each stream. -/
  streams : List (Nat × Nat)
  /-- What the script has written to its error stream. -/
  errors : String
  /-- The documents of the script, by index. -/
  documents : List (Nat × Word)
  /-- The index of the next document. -/
  nextDocument : Nat
  /-- The places of files that can be run. -/
  runnable : List Place
  /-- The word at which options are taken next, and the offset in it. -/
  optionPlace : Nat × Nat
  /-- Whether this is a shell that another one has started. -/
  nested : Bool
  /-- The number of the process of the shell. -/
  process : Nat
  /-- The processes that have run in the background with their statuses; the last one comes first. -/
  background : List (Nat × Nat)
  /-- The signal that has ended a process. -/
  signal : Nat
  /-- What is written about a process that has ended when its command is done. -/
  notice : String

abbrev Act := StateM State

namespace State

/-- A shell before the first command of a script. -/
def start (disk : Disk) (script : String) (arguments : List String) : State where
  disk := disk
  script := script
  arguments := arguments
  bindings :=
    [("IFS", ⟨some " \t\n", false, false⟩), ("PS4", ⟨some "+ ", false, false⟩),
      ("OPTIND", ⟨some "1", false, false⟩),
      ("PATH", ⟨some "/usr/local/sbin:/usr/local/bin:/usr/sbin:/usr/bin:/sbin:/bin", true, false⟩),
      ("HOME", ⟨some "/root", true, false⟩),
      ("PWD", ⟨some (Text.Octets.ofText ("/" ++ "/".intercalate disk.here)), true, false⟩)]
  functions := []
  locals := []
  options := []
  traps := []
  pending := []
  status := 0
  outputStatus := 0
  flow := .going
  loops := 0
  line := 1
  functionLine := 1
  utility := none
  files := [⟨.nothing, 0, false, true, false⟩, ⟨.nothing, 0, false, false, true⟩,
    ⟨.errors, 0, false, false, true⟩]
  streams := [(0, 0), (1, 1), (2, 2)]
  errors := ""
  documents := []
  nextDocument := 0
  runnable := []
  optionPlace := (1, 0)
  nested := false
  process := 4242
  background := []
  signal := 0
  notice := ""

def has (state : State) (option : Char) : Bool := state.options.contains option

/-! ## Variables -/

def lookup? (state : State) (name : String) : Option Variable :=
  (state.bindings.find? fun item => item.1 = name).map Prod.snd

def valueOf? (state : State) (name : String) : Option String :=
  (state.lookup? name).bind Variable.value

def putVariable (state : State) (name : String) (former : Option Variable) : State :=
  let others := state.bindings.filter fun item => item.1 ≠ name
  { state with bindings := (former.map fun found => (name, found)).toList ++ others }

/-- Sets the value of a variable that may be set. -/
def setValue (state : State) (name value : String) : State :=
  let former := (state.lookup? name).getD ⟨none, state.has 'a', false⟩
  state.putVariable name (some { former with value := some value })

/-- The characters between fields. -/
def separators (state : State) : List Char :=
  match state.lookup? "IFS" with
  | some ⟨some value, _, _⟩ => value.toList
  | _ => [' ', '\t', '\n']

/-! ## Paths -/

/-- The path that octets are. -/
def pathOf (octets : String) : String := Text.Octets.shown octets

/-! ## Open files -/

/-- The content of a file as octets. -/
def contentAt? (state : State) (place : Place) : Option String :=
  ((state.disk.entry? place).bind Entry.content?).map fun content =>
    Text.Octets.ofBytes content.toBytes

def putContent (state : State) (place : Place) (octets : String) : State :=
  { state with
    disk := state.disk.put place (.file (.ofBytes (Text.Octets.toBytes octets))) }

/-- A text with another one in it from an offset on. -/
def overlaid (text : String) (offset : Nat) (more : String) : String :=
  let before := text.toList.take offset
  let gap := List.replicate (offset - before.length) (Char.ofNat 0)
  String.ofList (before ++ gap) ++ more ++
    String.ofList (text.toList.drop (offset + more.length))

def setFile (state : State) (index : Nat) (file : OpenFile) : State :=
  { state with files := state.files.set index file }

/-- Writes to an open file. -/
def writeTo (state : State) (index : Nat) (text : String) : State :=
  match state.files[index]? with
  | none => state
  | some file =>
    if text.isEmpty then state
    else match file.target with
      | .nothing => state
      | .errors => { state with errors := state.errors ++ text }
      | .buffer content => state.setFile index { file with target := .buffer (content ++ text) }
      | .file place =>
        match state.contentAt? place with
        | none => state
        | some content =>
          let offset := if file.appends then content.length else file.offset
          (state.putContent place (overlaid content offset text)).setFile index
            { file with offset := offset + text.length }

/-- What is left to read of an open file. -/
def unread (state : State) (index : Nat) : String :=
  match state.files[index]? with
  | none => ""
  | some file =>
    let content := match file.target with
      | .nothing | .errors => ""
      | .buffer content => content
      | .file place => (state.contentAt? place).getD ""
    String.ofList (content.toList.drop file.offset)

/-- Goes on in an open file behind some octets that have been read. -/
def advance (state : State) (index count : Nat) : State :=
  match state.files[index]? with
  | none => state
  | some file => state.setFile index { file with offset := file.offset + count }

/-- The open file of a stream. -/
def stream? (state : State) (stream : Nat) : Option Nat :=
  (state.streams.find? fun item => item.1 = stream).map Prod.snd

def setStream (state : State) (stream : Nat) (index : Option Nat) : State :=
  let others := state.streams.filter fun item => item.1 ≠ stream
  { state with streams := (index.map fun index => (stream, index)).toList ++ others }

/-- Opens a file for a stream. -/
def openFor (state : State) (stream : Nat) (file : OpenFile) : State :=
  { state with files := state.files ++ [file] }.setStream stream (some state.files.length)

/-- Writes to a stream; nothing happens if it is closed. -/
def write (state : State) (stream : Nat) (text : String) : State :=
  match state.stream? stream with
  | some index => state.writeTo index text
  | none => state

/-! ## Messages -/

/-- A message of the shell: the script, the line, and the utility that is running. -/
def message (state : State) (words : String) : String :=
  state.script ++ ": " ++ Text.number state.line ++ ": " ++
    (state.utility.map fun name => name ++ ": ").getD "" ++ words ++ "\n"

/-- Writes a message to the error stream. -/
def complain (state : State) (words : String) : State := state.write 2 (state.message words)

/-- Ends the shell with a message. -/
def abort (state : State) (words : String) : State :=
  { state.complain words with status := 2, flow := .ended }

end State

namespace Act

/-- Whether the script goes on with the next command. -/
def isGoing : Act Bool := do return (← get).flow = .going

def setStatus (status : Nat) : Act PUnit := modify fun state => { state with status }

def write (stream : Nat) (text : String) : Act PUnit := modify fun state => state.write stream text

def complain (words : String) : Act PUnit := modify fun state => state.complain words

def abort (words : String) : Act PUnit := modify fun state => state.abort words

/-- Sets a variable, unless it is fixed, which ends the shell. -/
def assign (name value : String) : Act PUnit := do
  match (← get).lookup? name with
  | some ⟨_, _, true⟩ => abort (name ++ ": is read only")
  | _ => modify fun state => state.setValue name value

end Act

end SignalCatalog.Shell
