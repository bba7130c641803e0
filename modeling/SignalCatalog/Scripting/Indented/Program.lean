import SignalCatalog.Scripting.Indented.Evaluation
import SignalCatalog.Scripting.Utilities.Calls

/-!
# The default interpreter

A script is read and run to its end; then what it has set up for the end is called. An exception that
nothing handles is written to the error stream, and so is the message of an exit that is no number.
-/

namespace SignalCatalog.Indented

/-- What is to be run. -/
structure Source where
  /-- The name under which the script sees itself. -/
  name : String
  /-- The path that is shown with errors. -/
  path : String
  arguments : List String
  text : String

namespace Source

/-- The line of a number without the blanks around it. -/
def line (source : Source) (number : Nat) : String :=
  let lines := (Text.pieces '\n' source.text.toList).map Text.trim
  String.ofList (lines.getD (number - 1) [])

def lineWords (source : Source) (number : Nat) : String :=
  let line := source.line number
  if line = "" then "" else "    " ++ line ++ "\n"

/-- What is said about a script that cannot be read. -/
def misread (source : Source) (misreading : Misreading) : String :=
  "  File \"" ++ source.path ++ "\", line " ++ Text.number misreading.line ++ "\n" ++
    source.lineWords misreading.line ++ misreading.words ++ "\n"

/-- The lines through which an exception came. -/
def trace (source : Source) (trace : List (Nat × String)) : String :=
  "Traceback (most recent call last):\n" ++ String.join (trace.map fun (line, name) =>
    "  File \"" ++ source.path ++ "\", line " ++ Text.number line ++ ", in " ++ name ++ "\n" ++
      source.lineWords line)

end Source

namespace Run

variable (engine : Engine)

/-- Writes to the error stream of the script. -/
def complain (words : String) : Run Unit := do
  match ← thing? ((← setting? "sys.stderr").getD .nothing) with
  | some (.file file) =>
    if !file.closed then inWorld (modify fun state =>
      state.writeTo file.index (Text.Octets.ofText words))
  | some (.record _ _) =>
    let stream := (← setting? "sys.stderr").getD .nothing
    let _ ← engine.call (← engine.member stream "write") ⟨[.text words], []⟩
  | _ => return

/-- What is said about an exception that nothing handles. -/
def lastWords (source : Source) (exception : Value) (trace : List (Nat × String)) : Run String := do
  let text ← textOf engine exception
  let kind ← kindName exception
  return source.trace trace ++ kind ++ (if text = "" then "" else ": " ++ text) ++ "\n"

/-- The status that an exit asks for. -/
def statusOfExit (exception : Value) : Run Nat := do
  let value ← engine.member exception "code"
  match value, integer? value with
  | .nothing, _ => return 0
  | _, some n => return if -(2 ^ 63) ≤ n && n < 2 ^ 63 then (n % 256).toNat else 255
  | value, none =>
    complain engine ((← textOf engine value) ++ "\n")
    return 1

/-- The status at the end of what has been run. -/
def statusOf (source : Source) (action : Run Unit) : Run Nat := do
  match ← Inside.caught action with
  | .ok () => return 0
  | .error (exception, trace) =>
    if ← isOf exception (.native "SystemExit") then statusOfExit engine exception
    else
      complain engine (← lastWords engine source exception trace)
      if ← isOf exception (.native "KeyboardInterrupt") then throw (.killed 2)
      return 1

/-- Calls what has been set up for the end; `fuel` bounds how much it is. -/
def runHooks : (fuel : Nat) → Run Unit
  | 0 => return
  | fuel + 1 => do
    match (← get).hooks with
    | [] => return
    | (function, values) :: rest =>
      modify fun machine => { machine with hooks := rest }
      match ← Inside.caught (engine.call function ⟨values, []⟩) with
      | .ok _ => pure ()
      | .error (exception, trace) =>
        if !(← isOf exception (.native "SystemExit")) then
          complain engine ("Exception ignored in atexit callback:\n" ++
            (← lastWords engine ⟨"", "", [], ""⟩ exception trace))
      runHooks fuel

/-- The stream of a number, as a file of the script. -/
def streamFile (number : Nat) (name mode : String) : Run Value := do
  match (← get).world.stream? number with
  | some index => make (.file ⟨index, name, mode, false⟩)
  | none => return .nothing

/-- Sets up what a script finds at its start. -/
def prepare (source : Source) : Run Unit := do
  let world := (← get).world
  let scope ← makeScope ⟨[("__name__", .text "__main__"), ("__file__", .text source.path),
    ("__doc__", .nothing)], none, [], [], false⟩
  let _ := scope
  setSetting "sys.argv" (← makeList ((source.name :: source.arguments).map .text))
  setSetting "sys.path" (← makeList [.text (parentOf source.path)])
  let exported := world.bindings.filterMap fun (name, found) =>
    if found.exported then found.value.map fun value =>
      (Value.text (Text.Octets.shown name), Value.text (Text.Octets.shown value))
    else none
  setSetting "os.environ" (← make (.dict exported))
  setSetting "sys.stdin" (← streamFile 0 "<stdin>" "r")
  setSetting "sys.stdout" (← streamFile 1 "<stdout>" "w")
  setSetting "sys.stderr" (← streamFile 2 "<stderr>" "w")

/-- Runs a script to its end and gives its status. -/
def runSource (source : Source) : Run Nat := do
  prepare source
  match readScript source.text with
  | .error misreading =>
    complain engine (source.misread misreading)
    return 1
  | .ok lines =>
    let status ← statusOf engine source (Inside.inFrame "<module>" do
      let _ ← execute engine maxNesting 0 lines)
    runHooks engine 1000
    return status

end Run

/-! ## The words of a call -/

/-- A call that cannot be followed: a status and a message. -/
structure Refusal where
  status : Nat
  words : String

/-- Reads the script that some words name; `fuel` bounds their number. -/
def sourceOf (world : Shell.State) : (fuel : Nat) → List String → Except Refusal Source
  | 0, _ => .error ⟨2, ""⟩
  | fuel + 1, words =>
    let absolute (path : String) : String :=
      if path.startsWith "/" then path else Path.join ("/" ++ "/".intercalate world.disk.here) path
    let ofInput (name : String) (arguments : List String) : Except Refusal Source :=
      let text := ((world.stream? 0).map world.unread).getD ""
      .ok ⟨name, "<stdin>", arguments, Text.Octets.shown text⟩
    match words with
    | [] => ofInput "" []
    | "-" :: rest => ofInput "-" rest
    | "-c" :: text :: rest => .ok ⟨"-c", "<string>", rest, text⟩
    | ["-c"] => .error ⟨2, "Argument expected for the -c option\n"⟩
    | "-m" :: module :: _ =>
      .error ⟨1, "/usr/bin/" ++ defaultInterpreter ++ ": No module named " ++ module ++ "\n"⟩
    | "-W" :: _ :: rest | "-X" :: _ :: rest => sourceOf world fuel rest
    | word :: rest =>
      if word.startsWith "-" then
        if word.toList.tail.all fun c => "uBEOSsIbdqvi".contains c then sourceOf world fuel rest
        else .error ⟨2, "unknown option " ++ word ++ "\n"⟩
      else
        let refuse (words : String) : Except Refusal Source :=
          .error ⟨2, "/usr/bin/" ++ defaultInterpreter ++ ": can't open file '" ++ absolute word ++
            "': " ++ words ++ "\n"⟩
        match world.disk.find word with
        | .ok (_, .file content) =>
          match Text.Octets.toText? (Text.Octets.ofBytes content.toBytes) with
          | some text => .ok ⟨word, absolute word, rest, text⟩
          | none => .error ⟨1, "SyntaxError: Non-UTF-8 code in file " ++ absolute word ++
              " on line 1, but no encoding declared\n"⟩
        | .ok (_, .folder) => .error ⟨1, "/usr/bin/" ++ defaultInterpreter ++
            ": can't find '__main__' module in '" ++ absolute word ++ "'\n"⟩
        | .error .notDirectory => refuse "[Errno 20] Not a directory"
        | .error _ => refuse "[Errno 2] No such file or directory"

/-- The program that runs indented scripts. -/
def interpreter (engine : Shell.Engine) : Shell.Utility := fun words => do
  let before ← get
  match sourceOf before (words.length + 1) (words.map Text.Octets.shown) with
  | .error refusal =>
    Shell.Act.write 2 (Text.Octets.ofText refusal.words)
    return refusal.status
  | .ok source =>
    let isProgram (name : String) : Bool :=
      (Utilities.program? engine (Shell.Act.programName name)).isSome ||
        ["sh", "dash", "bash", defaultInterpreter].contains (Shell.Act.programName name) ||
        Shell.Act.sharedNames.contains (Shell.Act.programName name)
    let bare : Engine :=
      ⟨fun _ _ => return .nothing, fun _ _ => return .nothing, isProgram, Utilities.call engine,
        fun text => Shell.Act.runScript engine "sh" [] text⟩
    let start : Machine := ⟨before, #[], #[], [], [], [], [], []⟩
    let (outcome, machine) := (Run.runSource bare.withCalls source).run.run start
    let after := machine.world
    set { after with
      disk := { after.disk with here := before.disk.here }
      process := before.process
      streams := before.streams }
    match outcome with
    | .ok status => return status
    | .error (.ended status) => return status
    | .error (.killed signal) =>
      modify fun state => { state with flow := .killed, signal := signal }
      return 128 + signal
    | .error (.raised _ _) => return 1

end SignalCatalog.Indented
