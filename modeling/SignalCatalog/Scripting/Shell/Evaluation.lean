import SignalCatalog.Scripting.Shell.Builtin

/-!
# Running commands

A simple command is expanded, its redirections are done, its variables are set, and then its name is
looked up: among the utilities of the language, the functions, the other utilities of the shell, and the
programs. What a command changes beyond files and output stays only if it runs in the shell itself.
-/

namespace SignalCatalog.Shell

/-- A program that commands can start: it is given its arguments and gives a status. -/
abbrev Utility := List String → Act Nat

/-- The programs by their names; they can run commands in their turn. -/
abbrev Programs := Engine → String → Option Utility

/-- The most rounds of a loop. -/
def maxRounds : Nat := 1000000

namespace Act

variable (engine : Engine) (programs : Programs)

/-- A failure ends a strict script unless it is tested. -/
def checkStrict (tested : Bool) : Act PUnit :=
  modify fun state =>
    if state.has 'e' && !tested && state.status ≠ 0 && state.flow = .going then
      { state with flow := .ended }
    else state

/-- Does what is to be done for the signals that have come. -/
def seeToSignals : Act PUnit := do
  for name in (← get).pending do
    let state ← get
    match state.traps.find? fun trap => trap.1 = name with
    | some (_, action) =>
      set { state with pending := state.pending.erase name }
      runText engine action
      modify fun inner => if inner.flow = .going then { inner with status := state.status } else inner
    | none => set { state with pending := state.pending.erase name }

/-! ## Names of commands -/

/-- The name of a program behind the folders of the system. -/
def programName (name : String) : String :=
  match ["/usr/local/bin/", "/usr/bin/", "/bin/", "/usr/sbin/", "/sbin/"].findSome? fun folder =>
    Text.after? folder.toList name.toList with
  | some base => String.ofList base
  | none => name

/-- What is said about a process that a signal has ended. -/
def noticeOf (signal : Nat) : String :=
  match ([(1, "Hangup"), (3, "Quit"), (4, "Illegal instruction"), (5, "Trace/breakpoint trap"),
    (6, "Aborted"), (7, "Bus error"), (8, "Floating point exception"), (9, "Killed"),
    (10, "User defined signal 1"), (11, "Segmentation fault"), (12, "User defined signal 2"),
    (14, "Alarm clock"), (15, "Terminated")].find? fun item => item.1 = signal) with
  | some (_, words) => words ++ "\n"
  | none => ""

/-- Goes on behind a process of its own, which a signal may have ended. -/
def afterProcess (outer : State) : Act Nat := do
  let state ← get
  if state.flow = .killed then
    set { state with
      flow := outer.flow
      status := 128 + state.signal
      notice := state.notice ++ noticeOf state.signal }
  return (← get).status

/-- Runs a text as a script of its own. -/
def runScript (script : String) (arguments : List String) (text : String) : Act Nat := do
  let outer ← get
  inSubshell engine do
    modify fun state =>
      { state with
        process := state.process + 1000
        background := []
        script
        arguments
        bindings := state.bindings.filter fun item =>
          item.2.exported || ["IFS", "PS4", "OPTIND"].contains item.1
        functions := []
        options := []
        traps := []
        locals := []
        loops := 0
        line := 1
        utility := none
        status := 0 }
    runText engine text
  afterProcess outer

/-- Runs a shell that has been called by its name. -/
def shellProgram (arguments : List String) : Act Nat := do
  let options := (arguments.takeWhile fun word => word.startsWith "-" && word ≠ "-c").flatMap
    String.toList
  let arguments := arguments.dropWhile fun word => word.startsWith "-" && word ≠ "-c"
  let withOptions (text : String) : String :=
    if options.contains 'e' then "set -e\n" ++ text else text
  match arguments with
  | "-c" :: text :: name :: rest => runScript engine name rest (withOptions text)
  | ["-c", text] => runScript engine "sh" [] (withOptions text)
  | ["-c"] =>
    write 2 "sh: 0: -c requires an argument\n"
    return 2
  | [] =>
    let state ← get
    match state.stream? 0 with
    | some index =>
      let text := state.unread index
      set (state.advance index text.length)
      runScript engine "sh" [] (withOptions text)
    | none => return 0
  | script :: rest =>
    let state ← get
    match state.disk.find (State.pathOf script) with
    | .ok (place, .file _) =>
      runScript engine script rest (withOptions ((state.contentAt? place).getD ""))
    | _ =>
      write 2 ("sh: 0: cannot open " ++ script ++ ": No such file\n")
      return 2

/-- Runs a program as a process of its own. -/
def runKnown (program : Utility) (arguments : List String) : Act Nat := do
  let outer ← get
  set { outer with utility := none }
  let status ← program arguments
  modify fun inner => { inner with utility := outer.utility }
  if (← get).flow = .killed then afterProcess outer else return status

/-- Runs a file. One that is no script of the shell cannot be run. -/
def runFile (path : String) (arguments : List String) : Act Nat := do
  let state ← get
  let say (status : Nat) (words : String) : Act Nat := do
    complain (path ++ ": " ++ words)
    return status
  match state.disk.find (State.pathOf path) with
  | .error .notFound | .error .notDirectory => say 127 "not found"
  | .error cause => say 126 (osWords cause)
  | .ok (_, .folder) => say 126 "Permission denied"
  | .ok (place, .file _) =>
    if !state.runnable.contains place then say 126 "Permission denied"
    else
      let text := (state.contentAt? place).getD ""
      let lead := (text.toList.takeWhile (· ≠ '\n'))
      match Text.after? "#!".toList lead with
      | none => runScript engine path arguments text
      | some words =>
        match (Text.pieces ' ' (Text.trim words)).map String.ofList with
        | interpreter :: options =>
          let name := programName interpreter
          let (name, options) := match name, options with
            | "env", name :: rest => (name, rest)
            | name, options => (name, options)
          if ["sh", "dash", "bash"].contains name then
            shellProgram engine (options ++ path :: arguments)
          else match programs engine name with
            | some program => runKnown program (options ++ path :: arguments)
            | none => say 127 "not found"
        | [] => say 126 "Exec format error"

/-- The utilities of the shell that are programs as well. -/
def sharedNames : List String := ["echo", "printf", "test", "[", "true", "false", "pwd", "kill"]

/-- Runs a program by its name or its path. -/
def runProgram (name : String) (arguments : List String) : Act Nat := do
  let base := programName name
  if ["sh", "dash", "bash"].contains base then shellProgram engine arguments
  else match programs engine base with
    | some program => runKnown program arguments
    | none =>
      match if sharedNames.contains base then ownUtility? base else none with
      | some utility => utility arguments
      | none =>
        if base.contains '/' then runFile engine programs name arguments
        else if name = "" then
          complain ": Permission denied"
          return 127
        else
          complain (name ++ ": not found")
          return 127

/-- Calls a function. -/
def callFunction (tested : Bool) (line : Nat) (body : Command) (arguments : List String) :
    Act Nat := do
  let outer ← get
  set { outer with
    arguments
    functionLine := line
    loops := 0
    locals := [] :: outer.locals }
  engine.run tested body
  let inner ← get
  let frame := inner.locals.headD []
  let restored := frame.foldl (fun state (name, former) => state.putVariable name former) inner
  set { restored with
    arguments := outer.arguments
    functionLine := outer.functionLine
    loops := outer.loops
    locals := outer.locals
    flow := if inner.flow = Flow.returning then Flow.going else inner.flow }
  return inner.status

/-! ## Utilities that run commands -/

/-- Runs one of the shell's own utilities under its name. -/
def callOwn (name : String) (utility : Utility) (arguments : List String) : Act Nat := do
  let outer := (← get).utility
  modify fun state => { state with utility := some name }
  let status ← utility arguments
  modify fun state => { state with utility := outer }
  return status

/-- Runs the words of a text. -/
def evaluate (tested : Bool) (arguments : List String) : Act Nat := do
  let text := " ".intercalate arguments
  if text.toList.all fun c => c = ' ' || c = '\t' || c = '\n' then return 0
  runTextAs engine tested text
  return (← get).status

/-- Runs the commands of a file in the shell itself. -/
def readIn (arguments : List String) : Act Nat := do
  match arguments with
  | [] => return 0
  | path :: _ =>
    let state ← get
    if !path.contains '/' then aborts (path ++ ": not found")
    else match state.disk.find (State.pathOf path) with
      | .ok (place, .file _) =>
        setStatus 0
        runText engine ((state.contentAt? place).getD "")
        modify fun inner => if inner.flow = .returning then { inner with flow := .going } else inner
        return (← get).status
      | .ok (_, .folder) => return 0
      | .error cause =>
        aborts (openingWords .read path cause)

/-- Tells what a name stands for. -/
def describe (brief : Bool) (name : String) : Act Nat := do
  let say (words : String) : Act Nat := do
    write 1 (words ++ "\n")
    return 0
  if keywords.contains name then
    say (if brief then name else name ++ " is a shell keyword")
  else if ((← get).functions.any fun item => item.1 = name) then
    say (if brief then name else name ++ " is a shell function")
  else if Reading.specialNames.contains name then
    say (if brief then name else name ++ " is a special shell builtin")
  else if isOwn name then
    say (if brief then name else name ++ " is a shell builtin")
  else if (programs engine (programName name)).isSome ||
      ["sh", "dash", "bash"].contains (programName name) then
    let path := "/usr/bin/" ++ programName name
    say (if brief then path else name ++ " is " ++ path)
  else
    if !brief then write 1 (name ++ ": not found\n")
    return 127

def describeAll (arguments : List String) : Act Nat := do
  let mut status := 0
  for name in arguments do
    let found ← describe engine programs false name
    if found ≠ 0 then status := found
  return status

/-- Looks for programs, and complains about those that are not there. -/
def findAll (arguments : List String) : Act Nat := do
  let mut status := 0
  for name in arguments.filter fun word => !word.startsWith "-" do
    let streams := (← get).streams
    modify fun state => state.openFor 1 ⟨.nothing, 0, false, false, true⟩
    let found ← describe engine programs true name
    modify fun state => { state with streams }
    if found ≠ 0 then
      complain (name ++ ": not found")
      status := 1
  return status

/-! ## Simple commands -/

/-- Runs a command that has been expanded; functions can be left out. -/
def call (tested withFunctions : Bool) (name : String) (arguments : List String) : Act Nat := do
  let functions := (← get).functions
  let usable := withFunctions && !Reading.specialNames.contains name
  match if usable then functions.find? fun item => item.1 = name else none with
  | some (_, line, body) => callFunction engine tested line body arguments
  | none =>
    match ownUtility? name with
    | some utility => callOwn name utility arguments
    | none =>
      match name with
      | "eval" => callOwn name (evaluate engine tested) arguments
      | "." => callOwn name (readIn engine) arguments
      | "hash" => callOwn name (findAll engine programs) arguments
      | "type" => callOwn name (describeAll engine programs) arguments
      | name => runProgram engine programs name arguments

/-- Runs a command that has been expanded, by way of the utilities that lead to another command. -/
def callAny (tested : Bool) :
    (fuel : Nat) → (withFunctions : Bool) → (name : String) → List String → Act Nat
  | 0, _, _, _ => return 127
  | fuel + 1, withFunctions, name, arguments => do
    match name, arguments with
    | "command", "-v" :: name :: _ => describe engine programs true name
    | "command", "-V" :: name :: _ => describe engine programs false name
    | "command", "-p" :: name :: rest | "command", "--" :: name :: rest
    | "command", name :: rest => callAny tested fuel false name rest
    | "command", [] => return 0
    | "exec", [] => return 0
    | "exec", "--" :: name :: rest | "exec", name :: rest =>
      let status ← callOwn "exec" (fun rest => runProgram engine programs name rest) rest
      modify fun state => if state.flow = .killed then state else { state with flow := .ended }
      return status
    | name, arguments => call engine programs tested withFunctions name arguments

/-- The fields of the words of a command. Words that set a variable are not split behind the utilities
that mark variables. -/
def commandFields (words : List Word) : Act (List String) := do
  match words with
  | [] => return []
  | first :: rest =>
    let start ← expandWord engine first
    if !(← isGoing) then return []
    let marks := match start with
      | name :: _ => ["export", "readonly", "local"].contains name
      | [] => false
    if !marks then return start ++ (← expandWords engine rest)
    let mut found := start
    for word in rest do
      let fields ← match Reading.assignment? word with
        | some _ => do pure [← expandText engine word]
        | none => expandWord engine word
      if !(← isGoing) then return []
      found := found ++ fields
    return found

/-- Shows a command before it runs, if that is asked for. -/
def trace (values : List (String × String)) (fields : List String) : Act PUnit := do
  let state ← get
  if state.has 'x' then
    let words := values.map (fun (name, value) => name ++ "=" ++ value) ++ fields
    write 2 ((state.valueOf? "PS4").getD "" ++ " ".intercalate words ++ "\n")

/-- Sets the variables of a command for its run, and gives their former values. -/
def lend (values : List (String × String)) : Act (List (String × Option Variable)) := do
  let mut former := []
  for (name, value) in values do
    former := (name, (← get).lookup? name) :: former
    assign name value
    modify fun state =>
      match state.lookup? name with
      | some found => state.putVariable name (some { found with exported := true })
      | none => state
  return former

/-- Runs a command that has been expanded and whose redirections have been done. -/
def runFields (tested : Bool) (values : List (String × String)) (fields : List String) : Act PUnit := do
  trace values fields
  match fields with
  | [] =>
    for (name, value) in values do
      assign name value
    if ← isGoing then setStatus (← get).outputStatus
  | name :: arguments =>
    if Reading.specialNames.contains name then
      for (name, value) in values do
        assign name value
      if ← isGoing then
        let status ← callAny engine programs tested 100 true name arguments
        if (← get).flow ≠ .killed then setStatus status
    else
      let former ← lend values
      if ← isGoing then
        let status ← callAny engine programs tested 100 true name arguments
        setStatus status
        modify fun state => former.foldl (fun state (name, found) => state.putVariable name found) state

def simple (tested : Bool) (line : Nat) (assignments : List (String × Word)) (words : List Word)
    (redirections : List Redirection) : Act PUnit := do
  modify fun state => { state with line, outputStatus := 0 }
  let fields ← commandFields engine words
  if !(← isGoing) then return
  let streams := (← get).streams
  match ← redirect engine redirections with
  | some message =>
    complain message
    setStatus 2
    if fields.head?.any Reading.specialNames.contains then
      modify fun state => { state with flow := .ended }
  | none =>
    if ← isGoing then
      let mut values := []
      for (name, word) in assignments do
        if ← isGoing then values := (name, ← expandText engine word) :: values
      if ← isGoing then runFields engine programs tested values.reverse fields
  if fields ≠ ["exec"] || (← get).status ≠ 0 then modify fun state => { state with streams }
  let notice := (← get).notice
  if notice ≠ "" then
    write 2 notice
    modify fun state => { state with notice := "" }
  seeToSignals engine
  checkStrict tested

/-! ## Other commands -/

/-- What a loop does behind one of its parts: whether it goes on. -/
def endOfRound : Act Bool := do
  let state ← get
  match state.flow with
  | .going => return true
  | .leaving n =>
    set { state with flow := if n ≤ 1 then .going else .leaving (n - 1) }
    return false
  | .nextRound n =>
    set { state with flow := if n ≤ 1 then .going else .nextRound (n - 1) }
    return n ≤ 1
  | _ => return false

def runLoop (tested whileTrue : Bool) (condition body : Command) : Act PUnit := do
  modify fun state => { state with loops := state.loops + 1 }
  let mut status := 0
  for _ in [0:maxRounds] do
    engine.run true condition
    let skipped := (← get).flow ≠ .going
    if !(← endOfRound) then
      if (← get).flow ≠ .going then status := (← get).status
      break
    if skipped then continue
    if ((← get).status = 0) ≠ whileTrue then break
    engine.run tested body
    status := (← get).status
    if !(← endOfRound) then break
  modify fun state => { state with loops := state.loops - 1, status }

def runEach (tested : Bool) (line : Nat) (name : String) (words : List Word) (body : Command) :
    Act PUnit := do
  modify fun state => { state with line }
  let fields ← expandWords engine words
  if !(← isGoing) then return
  modify fun state => { state with loops := state.loops + 1, status := 0 }
  for field in fields do
    assign name field
    if !(← isGoing) then break
    engine.run tested body
    if !(← endOfRound) then break
  modify fun state => { state with loops := state.loops - 1 }

def runCases (tested : Bool) (line : Nat) (word : Word) (arms : List (List Word × Command)) :
    Act PUnit := do
  modify fun state => { state with line }
  let text ← expandText engine word
  if !(← isGoing) then return
  for (patterns, body) in arms do
    for word in patterns do
      let pattern ← expandPattern engine word
      if !(← isGoing) then return
      if pattern.isMatch text.toList then
        match body with
        | .nothing => setStatus 0
        | body => engine.run tested body
        return
  setStatus 0

/-- Runs something with redirections, which are undone behind it. -/
def withRedirections (redirections : List Redirection) (body : Act PUnit) : Act PUnit := do
  let streams := (← get).streams
  match ← redirect engine redirections with
  | some message =>
    complain message
    setStatus 2
  | none => if ← isGoing then body
  modify fun state => { state with streams }

/-- Runs commands of which each reads what the one before it writes. -/
def runPipeline (tested : Bool) : (input : Option Nat) → List Command → Act PUnit
  | _, [] => return
  | input, command :: rest => do
    let index := (← get).files.length
    let last := rest.isEmpty
    if !last then
      modify fun state => { state with files := state.files ++ [⟨.buffer "", 0, false, true, true⟩] }
    inSubshell engine do
      modify fun state =>
        let state := match input with
          | some input => state.setStream 0 (some input)
          | none => state
        if last then state else state.setStream 1 (some index)
      engine.run tested command
    if (← isGoing) then runPipeline tested (some index) rest

/-- Runs a command with the engine for what is nested in it. -/
def runCommand (tested : Bool) : Command → Act PUnit
  | .nothing => setStatus 0
  | .simple line assignments words redirections =>
    simple engine programs tested line assignments words redirections
  | .negated command => do
    engine.run true command
    if ← isGoing then modify fun state => { state with status := if state.status = 0 then 1 else 0 }
  | .pipeline commands => do
    runPipeline engine tested none commands
    checkStrict tested
  | .background command => do
    inSubshell engine do
      modify fun state =>
        (state.openFor 0 ⟨.nothing, 0, false, true, false⟩)
      engine.run false command
    if (← get).flow = .going then
      modify fun state =>
        let process := state.process + 1 + state.background.length
        { state with status := 0, background := (process, state.status) :: state.background }
  | .both first second => do
    engine.run true first
    if (← isGoing) && (← get).status = 0 then engine.run tested second
  | .either first second => do
    engine.run true first
    if (← isGoing) && (← get).status ≠ 0 then engine.run tested second
  | .sequence first second => do
    engine.run tested first
    if ← isGoing then engine.run tested second
  | .subshell line body redirections => do
    modify fun state => { state with line }
    inSubshell engine (withRedirections engine redirections (engine.run tested body))
    checkStrict tested
  | .redirected line body redirections => do
    modify fun state => { state with line }
    withRedirections engine redirections (engine.run tested body)
  | .choice condition body otherwise => do
    engine.run true condition
    if ← isGoing then
      if (← get).status = 0 then engine.run tested body
      else engine.run tested otherwise
  | .loop whileTrue condition body => runLoop engine tested whileTrue condition body
  | .each line name words body => runEach engine tested line name words body
  | .cases line word arms => runCases engine tested line word arms
  | .function line name body =>
    modify fun state =>
      { state with
        functions := (name, line, body) :: state.functions.filter fun item => item.1 ≠ name
        status := 0 }

end Act

mutual

/-- Runs a command; `fuel` bounds how deep commands are nested. -/
def run (programs : Programs) : (fuel : Nat) → Bool → Command → Act PUnit
  | 0, _, _ => Act.abort "Maximum function recursion depth (1000) reached"
  | fuel + 1, tested, command => do
    if !(← get).has 'n' then
      Act.runCommand ⟨run programs fuel, marks programs fuel⟩ programs tested command

def marks (programs : Programs) :
    (fuel : Nat) → Bool → Bool → Word → Act (List Mark)
  | 0, _, _, _ => return []
  | fuel + 1, inside, splitting, word =>
    Act.wordMarks ⟨run programs fuel, marks programs fuel⟩ inside splitting word

end

/-- How deep commands can be nested. -/
def maxDepth : Nat := 10000

/-- Runs a program by itself, and gives its status with the state at its end. -/
def executeProgram (programs : Programs) (disk : Disk) (name : String) (arguments : List String) :
    Option (Nat × State) :=
  let engine : Engine := ⟨run programs maxDepth, marks programs maxDepth⟩
  let program := (programs engine name).or
    (if Act.sharedNames.contains name then Act.ownUtility? name else none)
  program.map fun program => (program arguments).run (.start disk name arguments)

/-- Runs a script and gives the state at its end. -/
def execute (programs : Programs) (disk : Disk) (script : String)
    (arguments : List String) (text : String) : State :=
  let engine : Engine := ⟨run programs maxDepth, marks programs maxDepth⟩
  let body : Act PUnit := do
    Act.runText engine text
    Act.runEndTrap engine
  (body.run (.start disk script arguments)).2

end SignalCatalog.Shell
