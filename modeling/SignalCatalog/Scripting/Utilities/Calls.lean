import SignalCatalog.Generation.Script
import SignalCatalog.Scripting.Utilities.Fields
import SignalCatalog.Scripting.Utilities.Files
import SignalCatalog.Scripting.Utilities.LineEditor
import SignalCatalog.Scripting.Utilities.Matching

/-!
# Programs that run others

These programs run commands with other words or other variables, or tell about the system. At the end
stand all the programs that a shell can start.
-/

namespace SignalCatalog.Utilities

open Shell

namespace Calls

/-- The programs that can be run although they are not among those of this library. -/
def others : List String := Shell.Act.sharedNames ++ ["sh", "dash", "bash", defaultInterpreter]

/-- Runs a command, unless there is no program of its name. -/
def callProgram (engine : Engine) (known : String → Bool) (name : String) (words : List String) :
    Act Nat := do
  let first := words.headD ""
  let base := Shell.Act.programName first
  if known base || others.contains base || first.contains '/' then
    call engine (if known base || others.contains base then base :: words.drop 1 else words)
  else
    say name ((if name = "xargs" then first else quoted first) ++ ": No such file or directory")
    return 127

/-! ## Words from the input -/

/-- The words of a text: quotes keep blanks together, and a backslash keeps the next character. -/
def wordsOf (text : List Char) : List String :=
  let rec go : (current : Option (List Char)) → (quote : Option Char) → List Char → List String
    | current, _, [] => (current.map fun word => String.ofList word.reverse).toList
    | current, some quote, c :: rest =>
      if c = quote then go (some (current.getD [])) none rest
      else go (some (c :: current.getD [])) (some quote) rest
    | current, none, '\\' :: c :: rest => go (some (c :: current.getD [])) none rest
    | current, none, c :: rest =>
      if c = '"' || c = '\'' then go (some (current.getD [])) (some c) rest
      else if c = ' ' || c = '\t' || c = '\n' then
        (current.map fun word => String.ofList word.reverse).toList ++ go none none rest
      else go (some (c :: current.getD [])) none rest
  go none none text

/-- Groups of up to a number of words. -/
def groupsOf (size : Nat) : (fuel : Nat) → List String → List (List String)
  | 0, _ => []
  | fuel + 1, words =>
    if words.length ≤ size then [words] else words.take size :: groupsOf size fuel (words.drop size)

/-- A word with a text in the place of each mark. -/
def replaceIn (mark text word : List Char) : List Char :=
  if mark.isEmpty then word
  else
    let rec go : (fuel : Nat) → List Char → List Char
      | 0, rest => rest
      | _ + 1, [] => []
      | fuel + 1, c :: rest =>
        match Text.after? mark (c :: rest) with
        | some behind => text ++ go fuel behind
        | none => c :: go fuel rest
    go (word.length + 1) word

/-- The options of a command, up to its first other word. -/
def leadingOptions (plain valued : String) : List String → List String × List String
  | word :: rest =>
    match word.toList with
    | ['-', c] =>
      if valued.contains c then
        match rest with
        | value :: rest =>
          let (found, rest) := leadingOptions plain valued rest
          (word :: value :: found, rest)
        | [] => ([word], [])
      else if plain.contains c then
        let (found, rest) := leadingOptions plain valued rest
        (word :: found, rest)
      else ([], word :: rest)
    | '-' :: c :: _ =>
      if valued.contains c || plain.contains c then
        let (found, rest) := leadingOptions plain valued rest
        (word :: found, rest)
      else ([], word :: rest)
    | _ => ([], word :: rest)
  | [] => ([], [])

def xargs (engine : Engine) (known : String → Bool) (words : List String) : Act Nat := do
  let (found, command) := leadingOptions "r0tpx" "nILdPs" words
  let options := Options.read (.letters "r0tpx" "nILdPs") found
  let command := if command.isEmpty then ["echo"] else command
  let text ← standardInput
  let run (words : List String) : Act Nat := callProgram engine known "xargs" words
  let mut status := 0
  let groups : List (List String) := match options.value? 'I' with
    | some mark =>
      let lines := (linesOf text).map fun line => line.toList.dropWhile fun c => c = ' ' || c = '\t'
      (lines.filter fun line => !line.isEmpty).map fun line =>
        command.map fun word => String.ofList (replaceIn mark.toList line word.toList)
    | none =>
      let pieces (c : Char) : List String :=
        ((Text.pieces c text.toList).map String.ofList).filter (· ≠ "")
      let words := if options.has '0' then pieces (Char.ofNat 0)
        else match options.value? 'd' with
          | some "\\n" => pieces '\n'
          | some "\\0" => pieces (Char.ofNat 0)
          | some mark => pieces (mark.toList.headD '\n')
          | none => wordsOf text.toList
      let size := match options.number? 'n' with
        | some n => n
        | none => words.length
      if words.isEmpty then (if options.has 'r' then [] else [command])
      else if options.has 'L' then
        (linesOf text).filterMap fun line =>
          if line = "" then none else some (command ++ wordsOf line.toList)
      else (groupsOf (max 1 size) (words.length + 1) words).map (command ++ ·)
  for group in groups do
    let found ← run group
    if found = 127 || found = 126 then return found
    if found ≠ 0 then status := 123
  return status

/-! ## Variables -/

/-- The variables that programs are given, in the order in which they were set. -/
def exported (state : State) : List (String × String) :=
  (state.bindings.reverse.filter fun item => item.2.exported).filterMap fun (name, found) =>
    found.value.map fun value => (name, value)

/-- Takes away options and variables before a command: what is done to the variables, and the words
behind them. -/
def settings : List String → List (State → State) × List String
  | "-i" :: rest | "-" :: rest =>
    let (found, rest) := settings rest
    ((fun state => { state with
      bindings := state.bindings.filter fun item => !item.2.exported }) :: found, rest)
  | "-u" :: name :: rest =>
    let (found, rest) := settings rest
    ((fun state => state.putVariable name none) :: found, rest)
  | word :: rest =>
    match Text.cutAt? '=' word.toList with
    | some (name, value) =>
      let (found, rest) := settings rest
      ((fun state => state.putVariable (String.ofList name)
        (some ⟨some (String.ofList value), true, false⟩)) :: found, rest)
    | none => ([], word :: rest)
  | [] => ([], [])

def env (engine : Engine) (known : String → Bool) (words : List String) : Act Nat := do
  let (changes, command) := settings words
  Act.inSubshell engine do
    modify fun state => changes.foldl (fun state change => change state) state
    if command.isEmpty then
      Act.write 1 (unlines ((exported (← get)).map fun (name, value) => name ++ "=" ++ value))
      Act.setStatus 0
    else
      let status ← callProgram engine known "env" command
      Act.setStatus status
  return (← get).status

def printenv (words : List String) : Act Nat := do
  let state ← get
  let bindings := exported state
  if words.isEmpty then
    Act.write 1 (unlines (bindings.map fun (name, value) => name ++ "=" ++ value))
    return 0
  let mut good := true
  for name in words do
    match bindings.find? fun item => item.1 = name with
    | some (_, value) => Act.write 1 (value ++ "\n")
    | none => good := false
  return statusOf good

/-! ## The system -/

def which (known : String → Bool) (words : List String) : Act Nat := do
  let mut good := true
  for name in words.filter fun word => !word.startsWith "-" do
    if known name || others.contains name then
      Act.write 1 ("/usr/bin/" ++ name ++ "\n")
    else good := false
  return statusOf good

def uname (words : List String) : Act Nat := do
  if words.isEmpty || words.contains "-s" then Act.write 1 "Linux\n"
  else if words.contains "-m" then Act.write 1 "x86_64\n"
  else Act.write 1 "Linux\n"
  return 0

def identity (words : List String) : Act Nat := do
  Act.write 1 (if words.contains "-un" || words.contains "-gn" then "root\n"
    else if words.isEmpty then "uid=0(root) gid=0(root) groups=0(root)\n" else "0\n")
  return 0

def sleep (words : List String) : Act Nat := do
  let isTime (word : String) : Bool :=
    let digits := match word.toList.getLast? with
      | some c => if "smhd".contains c then word.toList.dropLast else word.toList
      | none => []
    !digits.isEmpty && digits.all fun c => c.isDigit || c = '.'
  match words with
  | [] =>
    say "sleep" "missing operand"
    Act.write 2 "Try 'sleep --help' for more information.\n"
    return 1
  | words =>
    match words.find? fun word => !isTime word with
    | some word =>
      say "sleep" ("invalid time interval " ++ quoted word)
      Act.write 2 "Try 'sleep --help' for more information.\n"
      return 1
    | none => return 0

/-- A line over and over. -/
def yes (words : List String) : Act Nat := do
  let line := (if words.isEmpty then "y" else " ".intercalate words) ++ "\n"
  Act.write 1 (String.join (List.replicate 10000 line))
  return 0

end Calls

/-- The names of the programs that run others or tell about the system. -/
def callNames : List String :=
  ["xargs", "env", "printenv", "which", "uname", "id", "whoami", "sleep", "yes", "nohup", "nice",
    "timeout", "sync"]

/-- The programs other than those that run others. -/
def plainProgram? (engine : Engine) (name : String) : Option Utility :=
  (fileProgram? engine name).or ((lineProgram? name).or ((fieldProgram? name).or
    ((searchProgram? name).or (editorProgram? name))))

/-- The programs that a shell can start. -/
def program? : Programs := fun engine name =>
  let known (name : String) : Bool :=
    callNames.contains name || (plainProgram? engine name).isSome
  match name with
  | "xargs" => some (Calls.xargs engine known)
  | "env" => some (Calls.env engine known)
  | "printenv" => some Calls.printenv
  | "which" => some (Calls.which known)
  | "uname" => some Calls.uname
  | "id" => some Calls.identity
  | "whoami" => some fun _ => do
    Act.write 1 "root\n"
    return 0
  | "sleep" => some Calls.sleep
  | "sync" => some fun _ => return 0
  | "yes" => some Calls.yes
  | "nohup" | "nice" => some (Calls.callProgram engine known name)
  | "timeout" => some fun words => Calls.callProgram engine known name (words.drop 1)
  | name => plainProgram? engine name

end SignalCatalog.Utilities
