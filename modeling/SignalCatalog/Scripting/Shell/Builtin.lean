import SignalCatalog.Scripting.Shell.Condition
import SignalCatalog.Scripting.Shell.Expansion
import SignalCatalog.Scripting.Shell.Format

/-!
# The shell's own utilities

Each takes its arguments, works on the state of the shell and gives a status. What is wrong with the
arguments of one that belongs to the language ends the shell; any other complains and fails.
-/

namespace SignalCatalog.Shell.Act

/-- Complains and fails. -/
def fails (status : Nat) (words : String) : Act Nat := do
  complain words
  return status

/-- Ends the shell with a complaint. -/
def aborts (words : String) : Act Nat := do
  abort words
  return 2

/-- The number that an argument is: no less than zero, with nothing but blanks around it. -/
def count? (text : String) : Option Nat :=
  let rest := text.toList.dropWhile Sum.isSpace
  let rest := if rest.head? = some '+' then rest.tail else rest
  let digits := rest.takeWhile Char.isDigit
  if (rest.drop digits.length).all Sum.isSpace then
    (Text.natural? digits).filter fun n => n ≤ 2147483647
  else none

/-- A number that is no less than zero, or the end of the shell. -/
def countOf (text : String) : Act (Option Nat) := do
  match count? text with
  | some n => return some n
  | none =>
    abort ("Illegal number: " ++ text)
    return none

/-! ## The course of the script -/

/-- The status that is asked for, or that of the last command. -/
def statusOf (arguments : List String) : Act (Option Nat) := do
  match arguments with
  | [] => return some (← get).status
  | text :: _ => return (← countOf text).map fun n => n % 256

def exit (arguments : List String) : Act Nat := do
  match ← statusOf arguments with
  | some status =>
    modify fun state => { state with flow := .ended }
    return status
  | none => return 2

def returnFrom (arguments : List String) : Act Nat := do
  match ← statusOf arguments with
  | some status =>
    modify fun state => { state with flow := .returning }
    return status
  | none => return 2

/-- Leaves loops, or goes on with their next round. -/
def leaveLoops (flow : Nat → Flow) (arguments : List String) : Act Nat := do
  match ← (match arguments with
    | [] => pure (some 1)
    | text :: _ => countOf text) with
  | none => return 2
  | some 0 => aborts "Illegal number: 0"
  | some n =>
    let loops := (← get).loops
    if loops > 0 then modify fun state => { state with flow := flow (min n loops) }
    return 0

def shift (arguments : List String) : Act Nat := do
  match ← (match arguments with
    | [] => pure (some 1)
    | text :: _ => countOf text) with
  | none => return 2
  | some n =>
    if (← get).arguments.length < n then aborts "can't shift that many"
    else
      modify fun state => { state with arguments := state.arguments.drop n }
      return 0

/-! ## Variables -/

/-- A text between quotes that the shell reads back. -/
def inQuotes (text : String) : String :=
  "'" ++ "'\"'\"'".intercalate ((Text.pieces '\'' text.toList).map String.ofList) ++ "'"

/-- The name and the value of a word with an equals sign. -/
def nameAndValue (word : String) : String × Option String :=
  match Text.cutAt? '=' word.toList with
  | some (name, value) => (String.ofList name, some (String.ofList value))
  | none => (word, none)

/-- Marks variables, perhaps with new values. -/
def mark (change : Variable → Variable) (arguments : List String) : Act Nat := do
  for word in arguments do
    let (name, value) := nameAndValue word
    if !Reading.isName name then return ← aborts (name ++ ": bad variable name")
    if let some value := value then
      assign name value
      if !(← isGoing) then return 2
    modify fun state =>
      state.putVariable name (some (change ((state.lookup? name).getD ⟨none, false, false⟩)))
  return 0

/-- The lines that would set variables again, in order. -/
def listing (lead : String) (wanted : Variable → Bool) : Act Nat := do
  let found := (← get).bindings.filter fun item => wanted item.2
  for (name, item) in found.mergeSort fun a b => decide (a.1 ≤ b.1) do
    write 1 (lead ++ name ++ (item.value.map fun value => "=" ++ inQuotes value).getD "" ++ "\n")
  return 0

def exports (arguments : List String) : Act Nat :=
  match arguments with
  | [] | ["-p"] => listing "export " Variable.exported
  | arguments => mark (fun item => { item with exported := true }) arguments

def fixes (arguments : List String) : Act Nat :=
  match arguments with
  | [] | ["-p"] => listing "readonly " Variable.fixed
  | arguments => mark (fun item => { item with fixed := true }) arguments

/-- Makes variables local to the function that is running. -/
def makeLocal (arguments : List String) : Act Nat := do
  match (← get).locals with
  | [] => aborts "not in a function"
  | _ =>
    for word in arguments do
      let (name, value) := nameAndValue word
      if !Reading.isName name then return ← aborts (name ++ ": bad variable name")
      modify fun state =>
        match state.locals with
        | frame :: frames =>
          if frame.any fun item => item.1 = name then state
          else { state with locals := ((name, state.lookup? name) :: frame) :: frames }
        | [] => state
      if let some value := value then assign name value
    return 0

def unset (arguments : List String) : Act Nat := do
  let functions := arguments.head? = some "-f"
  let names := if arguments.head? = some "-f" || arguments.head? = some "-v" then arguments.tail
    else arguments
  for name in names do
    if functions then
      modify fun state =>
        { state with functions := state.functions.filter fun item => item.1 ≠ name }
    else if !Reading.isName name then return ← aborts (name ++ ": bad variable name")
    else match (← get).lookup? name with
      | some ⟨_, _, true⟩ => return ← aborts (name ++ ": is read only")
      | some _ => modify fun state => state.putVariable name none
      | none =>
        modify fun state =>
          { state with functions := state.functions.filter fun item => item.1 ≠ name }
  return 0

/-! ## Options -/

/-- The options with their names. -/
def optionNames : List (String × Char) :=
  [("errexit", 'e'), ("noglob", 'f'), ("ignoreeof", 'I'), ("interactive", 'i'), ("monitor", 'm'),
    ("noexec", 'n'), ("stdin", 's'), ("xtrace", 'x'), ("verbose", 'v'), ("vi", 'V'), ("emacs", 'E'),
    ("noclobber", 'C'), ("allexport", 'a'), ("notify", 'b'), ("nounset", 'u'),
    ("privileged", 'p'), ("nolog", 'l'), ("debug", 'd')]

/-- Lists the options, or the commands that set them. -/
def listOptions (asCommands : Bool) : Act PUnit := do
  let state ← get
  if !asCommands then write 1 "Current option settings\n"
  for (name, option) in optionNames do
    if asCommands then
      write 1 ("set " ++ (if state.has option then "-o " else "+o ") ++ name ++ "\n")
    else
      let gap := String.ofList (List.replicate (16 - name.length) ' ')
      write 1 (name ++ gap ++ (if state.has option then "on\n" else "off\n"))

def switch (on : Bool) (option : Char) : Act PUnit :=
  modify fun state =>
    let others := state.options.filter (· ≠ option)
    { state with options := if on then option :: others else others }

/-- Reads options in front of arguments: what is behind them, unless they are wrong, and whether they
say that what follows are all arguments. -/
def setOptions : List String → Act (Option (List String × Bool))
  | [] => return some ([], false)
  | word :: rest => do
    match word.toList with
    | '-' :: '-' :: [] => return some (rest, true)
    | ['-'] => return some (rest, !rest.isEmpty)
    | sign :: letters =>
      if (sign = '-' || sign = '+') && !letters.isEmpty then
        let on := sign = '-'
        for letter in letters do
          if letter = 'o' then
            match rest with
            | name :: _ =>
              match optionNames.find? fun option => option.1 = name with
              | some (_, option) => switch on option
              | none =>
                abort ("Illegal option " ++ sign.toString ++ "o " ++ name)
                return none
            | [] =>
              listOptions !on
              return some ([], false)
          else if (optionNames.map Prod.snd).contains letter && !(['l', 'd'].contains letter) then
            switch on letter
          else
            abort ("Illegal option " ++ sign.toString ++ letter.toString)
            return none
        setOptions (if letters.contains 'o' then rest.tail else rest)
      else return some (word :: rest, true)
    | [] => return some (word :: rest, true)
termination_by words => words.length
decreasing_by
  all_goals simp_wf
  split
  · simp only [List.length_tail]
    omega
  · omega

def setUtility (arguments : List String) : Act Nat := do
  match arguments with
  | [] => listing "" fun item => item.value.isSome
  | arguments =>
    match ← setOptions arguments with
    | none => return 2
    | some (rest, true) =>
      modify fun state => { state with arguments := rest }
      return 0
    | some (_, false) => return 0

/-! ## Output and conditions -/

def echo (arguments : List String) : Act Nat := do
  let (words, lineEnd) := match arguments with
    | "-n" :: rest => (rest, "")
    | words => (words, "\n")
  let (text, ends) := Format.unescape false (" ".intercalate words)
  write 1 (text ++ if ends then "" else lineEnd)
  return 0

def printFormat (arguments : List String) : Act Nat := do
  match (match arguments with
    | "--" :: rest => rest
    | rest => rest) with
  | [] => fails 2 "usage: printf format [arg ...]"
  | format :: arguments =>
    let output := Format.apply format arguments
    for words in output.complaints do
      complain words
    write 1 output.text
    return if output.wrong then 2 else if output.complaints.isEmpty then 0 else 1

/-- Tests a condition. -/
def test (arguments : List String) : Act Nat := do
  match Condition.holds (← get) arguments with
  | .ok holds => return if holds then 0 else 1
  | .error words => fails 2 words

/-- Tests a condition in brackets. -/
def bracket (arguments : List String) : Act Nat :=
  if arguments.getLast? = some "]" then test arguments.dropLast else fails 2 "missing ]"

/-! ## Input -/

/-- A line of input with its escapes: each character, and whether it was escaped. -/
def inputLine (raw : Bool) : List Char → List (Char × Bool) × Nat × Bool
  | [] => ([], 0, false)
  | '\\' :: c :: rest =>
    if raw then
      let (line, count, ended) := inputLine raw (c :: rest)
      (('\\', false) :: line, count + 1, ended)
    else
      let (line, count, ended) := inputLine raw rest
      (if c = '\n' then line else (c, true) :: line, count + 2, ended)
  | ['\\'] => (if raw then [('\\', false)] else [], 1, false)
  | c :: rest =>
    if c = '\n' then ([], 1, true)
    else
      let (line, count, ended) := inputLine raw rest
      ((c, false) :: line, count + 1, ended)

/-- Whether a character of a line is a separator, and whether it is a blank one. -/
def separates (separators : List Char) (item : Char × Bool) : Bool :=
  !item.2 && separators.contains item.1

def separatesBlank (separators : List Char) (item : Char × Bool) : Bool :=
  separates separators item && (item.1 = ' ' || item.1 = '\t' || item.1 = '\n')

/-- The parts of a line for a number of variables; the last one gets the rest. -/
def shareOut (separators : List Char) : (count : Nat) → List (Char × Bool) → List String
  | 0, _ => []
  | 1, line =>
    let kept := (line.reverse.dropWhile (separatesBlank separators)).reverse
    [String.ofList (kept.map Prod.fst)]
  | count + 1, line =>
    let part := line.takeWhile fun item => !separates separators item
    let rest := (line.drop part.length).dropWhile (separatesBlank separators)
    let rest := match rest with
      | item :: more =>
        if separates separators item && !(line.drop part.length).isEmpty then
          more.dropWhile (separatesBlank separators)
        else rest
      | [] => []
    String.ofList (part.map Prod.fst) :: shareOut separators count rest

/-- Reads a line into variables. -/
def readInto (arguments : List String) : Act Nat := do
  let raw := arguments.contains "-r"
  let names := match arguments.filter fun word => word ≠ "-r" with
    | "-p" :: _ :: names => names
    | names => names
  match names with
  | [] => fails 2 "arg count"
  | names =>
    for name in names do
      if !Reading.isName name then return ← aborts (name ++ ": bad variable name")
    let state ← get
    match state.stream? 0 with
    | none => return 1
    | some index =>
      let (line, count, ended) := inputLine raw (state.unread index).toList
      modify fun state => state.advance index count
      let line := line.dropWhile (separatesBlank state.separators)
      for (name, value) in names.zip (shareOut state.separators names.length line) do
        assign name value
      return if ended then 0 else 1

/-- Takes the next option of some words: its letter, its argument if it has one, the index of the next
word and the offset in it. -/
def nextOption (known : List Char) (quiet : Bool) (words : List String) (index offset : Nat) :
    Option (String × Option String × Option String × Nat × Nat) :=
  match words[index - 1]? with
  | none => none
  | some word =>
    let start := if offset = 0 then 1 else offset
    if offset = 0 && (!word.startsWith "-" || word = "-") then none
    else if word = "--" && offset = 0 then some ("", none, none, index + 1, 0)
    else match word.toList[start]? with
      | none => none
      | some letter =>
        let last := word.length ≤ start + 1
        let (nextIndex, nextOffset) := if last then (index + 1, 0) else (index, start + 1)
        match known.dropWhile (· ≠ letter) with
        | _ :: rest =>
          if letter = ':' then
            some ("?", if quiet then some ":" else none,
              if quiet then none else some "Illegal option -:", nextIndex, nextOffset)
          else if rest.head? = some ':' then
            if !last then
              some (letter.toString, some (String.ofList (word.toList.drop (start + 1))), none,
                index + 1, 0)
            else match words[index]? with
              | some argument => some (letter.toString, some argument, none, index + 2, 0)
              | none =>
                if quiet then some (":", some letter.toString, none, index + 1, 0)
                else some ("?", none, some ("No arg for -" ++ letter.toString ++ " option"),
                  index + 1, 0)
          else some (letter.toString, some "", none, nextIndex, nextOffset)
        | [] =>
          if quiet then some ("?", some letter.toString, none, nextIndex, nextOffset)
          else some ("?", none, some ("Illegal option -" ++ letter.toString), nextIndex, nextOffset)

/-- Takes the next option of the arguments. -/
def getOption (arguments : List String) : Act Nat := do
  match arguments with
  | known :: name :: rest =>
    let state ← get
    let words := if rest.isEmpty then state.arguments else rest
    let index := max 1 (((state.valueOf? "OPTIND").bind fun text =>
      Text.natural? text.toList).getD 1)
    let offset := if state.optionPlace.1 = index then state.optionPlace.2 else 0
    let (quiet, letters) := match known.toList with
      | ':' :: letters => (true, letters)
      | letters => (false, letters)
    let finish (index : Nat) : Act Nat := do
      assign "OPTIND" (Text.number index)
      modify fun state => { state with optionPlace := (index, 0) }
      assign name "?"
      return 1
    match nextOption letters quiet words index offset with
    | none => finish index
    | some ("", _, _, index, _) => finish index
    | some (letter, value, words, index, offset) =>
      if let some words := words then write 2 (words ++ "\n")
      assign name letter
      match value with
      | some value => assign "OPTARG" value
      | none => modify fun state => state.putVariable "OPTARG" none
      assign "OPTIND" (Text.number index)
      modify fun state => { state with optionPlace := (index, offset) }
      return 0
  | _ => fails 2 "Usage: getopts optstring var [arg...]"

/-! ## Signals -/

/-- The names of signals with their numbers. -/
def signals : List (String × Nat) :=
  [("EXIT", 0), ("HUP", 1), ("INT", 2), ("QUIT", 3), ("ILL", 4), ("TRAP", 5), ("ABRT", 6), ("BUS", 7),
    ("FPE", 8), ("KILL", 9), ("USR1", 10), ("SEGV", 11), ("USR2", 12), ("PIPE", 13), ("ALRM", 14),
    ("TERM", 15), ("16", 16), ("CHLD", 17), ("CONT", 18), ("STOP", 19), ("TSTP", 20),
    ("TTIN", 21), ("TTOU", 22), ("URG", 23), ("XCPU", 24), ("XFSZ", 25), ("VTALRM", 26),
    ("PROF", 27), ("WINCH", 28), ("IO", 29), ("PWR", 30), ("SYS", 31)]

/-- Signals that do not end a shell that has not asked for them. -/
def harmless : List String := ["EXIT", "CHLD", "CONT", "URG", "WINCH"]

/-- The name of a signal that is given by its name or number. -/
def signal? (text : String) : Option String :=
  match Text.natural? text.toList with
  | some n => (signals.find? fun item => item.2 = n).map Prod.fst
  | none =>
    let name := String.ofList (text.toList.map Char.toUpper)
    let name := if name.startsWith "SIG" then (name.drop 3).toString else name
    (signals.find? fun item => item.1 = name).map Prod.fst

def setTrap (arguments : List String) : Act Nat := do
  match arguments with
  | [] =>
    for (name, action) in (← get).traps.reverse do
      write 1 ("trap -- " ++ inQuotes action ++ " " ++ name ++ "\n")
    return 0
  | first :: rest =>
    let (action, names) :=
      if rest.isEmpty then (none, [first])
      else if first = "-" then (none, rest)
      else if (Text.natural? first.toList).isSome then (none, first :: rest)
      else (some first, rest)
    for text in names do
      match signal? text with
      | none =>
        write 2 ("trap: " ++ text ++ ": bad trap\n")
        return 1
      | some name =>
        modify fun state =>
          let others := state.traps.filter fun trap => trap.1 ≠ name
          { state with traps := (action.map fun action => (name, action)).toList ++ others }
    return 0

/-- Lists the signals, or gives the names of some by their numbers. -/
def listSignals (numbers : List String) : Act Nat := do
  if numbers.isEmpty then
    for (name, number) in signals do
      write 1 ((if number = 0 then "0" else name) ++ "\n")
  for text in numbers do
    match Text.natural? text.toList with
    | none => return ← fails 2 ("Illegal number: " ++ text)
    | some n =>
      let wanted := if n > 128 then n - 128 else n
      match signals.find? fun item => item.2 = wanted && wanted ≠ 0 with
      | some (name, _) => write 1 (name ++ "\n")
      | none => return ← fails 2 ("invalid signal number or exit status: " ++ text)
  return 0

/-- Sends a signal to processes; the shell knows only itself. -/
def kill (arguments : List String) : Act Nat := do
  if arguments.head? = some "-l" then return ← listSignals (arguments.drop 1)
  let chosen : Option (Option String × List String) := match arguments with
    | "-s" :: name :: rest => some (signal? name, rest)
    | "--" :: rest => some (some "TERM", rest)
    | first :: rest =>
      if first.startsWith "-" then some (signal? (first.drop 1).toString, rest)
      else some (some "TERM", first :: rest)
    | [] => none
  match chosen with
  | none | some (_, []) => fails 2 "Usage: kill [-s sigspec | -signum | -sigspec] [pid | job]... or\nkill -l [exitstatus]"
  | some (none, _) =>
    match arguments with
    | "-s" :: name :: _ => fails 2 ("invalid signal number or name: " ++ name)
    | first :: _ => fails 2 ("Illegal option " ++ (first.take 2).toString)
    | [] => fails 2 "Illegal option"
  | some (some name, targets) =>
    let mut status := 0
    for target in targets do
      let state ← get
      match Text.natural? target.toList with
      | none => return ← fails 2 ("Illegal number: " ++ target)
      | some n =>
        if n = state.process || n = 0 then
          let number := ((signals.find? fun item => item.1 = name).map Prod.snd).getD 0
          let killed := { state with flow := Flow.killed, signal := number }
          match state.traps.find? fun trap => trap.1 = name with
          | some (_, action) =>
            if name = "KILL" then set killed
            else if !action.isEmpty && name ≠ "EXIT" then
              set { state with pending := state.pending ++ [name] }
          | none => if !harmless.contains name then set killed
        else if !state.background.any fun item => item.1 = n then
          complain "No such process"
          write 2 "\n"
          status := 1
    return status

/-- Waits for processes, which have come to their ends. -/
def wait (arguments : List String) : Act Nat := do
  let mut status := 0
  for text in arguments do
    match count? text with
    | none => return ← fails 2 ("Illegal number: " ++ text)
    | some n =>
      match (← get).background.find? fun item => item.1 = n with
      | some (_, found) => status := found
      | none => status := 127
  return status

/-- Sets the rights that new files do not get, which has no effect here. -/
def setMask (arguments : List String) : Act Nat := do
  match arguments with
  | [] => write 1 "0022\n"
  | "-S" :: _ => write 1 "u=rwx,g=rx,o=rx\n"
  | text :: _ =>
    if text.toList.any fun c => c = '8' || c = '9' then return ← fails 2 ("Illegal number: " ++ text)
  return 0

/-! ## Folders -/

/-- Changes the working folder. -/
def changeFolder (arguments : List String) : Act Nat := do
  let words := arguments.filter fun word => !(["-P", "-L", "--"].contains word)
  let state ← get
  let goal := match words with
    | [] => (state.valueOf? "HOME").getD ""
    | "-" :: _ => (state.valueOf? "OLDPWD").getD ""
    | word :: _ => word
  match state.disk.find (State.pathOf goal) with
  | .ok (place, .folder) =>
    let former := (state.valueOf? "PWD").getD ""
    let path := Text.Octets.ofText ("/" ++ "/".intercalate place)
    set { state with disk := { state.disk with here := place } }
    modify fun state => (state.setValue "OLDPWD" former).setValue "PWD" path
    if words = ["-"] then write 1 (path ++ "\n")
    return 0
  | _ => fails 2 ("can't cd to " ++ goal)

def printFolder : Act Nat := do
  let state ← get
  write 1 (Text.Octets.ofText ("/" ++ "/".intercalate state.disk.here) ++ "\n")
  return 0

/-! ## All of them -/

/-- The utilities that need nothing but the state. -/
def ownUtility? (name : String) : Option (List String → Act Nat) :=
  match name with
  | ":" | "true" => some fun _ => return 0
  | "false" => some fun _ => return 1
  | "exit" => some exit
  | "return" => some returnFrom
  | "break" => some (leaveLoops .leaving)
  | "continue" => some (leaveLoops .nextRound)
  | "shift" => some shift
  | "export" => some exports
  | "readonly" => some fixes
  | "local" => some makeLocal
  | "unset" => some unset
  | "set" => some setUtility
  | "echo" => some echo
  | "printf" => some printFormat
  | "test" => some test
  | "[" => some bracket
  | "read" => some readInto
  | "getopts" => some getOption
  | "trap" => some setTrap
  | "kill" => some kill
  | "cd" | "chdir" => some changeFolder
  | "pwd" => some fun _ => printFolder
  | "umask" => some setMask
  | "wait" => some wait
  | "fg" | "bg" => some fun _ => fails 2 "No current job"
  | "unalias" => some fun arguments => do
    for name in arguments.filter fun word => word ≠ "-a" do
      write 2 ("unalias: " ++ name ++ " not found\n")
    return if arguments.all fun word => word = "-a" then 0 else 1
  | "times" | "jobs" | "alias" => some fun _ => return 0
  | "ulimit" => some fun _ => do
    write 1 "unlimited\n"
    return 0
  | _ => none

/-- The names of the utilities that also run other commands. -/
def runningNames : List String := ["eval", ".", "exec", "command", "type", "hash"]

def isOwn (name : String) : Bool := (ownUtility? name).isSome || runningNames.contains name

end SignalCatalog.Shell.Act
