import SignalCatalog.Scripting.Shell.Grammar
import SignalCatalog.Scripting.Shell.Opening
import SignalCatalog.Scripting.Shell.Pattern
import SignalCatalog.Scripting.Shell.Sum

/-!
# Expansion

What is to be put into a word is put in, the word is split into fields, and fields with patterns become
the names of files. What was put in without quotes is split at the separators, and it can be a pattern;
what stands in the script without quotes can be a pattern, too; what was quoted stands for itself.

Commands whose output is put in, and words within words, are left to an engine that is handed down.
-/

namespace SignalCatalog.Shell

/-- Where a character of an expanded word comes from. -/
inductive Source
  | literal
  | quoted
  | putIn
deriving DecidableEq

inductive Mark
  | char (c : Char) (source : Source)
  /-- Quotes, which make a field even with nothing in them. -/
  | quotes
  /-- A field ends here. -/
  | split
  /-- All arguments, where there are none. -/
  | noArguments
deriving DecidableEq

structure Engine where
  /-- Runs a command. One that is tested does not end a strict script by its failure. -/
  run : (tested : Bool) → Command → Act PUnit
  /-- Expands a word; `inside` says that it stands within what is put in, `splitting` that it can become
  several fields. -/
  marks : (inside splitting : Bool) → Word → Act (List Mark)

def chars (source : Source) (text : String) : List Mark :=
  text.toList.map fun c => .char c source

/-- The text of marks that make one field. -/
def textOf (marks : List Mark) : String :=
  String.ofList (marks.filterMap fun mark => match mark with
    | .char c _ => some c
    | .split => some ' '
    | _ => none)

/-- The letters of marks that make a pattern. -/
def lettersOfMarks (marks : List Mark) : List Letter :=
  marks.filterMap fun mark => match mark with
    | .char c source => some (c, source ≠ .quoted)
    | _ => none

namespace Act

variable (engine : Engine)

/-! ## Running texts -/

/-- Runs the commands of a text line by line. -/
def runTextAs (tested : Bool) (text : String) : Act PUnit := do
  let mut reader := Reader.start text.toList 1 (← get).nextDocument
  for _ in List.range (text.length + 1) do
    if !(← isGoing) then return
    match readLine reader with
    | .error misreading =>
      modify fun state => { state with line := misreading.line }
      abort ("Syntax error: " ++ misreading.words)
    | .ok (none, _) => return
    | .ok (some command, next) =>
      modify fun state =>
        { state with
          documents := next.documents ++ state.documents
          nextDocument := next.next }
      reader := { next with documents := [] }
      engine.run tested command

def runText (text : String) : Act PUnit := runTextAs engine false text

/-- Runs what is to be done at the end of the shell. -/
def runEndTrap : Act PUnit := do
  let state ← get
  match (state.traps.find? fun trap => trap.1 = "EXIT").map Prod.snd with
  | some action =>
    if state.flow ≠ .killed then
      set { state with
        flow := .going
        traps := state.traps.filter fun trap => trap.1 ≠ "EXIT" }
      runText engine action
      modify fun inner =>
        if inner.flow = .ended || inner.flow = .killed then inner
        else { inner with status := state.status }
  | none => pure ()

/-- Runs something in a shell of its own. What it does to files stays. -/
def inSubshell (body : Act PUnit) : Act PUnit := do
  let outer ← get
  set { outer with
    nested := true
    traps := outer.traps.filter fun trap => trap.2.isEmpty }
  body
  runEndTrap engine
  modify fun inner =>
    { outer with
      disk := { inner.disk with here := outer.disk.here }
      files := inner.files
      errors := inner.errors
      documents := inner.documents
      nextDocument := inner.nextDocument
      runnable := inner.runnable
      pending := inner.pending
      signal := inner.signal
      status := inner.status
      flow := if inner.flow = .killed then .killed else outer.flow }

/-- What a command writes, without the line breaks at its end. -/
def outputOf (command : Command) : Act String := do
  let index := (← get).files.length
  modify fun state => { state with files := state.files ++ [⟨.buffer "", 0, false, true, true⟩] }
  inSubshell engine do
    modify fun state => { state.setStream 1 (some index) with status := 0 }
    engine.run false command
  let state ← get
  set { state with outputStatus := state.status }
  let text := (state.unread index).toList.filter fun c => c.toNat ≠ 0
  return String.ofList (text.reverse.dropWhile (· = '\n')).reverse

/-! ## Parameters -/

/-- The text between arguments that become one. -/
def argumentSeparator (state : State) : String :=
  match state.lookup? "IFS" with
  | some ⟨some value, _, _⟩ => String.ofList (value.toList.take 1)
  | _ => " "

/-- The letters of the options in the order in which they are shown. -/
def optionOrder : List Char := "pubaCEVvxsnmiIfe".toList

/-- The value of a parameter as one text. -/
def parameter? (state : State) (name : String) : Option String :=
  match name with
  | "@" | "*" =>
    if state.arguments.isEmpty then none
    else some ((argumentSeparator state).intercalate state.arguments)
  | "#" => some (Text.number state.arguments.length)
  | "?" => some (Text.number state.status)
  | "-" => some (String.ofList (optionOrder.filter state.has))
  | "$" => some (Text.number state.process)
  | "!" => state.background.head?.map fun item => Text.number item.1
  | "0" => some state.script
  | name =>
    match Text.natural? name.toList with
    | some n => if n = 0 then some state.script else state.arguments[n - 1]?
    | none => state.valueOf? name

/-- The marks of a parameter that is there. -/
def parameterMarks (state : State) (quoted splitting : Bool) (name value : String) : List Mark :=
  let source := if quoted then Source.quoted else .putIn
  let each (argument : String) : List Mark :=
    (if quoted then [Mark.quotes] else []) ++ chars source argument
  if splitting && (name = "@" || (name = "*" && !quoted)) then
    [Mark.split].intercalate (state.arguments.map each)
  else if name = "@" || name = "*" then chars source value
  else chars source value

/-- Ends the shell because a parameter has no value. -/
def missing (name : String) (words : String) : Act (List Mark) := do
  abort (name ++ ": " ++ words)
  return []

/-- The marks of a parameter with what is done with its value. -/
def parameterIn (quoted splitting : Bool) (name : String) (use : Use) (unlessEmpty : Bool)
    (word : Word) : Act (List Mark) := do
  let state ← get
  let value? := parameter? state name
  let isList := name = "@" || name = "*"
  let source := if quoted then Source.quoted else .putIn
  let shown (value : String) : List Mark := parameterMarks state quoted splitting name value
  let there := value?.filter fun value => !(unlessEmpty && value.isEmpty)
  match use with
  | .value =>
    match value? with
    | some value => return shown value
    | none =>
      if isList then return if name = "@" && quoted then [.noArguments] else []
      else if state.has 'u' then missing name "parameter not set"
      else return []
  | .length =>
    match value? with
    | none =>
      if state.has 'u' && !isList then missing name "parameter not set"
      else return chars source "0"
    | some value => return chars source (Text.number value.length)
  | .orElse =>
    match there with
    | some value => return shown value
    | none => engine.marks true splitting word
  | .instead =>
    match there with
    | some _ => engine.marks true splitting word
    | none => return []
  | .assign =>
    match there with
    | some value => return shown value
    | none =>
      let value := textOf (← engine.marks true false word)
      if (← isGoing) then
        if Reading.isName name then
          assign name value
          return chars source value
        else missing name "bad variable name"
      else return []
  | .demand =>
    match there with
    | some value => return shown value
    | none =>
      if word.isEmpty then
        missing name (if unlessEmpty then "parameter not set or null" else "parameter not set")
      else
        let words := textOf (← engine.marks true false word)
        missing name words
  | .dropStart longest =>
    let letters := lettersOfMarks (← engine.marks false false word)
    match value? with
    | none => if state.has 'u' then missing name "parameter not set" else return []
    | some value =>
      return chars source (String.ofList ((Pattern.ofLetters letters).dropStart longest value.toList))
  | .dropEnd longest =>
    let letters := lettersOfMarks (← engine.marks false false word)
    match value? with
    | none => if state.has 'u' then missing name "parameter not set" else return []
    | some value =>
      return chars source (String.ofList ((Pattern.ofLetters letters).dropEnd longest value.toList))
  | .unknown =>
    abort "Bad substitution"
    return []

/-- The value of a sum as text. -/
def sumOf (text : String) : Act String := do
  let state ← get
  let bindings : Sum.Bindings := fun name => parameter? state name
  match (Sum.ofText text).bind (Sum.evaluate bindings []) with
  | .error fault =>
    abort (fault.words text)
    return ""
  | .ok (n, _, found) =>
    for (name, value) in found.reverse do
      assign name (Text.integer value)
    return Text.integer n

/-! ## Words -/

/-- The marks of a piece. -/
def pieceMarks (inside splitting : Bool) : Piece → Act (List Mark)
  | .text text => return chars (if inside then .putIn else .literal) text
  | .quoted text => return if text.isEmpty then [.quotes] else chars .quoted text
  | .parameter quoted name use unlessEmpty word =>
    parameterIn engine quoted splitting name use unlessEmpty word
  | .output quoted command => do
    return chars (if quoted then .quoted else .putIn) (← outputOf engine command)
  | .sum quoted word => do
    let text := textOf (← engine.marks true false word)
    if !(← isGoing) then return []
    return chars (if quoted then .quoted else .putIn) (← sumOf text)

/-- The marks of a word; a failure ends it. -/
def wordMarks (inside splitting : Bool) (word : Word) : Act (List Mark) := do
  let mut found := []
  for piece in word do
    let marks ← pieceMarks engine inside splitting piece
    if !(← isGoing) then return []
    found := found ++ marks
  return found

/-- A word whose first sign stands for the home folder. -/
def withHome (state : State) (word : Word) : Word :=
  match word with
  | .text text :: rest =>
    match text.toList with
    | '~' :: more =>
      if (more.isEmpty && rest.isEmpty) || more.head? = some '/' then
        .quoted ((state.valueOf? "HOME").getD "~") :: .text (String.ofList more) :: rest
      else word
    | _ => word
  | _ => word

/-- The text of a word that stays one. -/
def expandText (word : Word) : Act String := do
  return textOf (← engine.marks false false (withHome (← get) word))

/-- The pattern that a word is. -/
def expandPattern (word : Word) : Act Pattern := do
  return Pattern.ofLetters (lettersOfMarks (← engine.marks false false word))

end Act

/-! ## Fields -/

/-- A splitting of marks into fields. -/
structure Splitting where
  /-- The last one first. -/
  done : List (List Letter)
  /-- The last letter first. -/
  current : Option (List Letter)
  /-- A blank has just ended a field. -/
  afterBlank : Bool
  /-- Only quotes have been met in the field. -/
  onlyQuotes : Bool

namespace Splitting

def start : Splitting := ⟨[], none, false, false⟩

def close (splitting : Splitting) (afterBlank : Bool) : Splitting :=
  match splitting.current with
  | some field => ⟨field.reverse :: splitting.done, none, afterBlank, false⟩
  | none => { splitting with afterBlank }

def add (splitting : Splitting) (letter : Letter) : Splitting :=
  { splitting with
    current := some (letter :: splitting.current.getD [])
    afterBlank := false
    onlyQuotes := false }

def step (separators : List Char) (splitting : Splitting) : Mark → Splitting
  | .quotes =>
    { splitting with
      current := some (splitting.current.getD [])
      afterBlank := false
      onlyQuotes := splitting.onlyQuotes || splitting.current.isNone }
  | .split => splitting.close false
  | .noArguments =>
    if splitting.onlyQuotes && splitting.current = some [] then
      { splitting with current := none, onlyQuotes := false }
    else splitting
  | .char c .putIn =>
    if !separators.contains c then splitting.add (c, true)
    else if c = ' ' || c = '\t' || c = '\n' then
      match splitting.current with
      | some _ => splitting.close true
      | none => splitting
    else
      match splitting.current, splitting.afterBlank with
      | some _, _ => splitting.close false
      | none, true => { splitting with afterBlank := false }
      | none, false => { splitting with done := [] :: splitting.done }
  | .char c .literal => splitting.add (c, true)
  | .char c .quoted => splitting.add (c, false)

end Splitting

/-- The fields of marks. -/
def fieldsOf (separators : List Char) (marks : List Mark) : List (List Letter) :=
  ((marks.foldl (Splitting.step separators) .start).close false).done.reverse

/-! ## Names of files -/

/-- The parts of a field between slashes. -/
def pathParts : List Letter → List (List Letter)
  | [] => [[]]
  | letter :: rest =>
    if letter.1 = '/' then [] :: pathParts rest
    else match pathParts rest with
      | [] => [[letter]]
      | head :: tail => (letter :: head) :: tail

def lettersText (letters : List Letter) : String := String.ofList (letters.map Prod.fst)

namespace State

/-- The names in a folder that match a pattern, in order. A name with a dot in front matches only a
pattern with one. -/
def matchingNames (state : State) (folder : String) (letters : List Letter) : List String :=
  match state.disk.find (pathOf (if folder.isEmpty then "." else folder)) with
  | .ok (place, .folder) =>
    let hidden := (letters.head?.map Prod.fst) = some '.'
    let names := (state.disk.namesIn place).map Text.Octets.ofText
    let names := if hidden then "." :: ".." :: names else names
    (names.filter fun name =>
      (hidden || name.toList.head? ≠ some '.') &&
        (Pattern.ofLetters letters).isMatch name.toList).mergeSort fun a b => decide (a ≤ b)
  | _ => []

/-- The paths that parts of a pattern match behind a start. -/
def matchingPaths (state : State) (start : String) : List (List Letter) → List String
  | [] => []
  | [last] =>
    if last.any Pattern.isSpecial then
      (state.matchingNames start last).map fun name => start ++ name
    else
      let path := start ++ lettersText last
      if (state.disk.find (pathOf path)).isOk then [path] else []
  | part :: rest =>
    if part.any Pattern.isSpecial then
      (state.matchingNames start part).flatMap fun name =>
        matchingPaths state (start ++ name ++ "/") rest
    else matchingPaths state (start ++ lettersText part ++ "/") rest

/-- The paths that a field matches, or the field if there are none. -/
def glob (state : State) (field : List Letter) : List String :=
  let text := lettersText field
  if state.has 'f' || !field.any Pattern.isSpecial then [text]
  else match state.matchingPaths "" (pathParts field) with
    | [] => [text]
    | paths => paths

end State

namespace Act

variable (engine : Engine)

/-- The fields of a word. -/
def expandWord (word : Word) : Act (List String) := do
  let marks ← engine.marks false true (withHome (← get) word)
  let state ← get
  return (fieldsOf state.separators marks).flatMap state.glob

/-- The fields of words. -/
def expandWords (words : List Word) : Act (List String) := do
  let mut found := []
  for word in words do
    let fields ← expandWord engine word
    if !(← isGoing) then return []
    found := found ++ fields
  return found

/-- Works out the words of a redirection. -/
def openingOf : Redirection → Act Opening
  | .file stream mode path => return .file stream mode (← expandText engine path)
  | .document stream index => do
    let word := ((← get).documents.find? fun document => document.1 = index).map Prod.snd
    return .document stream (← expandText engine (word.getD []))
  | .copy stream source => do
    let text ← expandText engine source
    match text.toList with
    | ['-'] => return .copy stream none
    | [d] =>
      if d.isDigit then return .copy stream (some (Text.digitValue d))
    | _ => pure ()
    abort "Syntax error: Bad fd number"
    return .copy stream none

/-- Does redirections. The words of one that fails are given. -/
def redirect (redirections : List Redirection) : Act (Option String) := do
  let mut openings := []
  for redirection in redirections do
    let opening ← openingOf engine redirection
    if !(← isGoing) then return none
    openings := opening :: openings
  let (result, state) := (← get).performAll openings.reverse
  set state
  match result with
  | .ok _ => return none
  | .error words => return some words

end Act

end SignalCatalog.Shell
