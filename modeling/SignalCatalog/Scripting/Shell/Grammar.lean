import SignalCatalog.Scripting.Shell.Reader

/-!
# Reading scripts: commands

Commands are read layer by layer: lists, chains of commands that depend on each other, pipelines,
commands with their redirections, and simple commands. A misreading names the token that stands where
it cannot, and the one that would have to stand there if only one could.
-/

namespace SignalCatalog.Shell

namespace Reading

variable (grammar : Grammar)

/-- The redirection of an arrow, behind which its word is read. -/
def redirectionOf (stream : Nat) (sign : String) : Reading Redirection := do
  match ← token grammar false false with
  | .word word =>
    match sign with
    | "<<" => return .document stream (← announce word false)
    | "<<-" => return .document stream (← announce word true)
    | ">&" | "<&" => return .copy stream word
    | ">>" => return .file stream .append word
    | ">|" => return .file stream .overwrite word
    | "<>" => return .file stream .both word
    | ">" => return .file stream .write word
    | _ => return .file stream .read word
  | _ => unexpected

/-- The redirections behind a command. -/
def redirections : Reading (List Redirection) := do
  let mut found := []
  for _ in ← bound do
    match ← token grammar true false with
    | .redirection stream sign =>
      found := (← redirectionOf grammar stream sign) :: found
    | _ =>
      putBack
      return found.reverse
  return found.reverse

/-- The name and the value of a word that sets a variable. -/
def assignment? : Word → Option (String × Word)
  | .text text :: rest =>
    let name := text.toList.takeWhile isNameChar
    match text.toList.drop name.length with
    | '=' :: value =>
      if isName (String.ofList name) then
        some (String.ofList name, if value.isEmpty then rest else .text (String.ofList value) :: rest)
      else none
    | _ => none
  | _ => none

/-- The commands that belong to the shell so closely that no function can have their names. -/
def specialNames : List String :=
  [".", ":", "break", "continue", "eval", "exec", "exit", "export", "readonly", "return", "set",
    "shift", "times", "trap", "unset"]

/-- The token that must come next. -/
def expect (name : String) : Reading Unit := do
  match ← token grammar true false with
  | .keyword found => if found ≠ name then expecting ("\"" ++ name ++ "\"")
  | _ => expecting ("\"" ++ name ++ "\"")

/-- A simple command, or the definition of a function. `command` reads the body of one. -/
def simple (command : Reading Command) : Reading Command := do
  let line := (← get).line
  let mut assignments := []
  let mut words : List Word := []
  let mut redirections := []
  for _ in ← bound do
    match ← token grammar false false with
    | .word word =>
      match if words.isEmpty then assignment? word else none with
      | some assignment => assignments := assignment :: assignments
      | none => words := word :: words
    | .redirection stream sign =>
      redirections := (← redirectionOf grammar stream sign) :: redirections
    | .opening =>
      match words with
      | [word] =>
        if assignments.isEmpty && redirections.isEmpty then
          match ← token grammar false false with
          | .closing => pure ()
          | _ => expecting "\")\""
          match word.plain? with
          | some name =>
            if isName name && !specialNames.contains name then
              let start := (← get).line
              let _ ← token grammar true true
              putBack
              return .function start name (← command)
            else fail "Bad function name"
          | none => fail "Bad function name"
        else
          putBack
          break
      | _ =>
        putBack
        break
    | _ =>
      putBack
      break
  return .simple line assignments.reverse words.reverse redirections.reverse

/-- The branches behind `if` or `elif`; `fuel` bounds their number. -/
def branches : (fuel : Nat) → Reading Command
  | 0 => unexpected
  | fuel + 1 => do
    let condition ← grammar.commands .body
    expect grammar "then"
    let body ← grammar.commands .body
    match ← token grammar false false with
    | .keyword "elif" => return .choice condition body (← branches fuel)
    | .keyword "else" =>
      let otherwise ← grammar.commands .body
      expect grammar "fi"
      return .choice condition body otherwise
    | _ =>
      putBack
      expect grammar "fi"
      return .choice condition body .nothing

/-- The body of a loop. -/
def loopBody : Reading Command := do
  let body ← grammar.commands .body
  expect grammar "done"
  return body

/-- What stands behind `for`. -/
def forLoop (line : Nat) : Reading Command := do
  let name ← match ← token grammar false false with
    | .word word => pure (word.plain?.filter isName)
    | _ => pure none
  let some name := name | fail "Bad for loop variable"
  let mut words := [Word.allArguments]
  match ← token grammar true true with
  | .keyword "in" =>
    let mut found := []
    for _ in ← bound do
      match ← token grammar false false with
      | .word word => found := word :: found
      | .lineEnd | .semicolon => break
      | _ => unexpected
    words := found.reverse
  | .semicolon => pure ()
  | _ => putBack
  match ← token grammar true true with
  | .keyword "do" => return .each line name words (← loopBody grammar)
  | _ => expecting "\"do\""

/-- The word of a token; any other token counts as nothing. -/
def wordOf : Token → Word
  | .word word => word
  | .keyword name => [.text name]
  | _ => []

/-- The patterns of an arm from the first on, up to the closing bracket. -/
def patterns (first : Token) : Reading (List Word) := do
  let mut found := [wordOf first]
  for _ in ← bound do
    match ← token grammar false false with
    | .bar => found := wordOf (← token grammar false false) :: found
    | .closing => return found.reverse
    | _ => expecting "\")\""
  expecting "\")\""

/-- What stands behind `case`. -/
def caseOf (line : Nat) : Reading Command := do
  let word ← match ← token grammar false false with
    | .word word => pure word
    | _ => expecting "word"
  match ← token grammar true true with
  | .keyword "in" => pure ()
  | _ => expecting "\"in\""
  let mut arms := []
  for _ in ← bound do
    match ← token grammar true true with
    | .keyword "esac" => return .cases line word arms.reverse
    | first =>
      let first ← match first with
        | .opening => token grammar false false
        | first => pure first
      let words ← patterns grammar first
      let body ← grammar.commands .optional
      arms := (words, body) :: arms
      match ← token grammar true true with
      | .keyword "esac" => return .cases line word arms.reverse
      | .caseEnd => pure ()
      | _ => expecting "\";;\""
  unexpected

/-- A command that is no simple one, with what follows it. -/
def withRedirections (line : Nat) (body : Command) : Reading Command := do
  match ← redirections grammar, body with
  | [], body => return body
  | found, .subshell line body _ => return .subshell line body found
  | found, body => return .redirected line body found

/-- A command; `fuel` bounds how deep functions are defined in each other. -/
def commandUpTo : (fuel : Nat) → Reading Command
  | 0 => unexpected
  | fuel + 1 => do
    let line := (← get).line
    match ← token grammar false false with
    | .keyword "if" =>
      let steps := (← bound).length
      withRedirections grammar line (← branches grammar steps)
    | .keyword "while" =>
      let condition ← grammar.commands .body
      expect grammar "do"
      withRedirections grammar line (.loop true condition (← loopBody grammar))
    | .keyword "until" =>
      let condition ← grammar.commands .body
      expect grammar "do"
      withRedirections grammar line (.loop false condition (← loopBody grammar))
    | .keyword "for" => withRedirections grammar line (← forLoop grammar line)
    | .keyword "case" => withRedirections grammar line (← caseOf grammar line)
    | .opening =>
      let body ← grammar.commands .body
      match ← token grammar false false with
      | .closing => withRedirections grammar line (.subshell line body [])
      | _ => expecting "\")\""
    | .keyword "\x7b" =>
      let body ← grammar.commands .body
      expect grammar "\x7d"
      withRedirections grammar line body
    | .word _ | .redirection .. =>
      putBack
      simple grammar (commandUpTo fuel)
    | _ => unexpected

def command : Reading Command := do
  let steps := (← bound).length
  commandUpTo grammar steps

/-- Commands of which each reads what the one before it writes. -/
def pipeline : Reading Command := do
  let negated ← match ← token grammar false false with
    | .keyword "!" =>
      let _ ← token grammar true false
      putBack
      pure true
    | _ =>
      putBack
      pure false
  let mut parts := [← command grammar]
  for _ in ← bound do
    match ← token grammar false false with
    | .bar =>
      let _ ← token grammar true true
      putBack
      parts := (← command grammar) :: parts
    | _ =>
      putBack
      break
  let whole := match parts with
    | [part] => part
    | parts => .pipeline parts.reverse
  return if negated then .negated whole else whole

/-- Pipelines that depend on the success or failure of those before them. -/
def chain : Reading Command := do
  let mut whole ← pipeline grammar
  for _ in ← bound do
    match ← token grammar false false with
    | .andAnd =>
      let _ ← token grammar true true
      putBack
      whole := .both whole (← pipeline grammar)
    | .orOr =>
      let _ ← token grammar true true
      putBack
      whole := .either whole (← pipeline grammar)
    | _ =>
      putBack
      break
  return whole

/-- A list of commands. One in a line ends with the line; any other ends before a token that closes
what it stands in. -/
def list (nesting : Nesting) : Reading Command := do
  let inLine := nesting = .line
  let mut whole := Command.nothing
  let mut first := true
  for _ in ← bound do
    let start ← token grammar true (!inLine)
    match start with
    | .lineEnd => return whole
    | .ended =>
      putBack
      return whole
    | _ => pure ()
    putBack
    if !inLine && start.endsList && !(nesting = .body && first) then return whole
    first := false
    let part ← chain grammar
    match ← token grammar false false with
    | .ampersand => whole := whole.followedBy (.background part)
    | .semicolon => whole := whole.followedBy part
    | .lineEnd =>
      putBack
      whole := whole.followedBy part
    | .ended =>
      putBack
      return whole.followedBy part
    | _ =>
      if inLine then unexpected
      putBack
      return whole.followedBy part
  return whole

end Reading

mutual

/-- Reads a list of commands; `fuel` bounds how deep parts are nested. -/
def readCommands : (fuel : Nat) → Nesting → Reading Command
  | 0, _ => Reading.unexpected
  | fuel + 1, nesting => Reading.list ⟨readCommands fuel, readPieces fuel⟩ nesting

def readPieces : (fuel : Nat) → Context → Reading Word
  | 0, _ => Reading.unexpected
  | fuel + 1, context => Reading.piecesIn ⟨readCommands fuel, readPieces fuel⟩ context

end

/-- A line of a script: its command, unless nothing is left. -/
def readLine (reader : Reader) : Except Misreading (Option Command × Reader) :=
  let reader := { reader with again := false }
  if reader.rest.isEmpty then .ok (none, reader)
  else
    ((readCommands (2 * reader.rest.length + 8) .line).run reader).map fun (command, reader) =>
      (some command, reader)

end SignalCatalog.Shell
