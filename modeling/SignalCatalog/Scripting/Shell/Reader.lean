import SignalCatalog.Scripting.Shell.Command
import SignalCatalog.Text.Numeral

/-!
# Reading scripts: characters, pieces and tokens

A script is read from left to right. A reader knows what is left, the line, the token that was looked
at last, and the documents whose text stands behind the current line. What can be nested, commands and
words, is read by a grammar that is handed down, so that each function here reads one layer.
-/

namespace SignalCatalog.Shell

/-- Why a script cannot be read, and in which line. -/
structure Misreading where
  line : Nat
  words : String

inductive Token
  | ended
  | lineEnd
  | semicolon
  | ampersand
  | andAnd
  | orOr
  | bar
  | opening
  | closing
  | caseEnd
  /-- A redirection; its word follows. -/
  | redirection (stream : Nat) (sign : String)
  | word (word : Word)
  | keyword (name : String)

/-- The words that are part of commands. -/
def keywords : List String :=
  ["!", "case", "do", "done", "elif", "else", "esac", "fi", "for", "if", "in", "then", "until",
    "while", "\x7b", "\x7d"]

/-- The words with which a list of commands ends. -/
def closingKeywords : List String := ["do", "done", "elif", "else", "esac", "fi", "then", "\x7d"]

def Token.endsList : Token → Bool
  | ended | closing | caseEnd => true
  | keyword name => closingKeywords.contains name
  | _ => false

/-- The token in a message. -/
def Token.shown : Token → String
  | ended => "end of file"
  | lineEnd => "newline"
  | semicolon => "\";\""
  | ampersand => "\"&\""
  | andAnd => "\"&&\""
  | orOr => "\"||\""
  | bar => "\"|\""
  | opening => "\"(\""
  | closing => "\")\""
  | caseEnd => "\";;\""
  | redirection .. => "redirection"
  | word _ => "word"
  | keyword name => "\"" ++ name ++ "\""

/-- A document that has been announced and starts behind the line. -/
structure Announced where
  index : Nat
  mark : String
  /-- Tabs at the start of its lines are dropped. -/
  indented : Bool
  /-- Nothing is put into it. -/
  literal : Bool

structure Reader where
  rest : List Char
  line : Nat
  /-- The token that was read last. -/
  last : Token
  /-- Whether it is to be read again. -/
  again : Bool
  announced : List Announced
  /-- The documents that have been read, by index. -/
  documents : List (Nat × Word)
  /-- The index of the next document. -/
  next : Nat

abbrev Reading := StateT Reader (Except Misreading)

/-- Where pieces stand. -/
inductive Context
  /-- In a word. -/
  | bare
  /-- In quotes. -/
  | quotes
  /-- In the braces of a parameter, which stand in quotes or not. -/
  | braces (quoted : Bool)
  | document
  | sum
deriving DecidableEq

/-- Whether characters stand for themselves in a context. -/
def Context.isQuoted : Context → Bool
  | .bare | .braces false => false
  | _ => true

/-- What a list of commands stands in. -/
inductive Nesting
  /-- In a line. -/
  | line
  /-- In a command; something must be there. -/
  | body
  /-- As `body`, but nothing need be there. -/
  | optional
deriving DecidableEq

/-- How nested parts are read. -/
structure Grammar where
  commands : Nesting → Reading Command
  pieces : Context → Reading Word

namespace Reader

def start (text : List Char) (line next : Nat) : Reader :=
  ⟨text, line, .ended, false, [], [], next⟩

end Reader

namespace Reading

def fail {α : Type} (words : String) : Reading α := do
  throw ⟨(← get).line, words⟩

/-- The last token stands where it cannot. -/
def unexpected {α : Type} : Reading α := do
  fail ((← get).last.shown ++ " unexpected")

def expecting {α : Type} (token : String) : Reading α := do
  fail ((← get).last.shown ++ " unexpected (expecting " ++ token ++ ")")

/-- A bound for the number of steps that the rest allows. -/
def bound : Reading (List Nat) := do
  return List.range ((← get).rest.length + 2)

/-! ## Characters -/

/-- The rest without line breaks that a backslash takes away, and their number. -/
def joinLines : List Char → Nat → List Char × Nat
  | '\\' :: '\n' :: rest, lines => joinLines rest (lines + 1)
  | rest, lines => (rest, lines)

/-- The next character, if there is one; it stays. -/
def peek : Reading (Option Char) := do
  let reader ← get
  let (rest, lines) := joinLines reader.rest 0
  set { reader with rest, line := reader.line + lines }
  return rest.head?

/-- Drops a character; the line break counts. -/
def skip : Reading Unit := do
  let reader ← get
  match reader.rest with
  | [] => return
  | c :: rest => set { reader with rest, line := if c = '\n' then reader.line + 1 else reader.line }

/-- Drops a character that stands next. -/
def accept (c : Char) : Reading Bool := do
  if (← peek) = some c then
    skip
    return true
  else return false

/-- Drops characters as long as they are of a kind, and gives them. -/
def takeAll (good : Char → Bool) : Reading (List Char) := do
  let mut found := []
  for _ in ← bound do
    match ← peek with
    | some c =>
      if good c then
        skip
        found := c :: found
      else return found.reverse
    | none => return found.reverse
  return found.reverse

/-! ## Names of parameters -/

def isNameStart (c : Char) : Bool := c.isAlpha || c = '_'

def isNameChar (c : Char) : Bool := c.isAlphanum || c = '_'

/-- The characters that are the name of a parameter. -/
def isSpecial (c : Char) : Bool := "!#$*-?@".toList.contains c || c.isDigit

/-- Whether a text can be the name of a variable. -/
def isName (text : String) : Bool :=
  match text.toList with
  | [] => false
  | first :: rest => isNameStart first && rest.all isNameChar

/-! ## What is put in -/

/-- Adds a piece to pieces of which the last comes first; neighbouring texts become one. -/
def add (piece : Piece) (pieces : Word) : Word :=
  match piece, pieces with
  | .text text, .text before :: rest => .text (before ++ text) :: rest
  | .quoted text, .quoted before :: rest => .quoted (before ++ text) :: rest
  | piece, pieces => piece :: pieces

/-- The use that follows a name in braces, with whether an empty value counts as missing. -/
def useIn : Reading (Use × Bool) := do
  let colon ← accept ':'
  match ← peek with
  | some '-' => skip; return (.orElse, colon)
  | some '=' => skip; return (.assign, colon)
  | some '?' => skip; return (.demand, colon)
  | some '+' => skip; return (.instead, colon)
  | some c =>
    if colon then
      skip
      return (.unknown, false)
    else if c = '%' || c = '#' then
      skip
      let longest ← accept c
      return (if c = '#' then .dropStart longest else .dropEnd longest, false)
    else if c = '\x7d' then return (.value, false)
    else
      modify fun reader => { reader with rest := reader.rest.tail }
      return (.unknown, false)
  | none => return (.value, false)

/-- The name at which a parameter in braces starts, if there is one. -/
def nameIn : Reading (Option String) := do
  match ← peek with
  | some c =>
    if isNameStart c then return some (String.ofList (← takeAll isNameChar))
    else if c.isDigit then return some (String.ofList (← takeAll Char.isDigit))
    else if isSpecial c then
      skip
      return some c.toString
    else return none
  | none => return none

/-- A parameter behind its opening brace. -/
def parameterInBraces (grammar : Grammar) (quoted : Bool) : Reading Piece := do
  let ended (name : String) (use : Use) (unlessEmpty : Bool) : Reading Piece := do
    let inner := match use with
      | .dropStart _ | .dropEnd _ => Context.braces false
      | _ => Context.braces quoted
    let word ← grammar.pieces inner
    return .parameter quoted name use unlessEmpty word
  if (← peek) = some '#' then
    let before ← get
    skip
    let found ← nameIn
    match found, ← peek with
    | some name, some '\x7d' =>
      skip
      return .parameter quoted name .length false []
    | some name, _ =>
      if name.toList.all isNameChar && !name.isEmpty then
        return ← ended name .unknown false
      set before
    | none, _ => set before
  match ← nameIn with
  | some name =>
    let (use, unlessEmpty) ← useIn
    ended name use unlessEmpty
  | none =>
    -- A line break in the place of the name does not count.
    modify fun reader =>
      { reader with rest := if reader.rest.head? = some '\n' then reader.rest.tail else reader.rest }
    ended "" .unknown false

/-- The text of a command in backquotes, and the rest behind them. -/
def untilBackquote (quoted : Bool) : List Char → Option (List Char × List Char)
  | [] => none
  | '\\' :: c :: rest =>
    let kept := if c = '\\' || c = '$' || c.toNat = 0x60 || (quoted && c = '"') then [c]
      else if c = '\n' then []
      else ['\\', c]
    (untilBackquote quoted rest).map fun (text, rest) => (kept ++ text, rest)
  | c :: rest =>
    if c.toNat = 0x60 then some ([], rest)
    else (untilBackquote quoted rest).map fun (text, rest) => (c :: text, rest)

/-- The number of line breaks in a text. -/
def lineBreaks (text : List Char) : Nat := (text.filter (· = '\n')).length

/-- A command in backquotes behind the first of them. -/
def backquoted (grammar : Grammar) (quoted : Bool) : Reading Piece := do
  let reader ← get
  match untilBackquote quoted reader.rest with
  | none =>
    modify fun reader => { reader with line := reader.line + lineBreaks reader.rest }
    fail "EOF in backquote substitution"
  | some (text, rest) =>
    let lines := lineBreaks (reader.rest.take (reader.rest.length - rest.length))
    set { reader with rest := text, line := 1, again := false }
    let command ← grammar.commands .optional
    modify fun inner =>
      { inner with rest, line := reader.line + lines, last := reader.last, again := false }
    return .output quoted command

/-- What a dollar sign that has been read stands for. -/
def afterDollar (grammar : Grammar) (quoted : Bool) : Reading Piece := do
  match ← peek with
  | some '(' =>
    skip
    if ← accept '(' then return .sum quoted (← grammar.pieces .sum)
    let outer ← get
    set { outer with again := false }
    let command ← grammar.commands .optional
    match (← get).last with
    | .closing => pure ()
    | _ => expecting "\")\""
    modify fun inner => { inner with last := outer.last, again := false }
    return .output quoted command
  | some '\x7b' =>
    skip
    parameterInBraces grammar quoted
  | some c =>
    if isNameStart c then
      return .parameter quoted (String.ofList (← takeAll isNameChar)) .value false []
    else if isSpecial c then
      skip
      return .parameter quoted c.toString .value false []
    else return if quoted then .quoted "$" else .text "$"
  | none => return if quoted then .quoted "$" else .text "$"

/-! ## Pieces -/

/-- The characters that end a word. -/
def endsWord (c : Char) : Bool := " \t\n;&|<>()".toList.contains c

/-- The text in single quotes behind the first of them. -/
def singleQuoted : Reading String := do
  let mut found := []
  for _ in ← bound do
    match (← get).rest with
    | [] => fail "Unterminated quoted string"
    | c :: _ =>
      skip
      if c = '\'' then return String.ofList found.reverse
      found := c :: found
  fail "Unterminated quoted string"

/-- The characters that a backslash takes their meaning from where only they have one. -/
def isEscapable (context : Context) (c : Char) : Bool :=
  c = '\\' || c = '$' || c.toNat = 0x60 || (c = '"' && context ≠ .document) ||
    (c = '\x7d' && context = .braces true)

/-- The end of the text in a context. -/
def endOfText (context : Context) (found : Word) : Reading Word := do
  match context with
  | .bare | .document => return found.reverse
  | .quotes | .braces true => fail "Unterminated quoted string"
  | .braces false => fail "Missing '\x7d'"
  | .sum => fail "Missing '))'"

/-- The pieces in a context up to its end. -/
def piecesIn (grammar : Grammar) (context : Context) : Reading Word := do
  let quoted := context.isQuoted
  let plain (text : String) : Piece := if quoted then .quoted text else .text text
  let mut found : Word := if context = .quotes then [.quoted ""] else []
  let mut level := 0
  for _ in ← bound do
    match (← get).rest with
    | [] => return ← endOfText context found
    | '\\' :: [] =>
      skip
      found := add (.quoted "\\") found
    | '\\' :: c :: _ =>
      skip
      skip
      if c = '\n' then pure ()
      else if !quoted then found := add (.quoted c.toString) found
      else if isEscapable context c then found := add (.quoted c.toString) found
      else found := add (.quoted (String.ofList ['\\', c])) found
    | c :: _ =>
      if context = .bare && endsWord c then return found.reverse
      skip
      if c = '$' then found := add (← afterDollar grammar quoted) found
      else if c.toNat = 0x60 then found := add (← backquoted grammar quoted) found
      else if c = '"' then
        match context with
        | .quotes => return found.reverse
        | .bare | .braces false => found := (← grammar.pieces .quotes).foldl (fun found p => add p found) found
        | .braces true => pure ()
        | _ => found := add (plain "\"") found
      else if c = '\'' && !quoted then found := add (.quoted (← singleQuoted)) found
      else match context with
        | .braces _ =>
          if c = '\x7d' then return found.reverse
          found := add (plain c.toString) found
        | .sum =>
          if c = '(' then
            level := level + 1
            found := add (plain "(") found
          else if c = ')' then
            if level > 0 then
              level := level - 1
              found := add (plain ")") found
            else if ← accept ')' then return found.reverse
            else found := add (plain ")") found
          else found := add (plain c.toString) found
        | _ => found := add (plain c.toString) found
  endOfText context found

/-! ## Documents -/

/-- The lines of a document up to its mark, and the rest behind that line. -/
def documentLines (mark : List Char) (indented : Bool) :
    (fuel : Nat) → List Char → List Char × List Char
  | 0, rest => ([], rest)
  | _ + 1, [] => ([], [])
  | fuel + 1, text =>
    let text := if indented then text.dropWhile (· = '\t') else text
    let line := text.takeWhile (· ≠ '\n')
    let rest := text.drop (line.length + 1)
    if line = mark then ([], rest)
    else
      let ended := line.length < text.length
      let (body, rest) := documentLines mark indented fuel rest
      (line ++ (if ended then ['\n'] else []) ++ body, rest)

/-- Reads the documents that have been announced; they start here. -/
def readDocuments (grammar : Grammar) : Reading Unit := do
  for document in (← get).announced do
    let reader ← get
    let (body, rest) :=
      documentLines document.mark.toList document.indented (reader.rest.length + 1) reader.rest
    let lines := lineBreaks (reader.rest.take (reader.rest.length - rest.length))
    let word ←
      if document.literal then pure [Piece.quoted (String.ofList body)]
      else
        set { reader with rest := body, announced := [] }
        grammar.pieces .document
    modify fun inner =>
      { inner with
        rest
        line := reader.line + lines
        last := reader.last
        again := reader.again
        announced := []
        documents := (document.index, word) :: inner.documents }

/-! ## Tokens -/

/-- Announces a document and gives its index. -/
def announce (mark : Word) (indented : Bool) : Reading Nat := do
  let index := (← get).next
  modify fun reader =>
    { reader with
      next := index + 1
      announced := reader.announced ++ [⟨index, mark.unquoted, indented, mark.hasQuotes⟩] }
  return index

/-- A redirection behind its stream, from its arrow on. -/
def arrow (stream : Option Nat) : Reading Token := do
  if ← accept '>' then
    let stream := stream.getD 1
    if ← accept '>' then return .redirection stream ">>"
    else if ← accept '|' then return .redirection stream ">|"
    else if ← accept '&' then return .redirection stream ">&"
    else return .redirection stream ">"
  else
    skip
    let stream := stream.getD 0
    if ← accept '<' then
      if ← accept '-' then return .redirection stream "<<-" else return .redirection stream "<<"
    else if ← accept '&' then return .redirection stream "<&"
    else if ← accept '>' then return .redirection stream "<>"
    else return .redirection stream "<"

/-- A token that starts with a character that is no blank. -/
def tokenAt (grammar : Grammar) (c : Char) : Reading Token := do
  let sign (single double : Token) : Reading Token := do
    skip
    if ← accept c then return double else return single
  match c with
  | '&' => sign .ampersand .andAnd
  | '|' => sign .bar .orOr
  | ';' => sign .semicolon .caseEnd
  | '(' => skip; return .opening
  | ')' => skip; return .closing
  | '<' | '>' => arrow none
  | _ =>
    let word ← grammar.pieces .bare
    match word, (← get).rest.head? with
    | [.text digit], some next =>
      match digit.toList with
      | [d] =>
        if d.isDigit && (next = '<' || next = '>') then arrow (some (Text.digitValue d))
        else return .word word
      | _ => return .word word
    | _, _ => return .word word

/-- A token from the text. A line break ends the line and is followed by the documents. -/
def freshToken (grammar : Grammar) : Reading Token := do
  for _ in ← bound do
    match ← peek with
    | none => return .ended
    | some c =>
      if c = ' ' || c = '\t' then skip
      else if c = '#' then
        modify fun reader => { reader with rest := reader.rest.dropWhile (· ≠ '\n') }
      else if c = '\n' then
        skip
        readDocuments grammar
        return .lineEnd
      else return ← tokenAt grammar c
  return .ended

/-- The next token. Where commands start, some words are keywords, and line breaks may stand in front of
it. -/
def token (grammar : Grammar) (knowsKeywords skipsLines : Bool) : Reading Token := do
  let mut found ←
    if (← get).again then pure (← get).last else freshToken grammar
  if skipsLines then
    for _ in ← bound do
      match found with
      | .lineEnd => found ← freshToken grammar
      | _ => break
  if knowsKeywords then
    if let .word word := found then
      if let some text := word.plain? then
        if keywords.contains text then found := .keyword text
  modify fun reader => { reader with last := found, again := false }
  return found

/-- The last token is to be read again. -/
def putBack : Reading Unit := modify fun reader => { reader with again := true }

end Reading

end SignalCatalog.Shell
