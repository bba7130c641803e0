import SignalCatalog.Scripting.Utilities.Expression
import SignalCatalog.Scripting.Utilities.Lines

/-!
# A line editor

The editor goes through the lines of its inputs and runs its commands on each. A command may be guarded
by addresses; braces are kept as jumps over the commands between them.
-/

namespace SignalCatalog.Utilities

open Shell

namespace LineEditor

/-! ## Commands -/

inductive Address
  | line (number : Nat)
  | last
  | stepped (first step : Nat)
  | matching (expression : Expression) (ignoring : Bool)
  /-- A number of lines behind the first address. -/
  | behind (count : Nat)

structure Guard where
  first : Option Address
  second : Option Address
  negated : Bool

/-- How letters are changed in what is put in. -/
inductive Casing
  | upper
  | lower
  | upperOne
  | lowerOne
  | none

/-- A part of what is put in the place of a match. -/
inductive Part
  | text (text : List Char)
  /-- The match, or one of its groups. -/
  | group (index : Nat)
  | casing (casing : Casing)

structure Substitution where
  expression : Expression
  ignoring : Bool
  parts : List Part
  /-- The first match that is replaced. -/
  first : Nat
  all : Bool
  prints : Bool

inductive Action
  | substitute (substitution : Substitution)
  | exchange (pairs : List (Char × Char))
  | delete
  | deleteFirst
  | print
  | printFirst
  | number
  | next
  | appendNext
  | hold (appends : Bool)
  | fetch (appends : Bool)
  | swap
  | append (text : String)
  | insert (text : String)
  | change (text : String)
  | readFile (path : String)
  | quit (status : Nat) (prints : Bool)
  /-- Goes to a label, or to the end; only behind a substitution if that is asked for. -/
  | branch (label : String) (ifChanged : Bool)
  | label (name : String)
  /-- Opens braces that end behind a number of commands. -/
  | opening (length : Nat)
  | closing

structure Command where
  guard : Guard
  action : Action

/-! ## Reading -/

/-- A complaint: what is wrong, and how many characters were left. -/
abbrev Read (α : Type) := List Char → Except (String × Nat) (α × List Char)

def isBlank (c : Char) : Bool := c = ' ' || c = '\t'

/-- The text up to a delimiter, which a backslash can stand before; `fuel` bounds its length. -/
def upToDelimiter (delimiter : Char) (keepsBackslash : Bool) :
    (fuel : Nat) → (inBrackets : Bool) → List Char → Option (List Char × List Char)
  | 0, _, _ | _, _, [] => none
  | fuel + 1, inBrackets, c :: rest =>
    let go (lead : List Char) (inBrackets : Bool) (rest : List Char) :=
      (upToDelimiter delimiter keepsBackslash fuel inBrackets rest).map fun (text, rest) =>
        (lead ++ text, rest)
    if c = '\\' && !inBrackets then
      match rest with
      | [] => none
      | next :: more =>
        if next = delimiter && !keepsBackslash then go [next] false more
        else go ['\\', next] false more
    else if c = delimiter && !inBrackets then some ([], rest)
    else if c = '[' && !inBrackets && !keepsBackslash then
      match rest with
      | '^' :: ']' :: more => go ['[', '^', ']'] true more
      | ']' :: more => go ['[', ']'] true more
      | more => go ['['] (more.contains ']') more
    else if c = ']' && inBrackets then go [c] false rest
    else go [c] inBrackets rest

def expressionOf (extended : Bool) (text : List Char) (left : Nat) :
    Except (String × Nat) Expression :=
  (Expression.ofText extended (String.ofList text)).mapError fun words => (words, left)

/-- Reads an address, if there is one. -/
def address? (extended : Bool) : Read (Option Address) := fun text => do
  match text with
  | [] => return (none, [])
  | c :: rest =>
    if c.isDigit then
      let digits := text.takeWhile Char.isDigit
      let number := (Text.natural? digits).getD 0
      match text.drop digits.length with
      | '~' :: more =>
        let step := more.takeWhile Char.isDigit
        return (some (.stepped number ((Text.natural? step).getD 0)), more.drop step.length)
      | more => return (some (.line number), more)
    else if c = '$' then return (some .last, rest)
    else
      let delimiter? := if c = '/' then some (c, rest) else match c, rest with
        | '\\', other :: more => some (other, more)
        | _, _ => none
      match delimiter? with
      | none => return (none, text)
      | some (delimiter, rest) =>
        match upToDelimiter delimiter false (rest.length + 1) false rest with
        | none => .error ("unterminated address regex", 0)
        | some (pattern, rest) =>
          let expression ← expressionOf extended pattern rest.length
          match rest with
          | 'I' :: rest => return (some (.matching expression true), rest)
          | rest => return (some (.matching expression false), rest)

/-- Reads the addresses before a command. -/
def guard (extended : Bool) : Read Guard := fun text => do
  let (first, rest) ← address? extended text
  let rest := rest.dropWhile isBlank
  let (second, rest) ← match first, rest with
    | some _, ',' :: rest =>
      let rest := rest.dropWhile isBlank
      match rest with
      | '+' :: more =>
        let digits := more.takeWhile Char.isDigit
        .ok (some (Address.behind ((Text.natural? digits).getD 0)), more.drop digits.length)
      | rest =>
        let (second, behind) ← address? extended rest
        if second.isNone then .error ("unexpected \x60,'", behind.length)
        .ok (second, behind)
    | _, rest => .ok (none, rest)
  let rest := rest.dropWhile isBlank
  match rest with
  | '!' :: rest => return (⟨first, second, true⟩, rest.dropWhile isBlank)
  | rest => return (⟨first, second, false⟩, rest)

/-- The parts of what is put in the place of a match. -/
def partsOf : List Char → List Part
  | [] => []
  | '&' :: rest => .group 0 :: partsOf rest
  | '\\' :: c :: rest =>
    (if c.isDigit then .group (c.toNat - 48)
      else match c with
        | 'n' => .text ['\n']
        | 't' => .text ['\t']
        | 'U' => .casing .upper
        | 'L' => .casing .lower
        | 'u' => .casing .upperOne
        | 'l' => .casing .lowerOne
        | 'E' => .casing .none
        | c => .text [c]) :: partsOf rest
  | c :: rest => .text [c] :: partsOf rest

/-- Reads the letters behind a substitution. -/
def flags (substitution : Substitution) : (fuel : Nat) → Read Substitution
  | 0 => fun text => .ok (substitution, text)
  | fuel + 1 => fun text =>
    match text with
    | 'g' :: rest => flags { substitution with all := true } fuel rest
    | 'p' :: rest => flags { substitution with prints := true } fuel rest
    | 'i' :: rest | 'I' :: rest => flags { substitution with ignoring := true } fuel rest
    | c :: rest =>
      if c.isDigit then
        let digits := text.takeWhile Char.isDigit
        let number := (Text.natural? digits).getD 1
        if number = 0 then .error ("number option to \x60s' command may not be zero", rest.length)
        else flags { substitution with first := number } fuel (text.drop digits.length)
      else if [' ', '\t', '\n', ';', '\x7d', '#'].contains c then .ok (substitution, text)
      else .error ("unknown option to \x60s'", rest.length)
    | [] => .ok (substitution, [])

/-- Reads a substitution behind its letter. -/
def substitution (extended : Bool) : Read Action := fun text => do
  match text with
  | [] => .error ("unterminated \x60s' command", 0)
  | delimiter :: rest =>
    match upToDelimiter delimiter false (rest.length + 1) false rest with
    | none => .error ("unterminated \x60s' command", 0)
    | some (pattern, rest) =>
      match upToDelimiter delimiter true (rest.length + 1) false rest with
      | none => .error ("unterminated \x60s' command", 0)
      | some (goal, rest) =>
        let expression ← expressionOf extended pattern rest.length
        let start : Substitution := ⟨expression, false, partsOf goal, 1, false, false⟩
        let (found, rest) ← flags start (rest.length + 1) rest
        return (.substitute found, rest)

/-- Characters with their escapes taken for what they stand for. -/
def plainChars : List Char → List Char
  | '\\' :: 'n' :: rest => '\n' :: plainChars rest
  | '\\' :: 't' :: rest => '\t' :: plainChars rest
  | '\\' :: c :: rest => c :: plainChars rest
  | c :: rest => c :: plainChars rest
  | [] => []

def exchange : Read Action := fun text => do
  match text with
  | [] => .error ("unterminated \x60y' command", 0)
  | delimiter :: rest =>
    match upToDelimiter delimiter true (rest.length + 1) false rest with
    | none => .error ("unterminated \x60y' command", 0)
    | some (from_, rest) =>
      match upToDelimiter delimiter true (rest.length + 1) false rest with
      | none => .error ("unterminated \x60y' command", 0)
      | some (goal, rest) =>
        let (a, b) := (plainChars from_, plainChars goal)
        if a.length = b.length then return (.exchange (a.zip b), rest)
        else .error ("strings for \x60y' command are different lengths", rest.length)

/-- The text of a command that puts lines in: up to a line break without a backslash before it. -/
def lineText : List Char → List Char × List Char
  | [] => ([], [])
  | '\n' :: rest => ([], rest)
  | '\\' :: c :: rest =>
    let (text, behind) := lineText rest
    (c :: text, behind)
  | c :: rest =>
    let (text, behind) := lineText rest
    (c :: text, behind)

/-- Reads the text of a command that puts lines in. -/
def insertion (make : String → Action) : Read Action := fun text =>
  let rest := text.dropWhile isBlank
  let rest := match rest with
    | '\\' :: more =>
      match more.dropWhile isBlank with
      | '\n' :: more => more
      | _ => more
    | rest => rest
  if rest.isEmpty then .error ("expected \\ after \x60a', \x60c' or \x60i'", 0)
  else
    let (found, rest) := lineText rest
    .ok (make (String.ofList found ++ "\n"), rest)

/-- Reads a word that ends with its command. -/
def labelWord : Read String := fun text =>
  let text := text.dropWhile isBlank
  let word := text.takeWhile fun c => !(['\n', ';'].contains c)
  .ok (String.ofList (Text.trimEnd (String.ofList word).toList), text.drop word.length)

/-- Reads the command of a letter. -/
def action (extended : Bool) (letter : Char) : Read Action := fun rest => do
  let plain (found : Action) : Except (String × Nat) (Action × List Char) := .ok (found, rest)
  match letter with
  | 's' => substitution extended rest
  | 'y' => exchange rest
  | 'd' => plain .delete
  | 'D' => plain .deleteFirst
  | 'p' => plain .print
  | 'P' => plain .printFirst
  | '=' => plain .number
  | 'n' => plain .next
  | 'N' => plain .appendNext
  | 'h' => plain (.hold false)
  | 'H' => plain (.hold true)
  | 'g' => plain (.fetch false)
  | 'G' => plain (.fetch true)
  | 'x' => plain .swap
  | 'a' => insertion .append rest
  | 'i' => insertion .insert rest
  | 'c' => insertion .change rest
  | 'r' =>
    let rest := rest.dropWhile isBlank
    let path := rest.takeWhile (· ≠ '\n')
    return (.readFile (String.ofList path), rest.drop path.length)
  | 'q' | 'Q' =>
    let rest := rest.dropWhile isBlank
    let digits := rest.takeWhile Char.isDigit
    return (.quit ((Text.natural? digits).getD 0 % 256) (letter = 'q'), rest.drop digits.length)
  | 'b' => (labelWord rest).map fun (name, rest) => (.branch name false, rest)
  | 't' => (labelWord rest).map fun (name, rest) => (.branch name true, rest)
  | ':' => (labelWord rest).map fun (name, rest) => (.label name, rest)
  | letter => .error ("unknown command: \x60" ++ letter.toString ++ "'", rest.length)

/-- Reads commands up to the end or to a closing brace; `fuel` bounds the length of the text. -/
def commandsUpTo (extended : Bool) : (fuel depth : Nat) → Read (List Command)
  | 0, _ => fun text => .ok ([], text)
  | fuel + 1, depth => fun text => do
    match text.dropWhile fun c => isBlank c || c = '\n' || c = ';' with
    | [] =>
      if depth > 0 then .error ("unmatched \x60\x7b'", text.length) else .ok ([], [])
    | '#' :: rest => commandsUpTo extended fuel depth (rest.dropWhile (· ≠ '\n'))
    | text =>
      let (found, rest) ← guard extended text
      match rest with
      | [] => .error ("missing command", 0)
      | '\x7d' :: rest =>
        if depth = 0 then .error ("unexpected \x60\x7d'", rest.length) else .ok ([], rest)
      | '\x7b' :: rest =>
        let (inner, rest) ← commandsUpTo extended fuel (depth + 1) rest
        let (others, rest) ← commandsUpTo extended fuel depth rest
        return (⟨found, .opening inner.length⟩ :: inner ++ others, rest)
      | letter :: rest =>
        let (done, rest) ← action extended letter rest
        let behind := rest.dropWhile isBlank
        match done, behind with
        | .append _, _ | .insert _, _ | .change _, _ | .label _, _ | _, [] =>
          let (others, rest) ← commandsUpTo extended fuel depth rest
          return (⟨found, done⟩ :: others, rest)
        | _, c :: after =>
          if ['\n', ';', '\x7d', '#'].contains c then
            let (others, rest) ← commandsUpTo extended fuel depth behind
            return (⟨found, done⟩ :: others, rest)
          else .error ("extra characters after command", after.length)

/-- Reads a script, with the complaint if it is none. -/
def commandsOf (extended : Bool) (script : String) : Except String (List Command) :=
  match commandsUpTo extended (2 * script.length + 2) 0 script.toList with
  | .ok (found, _) => .ok found
  | .error (words, left) =>
    .error ("-e expression #1, char " ++ Text.number (script.length - left) ++ ": " ++ words)

/-! ## Running -/

structure Editor where
  rest : List String
  line : Nat
  text : String
  held : String
  output : String
  /-- What is written behind the line. -/
  queue : String
  /-- The ranges that are open, by the number of their command, with the line they end at. -/
  ranges : List (Nat × Option Nat)
  changed : Bool
  /-- The status, if the editor has come to its end. -/
  ended : Option Nat
  /-- Whether the last line lacks a line break. -/
  isOpen : Bool

namespace Editor

def isLast (editor : Editor) : Bool := editor.rest.isEmpty

def write (editor : Editor) (text : String) : Editor :=
  { editor with output := editor.output ++ text }

/-- Writes a text as a line; the last line may lack its line break. -/
def writeLine (editor : Editor) (text : String) : Editor :=
  editor.write (if editor.isOpen && editor.isLast then text else text ++ "\n")

def holds (editor : Editor) : Address → Bool
  | .line number => editor.line = number
  | .last => editor.isLast
  | .stepped first step =>
    if step = 0 then editor.line = first
    else first ≤ editor.line && (editor.line - first) % step = 0
  | .matching expression ignoring => expression.isIn ignoring editor.text
  | .behind _ => false

/-- Whether a command is run on the line, and the editor with the range it opens or closes. -/
def passes (editor : Editor) (index : Nat) (guard : Guard) : Bool × Editor :=
  let without := { editor with ranges := editor.ranges.filter fun item => item.1 ≠ index }
  let opened (stop : Option Nat) : Editor :=
    { without with ranges := (index, stop) :: without.ranges }
  let (found, editor) : Bool × Editor := match guard.first, guard.second with
    | none, _ => (true, editor)
    | some first, none => (editor.holds first, editor)
    | some first, some second =>
      match editor.ranges.find? fun item => item.1 = index with
      | some (_, some stop) =>
        if editor.line < stop then (true, editor)
        else (editor.line = stop, without)
      | some (_, none) => (true, if editor.holds second then without else editor)
      | none =>
        if !editor.holds first then (false, editor)
        else match second with
          | .line number => (true, if number ≤ editor.line then editor else opened (some number))
          | .behind count =>
            (true, if count = 0 then editor else opened (some (editor.line + count)))
          | _ => (true, opened none)
  (found != guard.negated, editor)

/-- What is put in the place of a match. -/
def replaced (found : Expression.Found) : Casing → Casing → List Part → List Char
  | _, _, [] => []
  | lasting, _, .casing .upper :: rest => replaced found .upper lasting rest
  | lasting, _, .casing .lower :: rest => replaced found .lower lasting rest
  | _, _, .casing .none :: rest => replaced found .none .none rest
  | lasting, _, .casing once :: rest => replaced found lasting once rest
  | lasting, once, part :: rest =>
    let text := match part with
      | .text text => text
      | .group 0 => found.text
      | .group index => ((found.groups.find? fun item => item.1 = index).map Prod.snd).getD []
      | .casing _ => []
    let text := match lasting with
      | .upper => Text.upper text
      | .lower => Text.lower text
      | _ => text
    match once, text with
    | .upperOne, c :: more => (c.toUpper :: more) ++ replaced found lasting .none rest
    | .lowerOne, c :: more => (c.toLower :: more) ++ replaced found lasting .none rest
    | once, text => text ++ replaced found lasting once rest

/-- Replaces matches from a number on: the text and whether there was one. An empty match does not count
where the last one has ended. `fuel` bounds the number of matches. -/
def substitute (substitution : Substitution) :
    (fuel count : Nat) → (afterMatch : Bool) → Option Char → List Char → List Char × Bool
  | 0, _, _, _, text => (text, false)
  | fuel + 1, count, afterMatch, former, text =>
    match substitution.expression.search substitution.ignoring former text with
    | none => (text, false)
    | some found =>
      let counts := !(afterMatch && found.before.isEmpty && found.text.isEmpty)
      let wanted := counts && substitution.first ≤ count
      let shown := if wanted then replaced found .none .none substitution.parts else found.text
      let before := found.before ++ shown
      if wanted && !substitution.all then (before ++ found.rest, true)
      else
        let last := (found.text.getLast?).or ((found.before.getLast?).or former)
        let count := if counts then count + 1 else count
        match found.text, found.rest with
        | _, [] => (before, wanted)
        | [], c :: rest =>
          let (text, changed) := substitute substitution fuel count false (some c) rest
          (before ++ c :: text, wanted || changed)
        | _ :: _, rest =>
          let (text, changed) := substitute substitution fuel count true last rest
          (before ++ text, wanted || changed)

/-- Takes the next line, if there is one. -/
def advance (editor : Editor) : Option (String × Editor) :=
  match editor.rest with
  | [] => none
  | text :: rest => some (text, { editor with rest, line := editor.line + 1 })

/-- Writes what was kept for the end of the line. -/
def flush (editor : Editor) : Editor := { editor.write editor.queue with queue := "" }

end Editor

/-- What follows a command. -/
inductive Turn
  /-- The command behind a number of others. -/
  | skip (count : Nat)
  /-- The end of the commands; the line is printed if that is on. -/
  | finish
  /-- The next line; nothing is printed. -/
  | drop
  /-- The first command again, with the text that is left. -/
  | again
  | jump (label : String)

def firstLine (text : String) : List Char := text.toList.takeWhile (· ≠ '\n')

/-- Runs one command. -/
def perform (quiet : Bool) (contents : String → Option String) (guard : Guard) (editor : Editor) :
    Action → Editor × Turn
  | .substitute substitution =>
    let (text, changed) := Editor.substitute substitution (2 * editor.text.length + 2) 1 false none
      editor.text.toList
    let editor := { editor with
      text := String.ofList text
      changed := editor.changed || changed }
    (if changed && substitution.prints then editor.writeLine editor.text else editor, .skip 0)
  | .exchange pairs =>
    let change (c : Char) : Char := ((pairs.find? fun pair => pair.1 = c).map Prod.snd).getD c
    ({ editor with text := String.ofList (editor.text.toList.map change) }, .skip 0)
  | .delete => (editor, .drop)
  | .deleteFirst =>
    let first := firstLine editor.text
    if first.length = editor.text.length then (editor, .drop)
    else
      ({ editor with text := String.ofList (editor.text.toList.drop (first.length + 1)) }, .again)
  | .print => (editor.writeLine editor.text, .skip 0)
  | .printFirst => (editor.write (String.ofList (firstLine editor.text) ++ "\n"), .skip 0)
  | .number => (editor.write (Text.number editor.line ++ "\n"), .skip 0)
  | .next =>
    if editor.isLast then ({ editor with ended := some 0 }, .finish)
    else
      let editor := (if quiet then editor else editor.writeLine editor.text).flush
      match editor.advance with
      | some (text, editor) => ({ editor with text }, .skip 0)
      | none => (editor, .finish)
  | .appendNext =>
    match editor.flush.advance with
    | some (text, next) => ({ next with text := editor.text ++ "\n" ++ text }, .skip 0)
    | none => ({ editor with ended := some 0 }, .finish)
  | .hold false => ({ editor with held := editor.text }, .skip 0)
  | .hold true => ({ editor with held := editor.held ++ "\n" ++ editor.text }, .skip 0)
  | .fetch false => ({ editor with text := editor.held }, .skip 0)
  | .fetch true => ({ editor with text := editor.text ++ "\n" ++ editor.held }, .skip 0)
  | .swap => ({ editor with text := editor.held, held := editor.text }, .skip 0)
  | .append text => ({ editor with queue := editor.queue ++ text }, .skip 0)
  | .insert text => (editor.write text, .skip 0)
  | .change text =>
    let isOpen := editor.ranges.length > 0 && guard.second.isSome && !guard.negated
    (if isOpen then editor else editor.write text, .drop)
  | .readFile path =>
    ({ editor with queue := editor.queue ++ (contents path).getD "" }, .skip 0)
  | .quit status prints =>
    let editor := if prints && !quiet then editor.writeLine editor.text else editor
    ({ editor.flush with ended := some status }, .drop)
  | .branch label false => (editor, if label = "" then .finish else .jump label)
  | .branch label true =>
    if editor.changed then
      ({ editor with changed := false }, if label = "" then .finish else .jump label)
    else (editor, .skip 0)
  | .label _ | .opening _ | .closing => (editor, .skip 0)

/-- Runs commands from an index on; `fuel` bounds their number. -/
def runUpTo (quiet : Bool) (contents : String → Option String) (commands : Array Command) :
    (fuel index : Nat) → Editor → Editor × Bool
  | 0, _, editor => (editor, true)
  | fuel + 1, index, editor =>
    match commands[index]? with
    | none => (editor, true)
    | some command =>
      let (runs, editor) := editor.passes index command.guard
      if !runs then
        match command.action with
        | .opening length => runUpTo quiet contents commands fuel (index + 1 + length) editor
        | _ => runUpTo quiet contents commands fuel (index + 1) editor
      else
        match perform quiet contents command.guard editor command.action with
        | (editor, .skip count) =>
          runUpTo quiet contents commands fuel (index + 1 + count) editor
        | (editor, .finish) => (editor, true)
        | (editor, .drop) => (editor, false)
        | (editor, .again) => runUpTo quiet contents commands fuel 0 editor
        | (editor, .jump name) =>
          let target := commands.findIdx? fun command => match command.action with
            | .label other => other = name
            | _ => false
          runUpTo quiet contents commands fuel (target.getD commands.size) editor

/-- Goes through the lines that are left; `fuel` bounds their number. -/
def linesUpTo (quiet : Bool) (contents : String → Option String) (commands : Array Command) :
    (fuel : Nat) → Editor → Editor
  | 0, editor => editor
  | fuel + 1, editor =>
    if editor.ended.isSome then editor
    else match editor.advance with
      | none => editor
      | some (text, editor) =>
        let (editor, prints) :=
          runUpTo quiet contents commands 100000 0 { editor with text, changed := false }
        let editor := if prints && !quiet then editor.writeLine editor.text else editor
        linesUpTo quiet contents commands fuel editor.flush

/-- Edits a text: the output and the status, if the commands have ended early. -/
def edit (quiet : Bool) (contents : String → Option String) (commands : List Command)
    (text : String) : String × Option Nat :=
  let lines := linesOf text
  let isOpen := text ≠ "" && !text.endsWith "\n"
  let start : Editor := ⟨lines, 0, "", "", "", "", [], false, none, isOpen⟩
  let editor := linesUpTo quiet contents commands.toArray (lines.length + 1) start
  (editor.output, editor.ended)

/-- Edits files in their places. -/
def editFiles (quiet : Bool) (contents : String → Option String) (commands : List Command)
    (paths : List String) : Act Bool := do
  let mut good := true
  for path in paths do
    let state ← get
    match state.disk.find (State.pathOf path) with
    | .ok (place, .file _) =>
      let (output, _) := edit quiet contents commands ((state.contentAt? place).getD "")
      set (state.putContent place output)
    | .ok (_, .folder) =>
      good := false
      say "sed" ("couldn't edit " ++ path ++ ": not a regular file")
    | .error cause =>
      good := false
      say "sed" ("can't read " ++ path ++ ": " ++ osWords cause)
  return good

def sed (words : List String) : Act Nat := do
  -- The option to edit in place may have an ending of its own behind it.
  let words := words.map fun word => if word.startsWith "-i" then "-i" else word
  let options := Options.read ⟨"nErsiuz".toList, ['e', 'f'], [("quiet", 'n'), ("silent", 'n'),
    ("regexp-extended", 'E'), ("expression", 'e'), ("in-place", 'i')]⟩ words
  match options.fault with
  | some fault => failed "sed" 1 fault
  | none =>
    let fromFiles ← (options.values 'f').mapM fun path => do
      match ← contentOf path with
      | .ok text => pure (if text.endsWith "\n" then String.ofList text.toList.dropLast else text)
      | .error _ => pure ""
    let given := options.values 'e' ++ fromFiles
    let (scripts, paths) := if given.isEmpty then (options.operands.take 1, options.operands.drop 1)
      else (given, options.operands)
    if scripts.isEmpty then
      Act.write 2 "Usage: sed [OPTION]... \x7bscript-only-if-no-other-script\x7d [input-file]...\n"
      return 1
    match commandsOf (options.has 'E' || options.has 'r') ("\n".intercalate scripts) with
    | .error fault => failed "sed" 1 fault
    | .ok commands =>
      let state ← get
      let contents (path : String) : Option String :=
        match state.disk.find (State.pathOf path) with
        | .ok (place, _) => state.contentAt? place
        | .error _ => none
      if options.has 'i' then
        return if ← editFiles (options.has 'n') contents commands paths then 0 else 4
      let (found, good) ← inputs paths fun path why =>
        say "sed" (if why = "Is a directory" then "read error on " ++ path ++ ": " ++ why
          else "can't read " ++ path ++ ": " ++ why)
      let text := Lines.joined found
      let (output, status) := edit (options.has 'n') contents commands text
      Act.write 1 output
      match status with
      | some status => return status
      | none => return if good then 0 else 2

end LineEditor

/-- The line editor. -/
def editorProgram? (name : String) : Option Utility :=
  if name = "sed" then some LineEditor.sed else none

end SignalCatalog.Utilities
