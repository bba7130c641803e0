import SignalCatalog.Scripting.Shell.Evaluation

/-!
# Options and inputs of programs

Options are letters behind a dash, some with a value, or whole words behind two dashes; they may stand
anywhere among the other words, and two dashes alone end them. A program that reads takes the files it
is given, or its input if there are none.
-/

namespace SignalCatalog.Utilities

open Shell

/-- The words of a call, taken apart. -/
structure Options where
  /-- The letters found with their values, in order. -/
  found : List (Char × String)
  operands : List String
  /-- The complaint about an option that is not known. -/
  fault : Option String

/-- The options that a program knows. -/
structure Known where
  plain : List Char
  valued : List Char
  /-- The words that stand for letters. -/
  words : List (String × Char)

/-- A program whose options are letters only. -/
def Known.letters (plain valued : String) : Known := ⟨plain.toList, valued.toList, []⟩

namespace Options

def has (options : Options) (letter : Char) : Bool := options.found.any fun item => item.1 = letter

/-- The last value of an option. -/
def value? (options : Options) (letter : Char) : Option String :=
  (options.found.reverse.find? fun item => item.1 = letter).map Prod.snd

def values (options : Options) (letter : Char) : List String :=
  (options.found.filter fun item => item.1 = letter).map Prod.snd

def number? (options : Options) (letter : Char) : Option Nat :=
  (options.value? letter).bind fun text => Text.natural? text.toList

/-- The options of a word of letters, whether the last one takes the next word, and what is wrong. -/
def letters (known : Known) : List Char → List (Char × String) × Option Char × Option String
  | [] => ([], none, none)
  | c :: rest =>
    if known.valued.contains c then
      if rest.isEmpty then ([], some c, none) else ([(c, String.ofList rest)], none, none)
    else if known.plain.contains c then
      let (found, open?, fault) := letters known rest
      ((c, "") :: found, open?, fault)
    else ([], none, some ("invalid option -- '" ++ c.toString ++ "'"))

/-- Takes words apart; `fuel` bounds their number. -/
def readUpTo (known : Known) : (fuel : Nat) → List String → Options
  | 0, _ | _, [] => ⟨[], [], none⟩
  | fuel + 1, word :: rest =>
    let join (found : List (Char × String)) (rest : List String) : Options :=
      let others := readUpTo known fuel rest
      { others with found := found ++ others.found }
    if word = "--" then ⟨[], rest, none⟩
    else match Text.after? ['-', '-'] word.toList with
      | some name =>
        let (name, value) := match Text.cutAt? '=' name with
          | some (name, value) => (String.ofList name, some (String.ofList value))
          | none => (String.ofList name, none)
        match known.words.find? fun item => item.1 = name with
        | some (_, letter) =>
          match value, known.valued.contains letter, rest with
          | some value, _, _ => join [(letter, value)] rest
          | none, true, next :: rest => join [(letter, next)] rest
          | none, _, _ => join [(letter, "")] rest
        | none => ⟨[], [], some ("unrecognized option '--" ++ name ++ "'")⟩
      | none =>
        match word.toList with
        | '-' :: first :: more =>
          match letters known (first :: more), rest with
          | (_, _, some fault), _ => ⟨[], [], some fault⟩
          | (found, some letter, _), next :: rest => join (found ++ [(letter, next)]) rest
          | (_, some letter, _), [] =>
            ⟨[], [], some ("option requires an argument -- '" ++ letter.toString ++ "'")⟩
          | (found, none, _), rest => join found rest
        | _ =>
          let others := readUpTo known fuel rest
          { others with operands := word :: others.operands }

def read (known : Known) (words : List String) : Options := readUpTo known (words.length + 1) words

end Options

/-! ## Messages -/

/-- Writes a message of a program. -/
def say (name words : String) : Act PUnit := Act.write 2 (name ++ ": " ++ words ++ "\n")

/-- Writes a message of a program and gives a status. -/
def failed (name : String) (status : Nat) (words : String) : Act Nat := do
  say name words
  return status

/-- Goes on with the options of a program, unless they are wrong. -/
def withOptions (name : String) (status : Nat) (known : Known) (words : List String)
    (body : Options → Act Nat) : Act Nat := do
  let options := Options.read known words
  match options.fault with
  | some fault =>
    say name fault
    Act.write 2 ("Try '" ++ name ++ " --help' for more information.\n")
    return status
  | none => body options

def quoted (text : String) : String := "'" ++ text ++ "'"

/-! ## Commands -/

/-- Runs a command apart from the shell that is running. -/
def call (engine : Engine) (words : List String) : Act Nat := do
  let line := (← get).line
  Act.inSubshell engine
    (engine.run true (.simple line [] (words.map fun word => [.quoted word]) []))
  return (← get).status

/-! ## Inputs -/

/-- All that is left of the input. -/
def standardInput : Act String := do
  let state ← get
  match state.stream? 0 with
  | some index =>
    let text := state.unread index
    set (state.advance index text.length)
    return text
  | none => return ""

/-- The content of a file. -/
def contentOf (path : String) : Act (Except OsError String) := do
  let state ← get
  match (streamOfPath? path).bind state.stream? with
  | some index =>
    let text := state.unread index
    set (state.advance index text.length)
    return .ok text
  | none =>
    match state.disk.find (State.pathOf path) with
    | .ok (place, .file _) => return .ok ((state.contentAt? place).getD "")
    | .ok (_, .folder) => return .error .isDirectory
    | .error cause => return .error cause

/-- The texts of files, or of the input, with their names. A file that cannot be read is complained
about; the flag says whether all could be. -/
def inputs (paths : List String) (complaint : String → String → Act PUnit) :
    Act (List (String × String) × Bool) := do
  match paths with
  | [] => return ([("", ← standardInput)], true)
  | paths =>
    let mut found := []
    let mut allRead := true
    for path in paths do
      if path = "-" then found := (path, ← standardInput) :: found
      else match ← contentOf path with
        | .ok text => found := (path, text) :: found
        | .error cause =>
          complaint path (osWords cause)
          allRead := false
    return (found.reverse, allRead)

/-- As `inputs`, with the path and the cause in the complaint. -/
def plainInputs (name : String) (paths : List String) : Act (List (String × String) × Bool) :=
  inputs paths fun path words => say name (path ++ ": " ++ words)

/-- The lines of a text, each with its line break if it has one. -/
def rawLines (text : String) : List String :=
  let rec go : List Char → List Char → List String
    | [], [] => []
    | current, [] => [String.ofList current.reverse]
    | current, '\n' :: rest => String.ofList ('\n' :: current).reverse :: go [] rest
    | current, c :: rest => go (c :: current) rest
  go [] text.toList

/-- The lines of a text without their line breaks. -/
def linesOf (text : String) : List String :=
  (rawLines text).map fun line =>
    if line.endsWith "\n" then String.ofList line.toList.dropLast else line

def unlines (lines : List String) : String := String.join (lines.map (· ++ "\n"))

/-- The status of a program that may have failed. -/
def statusOf (good : Bool) : Nat := if good then 0 else 1

end SignalCatalog.Utilities
