/-!
# Commands of a shell

A script is a list of commands, and a word of a command a list of pieces that says what was quoted and
what is to be put in: the value of a parameter, the output of commands or the value of a sum. Texts are
octets.
-/

namespace SignalCatalog.Shell

/-- What is done with the value of a parameter. -/
inductive Use
  | value
  | length
  /-- Another word stands in for a value that is missing. -/
  | orElse
  /-- As `orElse`, and the word becomes the value. -/
  | assign
  /-- A value that is missing is an error. -/
  | demand
  /-- A word stands in for a value that is there. -/
  | instead
  /-- Without what matches at its start. -/
  | dropStart (longest : Bool)
  /-- Without what matches at its end. -/
  | dropEnd (longest : Bool)
  /-- What the shell does not know. -/
  | unknown
deriving DecidableEq

/-- How a file is opened. -/
inductive OpenMode
  | read
  | write
  /-- As `write`, even where files are kept from being overwritten. -/
  | overwrite
  | append
  | both
deriving DecidableEq

mutual

inductive Piece
  | text (text : String)
  | quoted (text : String)
  /-- The value of a parameter. With `unlessEmpty` an empty value counts as missing. -/
  | parameter (quoted : Bool) (name : String) (use : Use) (unlessEmpty : Bool) (word : List Piece)
  /-- What a command writes. -/
  | output (quoted : Bool) (command : Command)
  | sum (quoted : Bool) (word : List Piece)

inductive Redirection
  | file (stream : Nat) (mode : OpenMode) (path : List Piece)
  | copy (stream : Nat) (source : List Piece)
  /-- A document that stands behind the line of the command. -/
  | document (stream index : Nat)

inductive Command
  | nothing
  | simple (line : Nat) (assignments : List (String × List Piece)) (words : List (List Piece))
      (redirections : List Redirection)
  | negated (command : Command)
  | pipeline (commands : List Command)
  | background (command : Command)
  | both (first second : Command)
  | either (first second : Command)
  | sequence (first second : Command)
  | subshell (line : Nat) (body : Command) (redirections : List Redirection)
  | redirected (line : Nat) (body : Command) (redirections : List Redirection)
  | choice (condition body otherwise : Command)
  | loop (whileTrue : Bool) (condition body : Command)
  | each (line : Nat) (name : String) (words : List (List Piece)) (body : Command)
  | cases (line : Nat) (word : List Piece) (arms : List (List (List Piece) × Command))
  | function (line : Nat) (name : String) (body : Command)

end

abbrev Word := List Piece

instance : Inhabited Command := ⟨.nothing⟩

/-- The commands one after another; nothing in front is left out. -/
def Command.followedBy : Command → Command → Command
  | nothing, second => second
  | first, second => sequence first second

/-- All arguments, each a word of its own. -/
def Word.allArguments : Word := [.parameter true "@" .value false []]

/-- The text of a word without quotes and without anything to put in. -/
def Word.plain? : Word → Option String
  | [] => some ""
  | .text text :: rest => (plain? rest).map (text ++ ·)
  | _ => none

/-- The text of a word with its quotes taken away; what would be put in is left out. -/
def Word.unquoted : Word → String
  | [] => ""
  | .text text :: rest | .quoted text :: rest => text ++ unquoted rest
  | _ :: rest => unquoted rest

/-- Whether some piece was quoted. -/
def Word.hasQuotes (word : Word) : Bool :=
  word.any fun piece => match piece with
    | .quoted _ => true
    | _ => false

end SignalCatalog.Shell
