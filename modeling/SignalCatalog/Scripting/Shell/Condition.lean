import SignalCatalog.Scripting.Shell.Opening

/-!
# Conditions

The conditions of the utility for tests: of files, texts and numbers, with negation, connectives and
brackets. A word is an operator only where it cannot be an operand.
-/

namespace SignalCatalog.Shell.Condition

/-- The truth of a condition and the words behind it, or what is wrong with it. -/
abbrev Read := List String → Except String (Bool × List String)

def unaryOperators : List String :=
  ["-b", "-c", "-d", "-e", "-f", "-g", "-G", "-h", "-k", "-L", "-n", "-O", "-p", "-r", "-s", "-S",
    "-t", "-u", "-w", "-x", "-z"]

def binaryOperators : List String :=
  ["=", "!=", "<", ">", "-eq", "-ne", "-gt", "-ge", "-lt", "-le", "-nt", "-ot", "-ef"]

/-- The role of an operator word. -/
inductive Role
  | unary
  | binary
  | other
deriving DecidableEq

def role? (word : String) : Option Role :=
  if unaryOperators.contains word then some .unary
  else if binaryOperators.contains word then some .binary
  else if ["!", "-a", "-o", "(", ")"].contains word then some .other
  else none

/-- Whether an operator word with one part is an operand because of the words behind it. -/
def isOperand : List String → Bool
  | [] => true
  | [_] => false
  | next :: after :: _ => role? next = some .binary && after ≠ ")"

/-- The role of the first of some words, if it is an operator there. -/
def roleAt : List String → Option Role
  | [] => none
  | word :: rest =>
    match role? word with
    | some .unary => if isOperand rest then none else some .unary
    | some .other => if word = "(" && rest.isEmpty then none else some .other
    | role => role

def isSpace (c : Char) : Bool := c = ' ' || (9 ≤ c.toNat && c.toNat ≤ 13)

/-- The number of 64 bits that a word is. -/
def number (word : String) : Except String Int :=
  let body := word.toList.dropWhile isSpace
  let (negative, body) := match body with
    | '-' :: rest => (true, rest)
    | '+' :: rest => (false, rest)
    | rest => (false, rest)
  let run := body.takeWhile Char.isDigit
  let n : Int := Text.valueOf run
  let value := if negative then -n else n
  if run.isEmpty || !(body.drop run.length).all isSpace || value < -9223372036854775808 ||
      9223372036854775807 < value then .error ("Illegal number: " ++ word)
  else .ok value

def compare (operator : String) (a b : String) : Except String Bool := do
  let a ← number a
  let b ← number b
  return match operator with
    | "-eq" => a = b
    | "-ne" => a ≠ b
    | "-gt" => a > b
    | "-ge" => a ≥ b
    | "-lt" => a < b
    | _ => a ≤ b

section

variable (state : State)

def find (path : String) : Option (Place × Entry) := (state.disk.find (pathOf path)).toOption
where
  pathOf := State.pathOf

def isFile (path : String) : Bool :=
  match find state path with
  | some (_, .file _) => true
  | _ => false

def isFolder (path : String) : Bool :=
  match find state path with
  | some (_, .folder) => true
  | _ => false

/-- A test of one word. -/
def unary (operator word : String) : Except String Bool :=
  match operator with
  | "-z" => .ok word.isEmpty
  | "-n" => .ok (!word.isEmpty)
  | "-f" => .ok (isFile state word)
  | "-d" => .ok (isFolder state word)
  | "-e" | "-r" | "-w" | "-O" | "-G" => .ok (find state word).isSome
  | "-s" =>
    .ok (match find state word with
      | some (place, .file _) => (state.contentAt? place).any fun text => !text.isEmpty
      | some _ => true
      | none => false)
  | "-x" =>
    .ok (match find state word with
      | some (place, .file _) => state.runnable.contains place
      | some _ => true
      | none => false)
  | "-c" =>
    .ok (match find state word with
      | some (place, _) => state.disk.loses place
      | none => false)
  | "-t" => (number word).map fun _ => false
  | _ => .ok false

/-- A test of two words. -/
def binary (operator first second : String) : Except String Bool :=
  match operator with
  | "=" => .ok (first = second)
  | "!=" => .ok (first ≠ second)
  | "<" => .ok (first < second)
  | ">" => .ok (second < first)
  | "-ef" =>
    .ok (match find state first, find state second with
      | some (place, _), some (other, _) => place = other
      | _, _ => false)
  | "-nt" => .ok ((find state first).isSome && (find state second).isNone)
  | "-ot" => .ok ((find state first).isNone && (find state second).isSome)
  | operator => compare operator first second

/-- A condition without connectives, given how one in brackets is read. -/
def primary (whole : Read) : Read
  | [] => .ok (false, [])
  | word :: rest =>
    match word, roleAt (word :: rest), rest with
    | "(", some .other, ")" :: _ => .ok (false, rest)
    | "(", some .other, _ =>
      match whole rest with
      | .ok (value, ")" :: rest) => .ok (value, rest)
      | .ok _ => .error "closing paren expected"
      | .error words => .error words
    | _, some .unary, operand :: rest => (unary state word operand).map fun value => (value, rest)
    | _, some .unary, [] => .error (word ++ ": argument expected")
    | _, _, operator :: second :: rest =>
      if roleAt (operator :: second :: rest) = some .binary then
        (binary state operator word second).map fun value => (value, rest)
      else .ok (!word.isEmpty, operator :: second :: rest)
    | _, _, [operator] =>
      if roleAt [operator] = some .binary then .error (operator ++ ": argument expected")
      else .ok (!word.isEmpty, [operator])
    | _, _, [] => .ok (!word.isEmpty, [])

mutual

/-- A condition with its negations; `fuel` bounds how deep conditions are nested. -/
def negation : (fuel : Nat) → Read
  | 0, words => .ok (false, words)
  | fuel + 1, words =>
    match words, roleAt words with
    | "!" :: rest, some .other =>
      (negation fuel rest).map fun (value, rest) => (!value, rest)
    | words, _ => primary state (disjunction fuel) words

def conjunction : (fuel : Nat) → Read
  | 0, words => .ok (false, words)
  | fuel + 1, words =>
    match negation fuel words with
    | .ok (first, "-a" :: rest) =>
      (conjunction fuel rest).map fun (second, rest) => (first && second, rest)
    | result => result

def disjunction : (fuel : Nat) → Read
  | 0, words => .ok (false, words)
  | fuel + 1, words =>
    match conjunction fuel words with
    | .ok (first, "-o" :: rest) =>
      (disjunction fuel rest).map fun (second, rest) => (first || second, rest)
    | result => result

end

/-- A condition that all the words make. -/
def whole (words : List String) : Except String Bool :=
  match disjunction state (3 * words.length + 6) words with
  | .error words => .error words
  | .ok (value, []) => .ok value
  | .ok (_, rest) =>
    let last := words[words.length - rest.length - 1]?.getD ""
    .error (last ++ ": unexpected operator")

/-- The truth of the words of a test; the rules for few words come first. -/
def holds : List String → Except String Bool
  | [] => .ok false
  | "!" :: rest =>
    match rest with
    | [second, third] =>
      if role? second = some .binary then whole state ["!", second, third]
      else (whole state rest).map not
    | [_, _, _] => (holds rest).map not
    | rest => whole state ("!" :: rest)
  | ["(", second, third] =>
    if role? second ≠ some .binary && third = ")" then whole state [second]
    else whole state ["(", second, third]
  | ["(", second, third, ")"] => whole state [second, third]
  | words => whole state words

end

end SignalCatalog.Shell.Condition
