import SignalCatalog.Scripting.Utilities.Expression
import SignalCatalog.Scripting.Utilities.Lines

/-!
# Programs that search

Lines that match expressions are searched for, and words are worked out as sums, comparisons and
matches.
-/

namespace SignalCatalog.Utilities

open Shell

namespace Search

/-! ## Lines that match -/

/-- What lines are searched for. -/
structure Query where
  expressions : List Expression
  ignoring : Bool
  wholeLines : Bool
  wholeWords : Bool
  negated : Bool

/-- Whether a match is a word of its own. -/
def isWord (former : Option Char) (found : Expression.Found) : Bool :=
  let before := (found.before.getLast?).or former
  !(before.any Expression.Spot.isInWord) && !(found.rest.head?.any Expression.Spot.isInWord)

/-- The first match of a query in a text behind a character; `fuel` bounds the tries. -/
def Query.first? (query : Query) : (fuel : Nat) → Option Char → List Char → Option Expression.Found
  | 0, _, _ => none
  | fuel + 1, former, text =>
    let found := query.expressions.filterMap fun expression =>
      expression.search query.ignoring former text
    let best := found.foldl (fun best next =>
      match best with
      | none => some next
      | some (other : Expression.Found) =>
        if next.before.length < other.before.length ||
          (next.before.length = other.before.length && other.text.length < next.text.length) then
          some next
        else best) none
    match best with
    | none => none
    | some match_ =>
      if query.wholeLines then
        if former.isNone && match_.before.isEmpty && match_.rest.isEmpty then some match_ else none
      else if query.wholeWords && !isWord former match_ then
        match text.drop match_.before.length with
        | [] => none
        | c :: rest =>
          (query.first? fuel (some c) rest).map fun found =>
            { found with before := match_.before ++ c :: found.before }
      else some match_

def Query.first (query : Query) (former : Option Char) (text : List Char) :
    Option Expression.Found :=
  query.first? (text.length + 1) former text

def Query.accepts (query : Query) (line : String) : Bool :=
  (query.first none line.toList).isSome != query.negated

/-- All matches in a text that are not empty; `fuel` bounds their number. -/
def Query.allUpTo (query : Query) : (fuel : Nat) → Option Char → List Char → List String
  | 0, _, _ => []
  | fuel + 1, former, text =>
    match query.first former text with
    | none => []
    | some found =>
      match found.text.getLast?, found.rest with
      | some c, rest => String.ofList found.text :: query.allUpTo fuel (some c) rest
      | none, c :: rest => query.allUpTo fuel (some c) rest
      | none, [] => []

/-- Which lines are shown around those that match. -/
def around (before after : Nat) (found : List Nat) (index : Nat) : Bool :=
  found.any fun hit => (hit ≤ index && index ≤ hit + after) || (index ≤ hit && hit ≤ index + before)

/-- The expression of a pattern, which for whole lines has the ends of the line around it. -/
def expressionOf (options : Options) (extended literal : Bool) (text : String) :
    Except String Expression := do
  let expression ← if literal then .ok (Expression.literally text)
    else Expression.ofText extended text
  return if options.has 'x' then .both .start (.both expression .stop) else expression

def grepOptions : Known :=
  ⟨"qvicnlLoEFGwxshHrRaUP".toList, "efmABC".toList,
    [("quiet", 'q'), ("silent", 'q'), ("invert-match", 'v'), ("ignore-case", 'i'), ("count", 'c'),
      ("line-number", 'n'), ("files-with-matches", 'l'), ("only-matching", 'o'), ("fixed-strings", 'F'),
      ("extended-regexp", 'E'), ("word-regexp", 'w'), ("line-regexp", 'x'), ("no-messages", 's'),
      ("regexp", 'e'), ("max-count", 'm'), ("recursive", 'r'), ("no-filename", 'h')]⟩

/-- The files of a tree, with their paths. -/
def filesBelow (path : String) : Act (List String) := do
  let disk := (← get).disk
  match disk.find (State.pathOf path) with
  | .ok (place, .folder) =>
    let below := (disk.entries.filter fun item =>
      place.isPrefixOf item.1 && !item.2.isFolder).map fun item =>
        "/".intercalate (item.1.drop place.length)
    return (below.mergeSort fun a b => decide (a ≤ b)).map fun name =>
      (if path.endsWith "/" then path else path ++ "/") ++ Text.Octets.ofText name
  | _ => return [path]

/-- Searches one input and tells whether there was a match. -/
def grepIn (name : String) (options : Options) (query : Query) (path text : String) (named : Bool) :
    Act Bool := do
  let lines := linesOf text
  let numbered := lines.zip (List.range lines.length)
  let hits := numbered.filter fun item => query.accepts item.1
  let hits := match options.number? 'm' with
    | some most => hits.take most
    | none => hits
  let shown := if path = "-" then "(standard input)" else path
  let lead (separator : String) : String := if named then shown ++ separator else ""
  if options.has 'q' then return !hits.isEmpty
  if options.has 'l' then
    if !hits.isEmpty then Act.write 1 (shown ++ "\n")
    return !hits.isEmpty
  if options.has 'L' then
    if hits.isEmpty then Act.write 1 (shown ++ "\n")
    return !hits.isEmpty
  if options.has 'c' then
    Act.write 1 (lead ":" ++ Text.number hits.length ++ "\n")
    return !hits.isEmpty
  if !hits.isEmpty && !options.has 'a' && text.contains (Char.ofNat 0) then
    say name (shown ++ ": binary file matches")
    return true
  let context := (options.number? 'C').getD 0
  let before := (options.number? 'B').getD context
  let after := (options.number? 'A').getD context
  let number (separator : String) (index : Nat) : String :=
    if options.has 'n' then Text.number (index + 1) ++ separator else ""
  if options.has 'o' then
    if !query.negated then
      for (line, index) in hits do
        for found in query.allUpTo (line.length + 1) none line.toList do
          Act.write 1 (lead ":" ++ number ":" index ++ found ++ "\n")
  else
    let found := hits.map Prod.snd
    let mut former : Option Nat := none
    for (line, index) in numbered do
      if around before after found index then
        if before + after > 0 && (former.any fun other => other + 1 < index) then Act.write 1 "--\n"
        former := some index
        let separator := if found.contains index then ":" else "-"
        Act.write 1 (lead separator ++ number separator index ++ line ++ "\n")
  return !hits.isEmpty

def grepAs (name : String) (extended literal : Bool) (words : List String) : Act Nat := do
  let options := Options.read grepOptions words
  match options.fault with
  | some fault =>
    say name fault
    Act.write 2 ("Usage: " ++ name ++ " [OPTION]... PATTERNS [FILE]...\nTry '" ++ name ++
      " --help' for more information.\n")
    return 2
  | none =>
    let given := options.values 'e'
    let fromFiles ← (options.values 'f').mapM fun path => do
      match ← contentOf path with
      | .ok text => pure (linesOf text)
      | .error _ => pure []
    let (patterns, paths) := if given.isEmpty && (options.values 'f').isEmpty then
        (options.operands.take 1, options.operands.drop 1)
      else (given, options.operands)
    if patterns.isEmpty && (options.values 'f').isEmpty then
      Act.write 2 ("Usage: " ++ name ++ " [OPTION]... PATTERNS [FILE]...\nTry '" ++ name ++
        " --help' for more information.\n")
      return 2
    let texts := (patterns.flatMap fun text => (Text.pieces '\n' text.toList).map String.ofList) ++
      fromFiles.flatten
    let extended := options.has 'E' || options.has 'P' || (extended && !options.has 'G')
    match texts.mapM (expressionOf options extended (literal || options.has 'F')) with
    | .error fault => failed name 2 fault
    | .ok expressions =>
      let query : Query :=
        ⟨expressions, options.has 'i', options.has 'x', options.has 'w', options.has 'v'⟩
      let deep := options.has 'r' || options.has 'R'
      let paths ← if deep then do
          pure (← (if paths.isEmpty then ["."] else paths).mapM filesBelow).flatten
        else pure paths
      let named := (options.has 'H' || deep || paths.length > 1) && !options.has 'h'
      let mut good := true
      let mut hit := false
      for path in if paths.isEmpty then ["-"] else paths do
        match ← if path = "-" then do pure (.ok (← standardInput)) else contentOf path with
        | .error cause =>
          good := false
          if !options.has 's' then say name (path ++ ": " ++ osWords cause)
        | .ok text => if ← grepIn name options query path text named then hit := true
      if hit && (good || options.has 'q') then return 0
      return if good then 1 else 2

/-! ## Sums, comparisons and matches of words -/

/-- Reads the words of a part: its value and the words behind it. -/
abbrev Read := List String → Except (Nat × String) (String × List String)

def isNothing (text : String) : Bool := text = "" || Lines.integer? text = some 0

def number (text : String) : Except (Nat × String) Int :=
  match Lines.integer? text with
  | some n => .ok n
  | none => .error (2, "non-integer argument")

/-- The value of a match from the start of a text: its first group, or else its length. -/
def matchOf (text pattern : String) : Except (Nat × String) String := do
  match Expression.ofText false pattern with
  | .error fault => .error (2, fault)
  | .ok expression =>
    let hasGroup := (Text.cutAt? '(' pattern.toList).any fun pair => pair.1.getLast? = some '\\'
    match Expression.longest? false expression ⟨none, text.toList, []⟩ with
    | none => return if hasGroup then "" else "0"
    | some spot =>
      match spot.groups.find? fun item => item.1 = 1 with
      | some (_, found) => return String.ofList found
      | none => return if hasGroup then "" else Text.number (text.length - spot.rest.length)

def unexpected (word : String) : Nat × String :=
  (2, "syntax error: unexpected argument " ++ quoted word)

def missingAfter (word : String) : Nat × String :=
  (2, "syntax error: missing argument after " ++ quoted word)

/-- Reads a single value. -/
def primary (whole : Read) : Read
  | [] => .error (2, "syntax error")
  | "(" :: rest => do
    match ← whole rest with
    | (value, ")" :: rest) => return (value, rest)
    | (_, word :: _) => .error (2, "syntax error: expecting ')' instead of " ++ quoted word)
    | (_, []) => .error (2, "syntax error: expecting ')' after " ++ quoted (rest.getLast?.getD "("))
  | ")" :: _ => .error (2, "syntax error: unexpected ')'")
  | "+" :: word :: rest => return (word, rest)
  | ["+"] => .error (missingAfter "+")
  | word :: rest => return (word, rest)

/-- Reads a value, or a call of one of the named operations. -/
def operation (whole : Read) : (fuel : Nat) → Read
  | 0 => primary whole
  | fuel + 1 => fun words => do
    let next := operation whole fuel
    match words with
    | ["length"] | ["match"] | ["index"] | ["substr"] => .error (missingAfter (words.headD ""))
    | "length" :: rest =>
      let (text, rest) ← next rest
      return (Text.number text.length, rest)
    | "match" :: rest =>
      let (text, rest) ← next rest
      let (pattern, rest) ← next rest
      return (← matchOf text pattern, rest)
    | "index" :: rest =>
      let (text, rest) ← next rest
      let (chars, rest) ← next rest
      let before := text.toList.takeWhile fun c => !chars.contains c
      return (Text.number (if before.length = text.length then 0 else before.length + 1), rest)
    | "substr" :: rest =>
      let (text, rest) ← next rest
      let (start, rest) ← next rest
      let (length, rest) ← next rest
      match Lines.integer? start, Lines.integer? length with
      | some start, some length =>
        if start ≤ 0 || length ≤ 0 then return ("", rest)
        else
          return (String.ofList ((text.toList.drop (start.toNat - 1)).take length.toNat), rest)
      | _, _ => return ("", rest)
    | words => primary whole words

/-- Works out one operator. -/
def apply (operator a b : String) : Except (Nat × String) String := do
  let truth (holds : Bool) : String := if holds then "1" else "0"
  let order (holds : Ordering → Bool) : String :=
    match Lines.integer? a, Lines.integer? b with
    | some x, some y => truth (holds (compare x y))
    | _, _ => truth (holds (compare a b))
  match operator with
  | "|" => return if isNothing a then (if isNothing b then "0" else b) else a
  | "&" => return if isNothing a || isNothing b then "0" else a
  | "<" => return order fun found => found = .lt
  | "<=" => return order fun found => found ≠ .gt
  | "=" | "==" => return order fun found => found = .eq
  | "!=" => return order fun found => found ≠ .eq
  | ">=" => return order fun found => found ≠ .lt
  | ">" => return order fun found => found = .gt
  | "+" => return Text.integer ((← number a) + (← number b))
  | "-" => return Text.integer ((← number a) - (← number b))
  | "*" => return Text.integer ((← number a) * (← number b))
  | ":" => matchOf a b
  | operator =>
    let x ← number a
    let y ← number b
    if y = 0 then .error (2, "division by zero")
    else return Text.integer (if operator = "/" then x.tdiv y else x.tmod y)

/-- Reads operators of one level from left to right; `fuel` bounds their number. -/
def goOn (operators : List String) (next : Read) : (fuel : Nat) → String → Read
  | 0, value, words => .ok (value, words)
  | fuel + 1, value, words => do
    match words with
    | operator :: rest =>
      if operators.contains operator then
        if rest.isEmpty then .error (missingAfter operator)
        let (other, rest) ← next rest
        goOn operators next fuel (← apply operator value other) rest
      else return (value, words)
    | [] => return (value, [])

def level (operators : List String) (next : Read) : Read := fun words => do
  let (value, rest) ← next words
  goOn operators next rest.length value rest

def levels : List (List String) :=
  [["|"], ["&"], ["<", "<=", "=", "==", "!=", ">=", ">"], ["+", "-"], ["*", "/", "%"], [":"]]

/-- Works out words; `fuel` bounds how deep parentheses are nested. -/
def evaluate : (fuel : Nat) → Read
  | 0 => fun _ => .error (2, "syntax error")
  | fuel + 1 => levels.foldr level (fun words => operation (evaluate fuel) words.length words)

def expr (words : List String) : Act Nat := do
  let words := if words.head? = some "--" then words.drop 1 else words
  if words.isEmpty then
    say "expr" "missing operand"
    Act.write 2 "Try 'expr --help' for more information.\n"
    return 2
  match evaluate (words.length + 1) words with
  | .error (status, fault) => failed "expr" status fault
  | .ok (_, word :: _) => failed "expr" 2 (unexpected word).2
  | .ok (value, []) =>
    Act.write 1 (value ++ "\n")
    return if isNothing value then 1 else 0

end Search

/-- The programs that search. -/
def searchProgram? (name : String) : Option Utility :=
  match name with
  | "grep" => some (Search.grepAs "grep" false false)
  | "egrep" => some (Search.grepAs "grep" true false)
  | "fgrep" => some (Search.grepAs "grep" false true)
  | "expr" => some Search.expr
  | _ => none

end SignalCatalog.Utilities
