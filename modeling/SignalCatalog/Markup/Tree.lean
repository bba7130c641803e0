import SignalCatalog.Json.Node
import SignalCatalog.Markup.Token

/-!
# Markup trees

`Node.ofTokens?` nests the tokens of a document into its outermost element. Every tag is closed by
one of the same name, references are replaced by their characters, line ends in texts become line
feeds, and blanks in attribute values become spaces. Neighbouring texts are one text; comments and
instructions stay in the tree, because they keep the texts around them apart.
-/

namespace SignalCatalog.Markup

open SignalCatalog.Text

inductive Node
  | element (name : Name) (attributes : List (Name × String)) (children : List Node)
  | text (text : String)
  | comment
  | instruction

/-- The five named characters. -/
def namedCharacter? (name : String) : Option Char :=
  if name == "quot" then some '"'
  else if name == "amp" then some '&'
  else if name == "apos" then some '\''
  else if name == "lt" then some '<'
  else if name == "gt" then some '>'
  else none

/-- A number in a base, up to 32 bits; one digit at least. -/
def digitsIn? (base : Nat) (run : List Char) : Option Nat :=
  if run.isEmpty then none
  else
    let value := run.foldl (fun n c => base * n + (Json.hexValue? c).getD 0) 0
    if value ≤ maxWord32 then some value else none

/-- The character with a number; a number that is none becomes the replacement character. -/
def characterOf? (n : Nat) : Option Char :=
  let c := if n.isValidChar then Char.ofNat n else Char.ofNat 0xFFFD
  if isAllowed c then some c else none

/-- A reference behind its ampersand. -/
def takeReference? (text : List Char) : Option (Char × List Char) :=
  match text with
  | '#' :: 'x' :: rest => do
    let run := rest.takeWhile fun c => (Json.hexValue? c).isSome
    let c ← (digitsIn? 16 run).bind characterOf?
    some (c, ← after? [';'] (rest.drop run.length))
  | '#' :: rest => do
    let run := rest.takeWhile Char.isDigit
    let c ← (digitsIn? 10 run).bind characterOf?
    some (c, ← after? [';'] (rest.drop run.length))
  | _ => do
    let run := text.takeWhile isNameChar
    let c ← namedCharacter? (String.ofList run)
    some (c, ← after? [';'] (text.drop run.length))

/-- Adds a character of a text to those before it, last first: a carriage return with or without a
line feed becomes a line feed. -/
def pushText (done : List Char) (c : Char) (last : Bool) : List Char :=
  match done with
  | '\r' :: before =>
    if last && c = '\r' then '\n' :: '\n' :: before
    else if c = '\n' then '\n' :: before
    else c :: '\n' :: before
  | _ => if last && c = '\r' then '\n' :: done else c :: done

/-- The characters of a literal text. -/
def literalText (done : List Char) : List Char → List Char
  | [] => done.reverse
  | c :: rest => literalText (pushText done c rest.isEmpty) rest

/-- The characters of a text with references. A character from a reference stands as it is, and so
does the one behind it. -/
def plainText? : (fuel : Nat) → (referred : Bool) → (done : List Char) → List Char →
    Option (List Char)
  | 0, _, _, _ => none
  | _ + 1, _, done, [] => some done.reverse
  | fuel + 1, _, done, '&' :: rest => do
    let (c, rest) ← takeReference? rest
    plainText? fuel true (c :: done) rest
  | fuel + 1, true, done, c :: rest => plainText? fuel false (c :: done) rest
  | fuel + 1, false, done, c :: rest => plainText? fuel false (pushText done c rest.isEmpty) rest

/-- The value of an attribute. -/
def attributeText? : (fuel : Nat) → (done : List Char) → List Char → Option (List Char)
  | 0, _, _ => none
  | _ + 1, done, [] => some done.reverse
  | fuel + 1, done, '&' :: rest => do
    let (c, rest) ← takeReference? rest
    attributeText? fuel (c :: done) rest
  | fuel + 1, done, c :: rest =>
    match c, rest with
    | '\r', '\n' :: _ => attributeText? fuel done rest
    | _, _ => attributeText? fuel ((if isSpace c then ' ' else c) :: done) rest

def attributes? : List (Name × List Char) → Option (List (Name × String))
  | [] => some []
  | (name, value) :: rest => do
    let value ← attributeText? (value.length + 1) [] value
    some ((name, String.ofList value) :: (← attributes? rest))

/-- An element that is open: what its tag says, and its children so far, last first. -/
structure OpenElement where
  name : Name
  attributes : List (Name × String)
  children : List Node

/-- Adds a child; a text joins a text before it. -/
def OpenElement.add (element : OpenElement) (child : Node) : OpenElement :=
  { element with children :=
    match child, element.children with
    | .text more, .text before :: rest => .text (before ++ more) :: rest
    | _, children => child :: children }

def OpenElement.close (element : OpenElement) : Node :=
  .element element.name element.attributes element.children.reverse

/-- Adds a child to the innermost open element; outside of all, an element becomes the root. -/
def addChild (root : Option Node) (stack : List OpenElement) (child : Node) :
    Option Node × List OpenElement :=
  match stack, child with
  | [], .element .. => (some child, [])
  | [], _ => (root, [])
  | top :: rest, _ => (root, top.add child :: rest)

/-- Nests tokens, given the root and the open elements so far. -/
def nest? (root : Option Node) (stack : List OpenElement) : List Token → Option Node
  | [] => if stack.isEmpty then root else none
  | token :: tokens =>
    match token with
    | .openTag name attributes closed => do
      let element : OpenElement := ⟨name, ← attributes? attributes, []⟩
      if closed then
        let (root, stack) := addChild root stack element.close
        nest? root stack tokens
      else nest? root (element :: stack) tokens
    | .closeTag name =>
      match stack with
      | top :: rest =>
        if top.name = name then
          let (root, stack) := addChild root rest top.close
          nest? root stack tokens
        else none
      | [] => none
    | .text chars => do
      let chars ← plainText? (chars.length + 1) false [] chars
      let (root, stack) := addChild root stack (.text (String.ofList chars))
      nest? root stack tokens
    | .cdata chars =>
      let (root, stack) := addChild root stack (.text (String.ofList (literalText [] chars)))
      nest? root stack tokens
    | .comment =>
      let (root, stack) := addChild root stack .comment
      nest? root stack tokens
    | .instruction =>
      let (root, stack) := addChild root stack .instruction
      nest? root stack tokens

/-- The outermost element of a document. -/
def Node.read? (document : String) : Option Node := (Token.scan document).bind (nest? none [])

end SignalCatalog.Markup
