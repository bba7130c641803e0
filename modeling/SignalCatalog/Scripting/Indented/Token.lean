import SignalCatalog.Binary64.Reading
import SignalCatalog.Text.Blank
import SignalCatalog.Text.Numeral
import SignalCatalog.Text.Octets

/-!
# Words of indented scripts

The blocks of an indented script are told apart by the blanks at the starts of their lines. Here a
script becomes words, with words of their own for the ends of lines and for where blocks start and end.
Lines within brackets belong together.
-/

namespace SignalCatalog.Indented

inductive Token
  | name (name : String)
  | sign (sign : String)
  | whole (n : Nat)
  | fraction (x : Binary64)
  | text (text : String)
  | octets (octets : String)
  /-- A text with expressions in braces. -/
  | formatted (raw : Bool) (body : List Char)
  | lineEnd
  | indent
  | dedent
  | ended
deriving DecidableEq

/-- The line of what cannot be read, and what is wrong with it. -/
structure Misreading where
  line : Nat
  words : String

/-- The signs, longer ones before those that they start with. -/
def signs : List String :=
  ["**=", "//=", ">>=", "<<=", "...", "!=", "<=", ">=", "==", "->", ":=", "+=", "-=", "*=", "/=", "%=",
    "&=", "|=", "^=", "@=", "**", "//", "<<", ">>", "+", "-", "*", "/", "%", "@", "&", "|", "^", "~",
    "<", ">", "(", ")", "[", "]", "\x7b", "\x7d", ",", ":", ".", ";", "="]

def isNameStart (c : Char) : Bool := c.isAlpha || c = '_' || c.toNat ≥ 128

def isNameChar (c : Char) : Bool := isNameStart c || c.isDigit

namespace Reading

/-! ## Texts -/

/-- The value of a digit in a base. -/
def digit? (base : Nat) (c : Char) : Option Nat :=
  let value := if c.isDigit then c.toNat - 48
    else if 'a' ≤ c && c ≤ 'f' then c.toNat - 87
    else if 'A' ≤ c && c ≤ 'F' then c.toNat - 55
    else 99
  if value < base then some value else none

/-- The number that up to some digits make, and what is behind them. -/
def takeDigits (base limit : Nat) (text : List Char) : Nat × List Char :=
  let run := (text.take limit).takeWhile fun c => (digit? base c).isSome
  (run.foldl (fun value c => base * value + (digit? base c).getD 0) 0, text.drop run.length)

/-- Reads escapes with a backslash; `fuel` bounds the length of the text. -/
def unescape (bytes : Bool) : (fuel : Nat) → List Char → List Char
  | 0, _ | _, [] => []
  | fuel + 1, '\\' :: c :: rest =>
    let plain (found : Char) : List Char := found :: unescape bytes fuel rest
    let coded (base limit : Nat) (text : List Char) : List Char :=
      let (value, rest) := takeDigits base limit text
      Char.ofNat value :: unescape bytes fuel rest
    match c with
    | '\n' => unescape bytes fuel rest
    | '\\' | '\'' | '"' => plain c
    | 'a' => plain (Char.ofNat 7)
    | 'b' => plain (Char.ofNat 8)
    | 'f' => plain (Char.ofNat 12)
    | 'n' => plain '\n'
    | 'r' => plain '\r'
    | 't' => plain '\t'
    | 'v' => plain (Char.ofNat 11)
    | 'x' => coded 16 2 rest
    | c =>
      if c = 'u' && !bytes then coded 16 4 rest
      else if c = 'U' && !bytes then coded 16 8 rest
      else if (digit? 8 c).isSome then coded 8 3 (c :: rest)
      else '\\' :: c :: unescape bytes fuel rest
  | fuel + 1, c :: rest => c :: unescape bytes fuel rest

/-- The letters before a text and its quote, and what is behind them. -/
def textStart? (text : List Char) : Option (List Char × Char × List Char) :=
  let letters := (text.takeWhile Char.isAlpha).map Char.toLower
  match text.drop letters.length with
  | quote :: rest =>
    if (quote = '"' || quote = '\'') &&
      [[], ['r'], ['u'], ['b'], ['f'], ['b', 'r'], ['r', 'b'], ['f', 'r'], ['r', 'f']].contains letters
    then some (letters, quote, rest) else none
  | [] => none

/-- The body of a text up to its closing quotes, and what is behind them. -/
def bodyOf (quotes : List Char) : List Char → Option (List Char × List Char)
  | [] => none
  | c :: rest =>
    match Text.after? quotes (c :: rest) with
    | some behind => some ([], behind)
    | none =>
      match c, rest with
      | '\\', next :: more => (bodyOf quotes more).map fun (body, rest) => ('\\' :: next :: body, rest)
      | '\n', rest =>
        if quotes.length = 1 then none
        else (bodyOf quotes rest).map fun (body, rest) => ('\n' :: body, rest)
      | c, rest => (bodyOf quotes rest).map fun (body, rest) => (c :: body, rest)

/-- The token of a text. -/
def ofText (letters body : List Char) : Token :=
  let raw := letters.contains 'r'
  if letters.contains 'f' then .formatted raw body
  else if letters.contains 'b' then
    .octets (String.ofList (if raw then body else unescape true (body.length + 1) body))
  else .text (String.ofList (if raw then body else unescape false (body.length + 1) body))

/-! ## Numbers -/

/-- A number at the start of a text, and what is behind it. -/
def number? (text : List Char) : Option (Token × List Char) :=
  let plain := fun (run : List Char) => run.filter fun c => c ≠ '_'
  let based (base : Nat) (rest : List Char) : Option (Token × List Char) :=
    let run := rest.takeWhile fun c => (digit? base c).isSome || c = '_'
    some (.whole (takeDigits base run.length (plain run)).1, rest.drop run.length)
  match text with
  | '0' :: 'x' :: rest | '0' :: 'X' :: rest => based 16 rest
  | '0' :: 'o' :: rest | '0' :: 'O' :: rest => based 8 rest
  | '0' :: 'b' :: rest | '0' :: 'B' :: rest => based 2 rest
  | text =>
    let isDigit (c : Char) : Bool := c.isDigit || c = '_'
    let first := text.takeWhile isDigit
    let rest := text.drop first.length
    let (decimals, rest) := match rest with
      | '.' :: more =>
        let run := more.takeWhile isDigit
        ('.' :: run, more.drop run.length)
      | rest => ([], rest)
    let (power, rest) := match rest with
      | e :: more =>
        let (sign, digits) := match more with
          | '-' :: digits => (['-'], digits)
          | '+' :: digits => (['+'], digits)
          | digits => ([], digits)
        let run := digits.takeWhile isDigit
        if (e = 'e' || e = 'E') && !run.isEmpty then
          ('e' :: sign ++ run, digits.drop run.length)
        else ([], rest)
      | [] => ([], rest)
    if decimals.isEmpty && power.isEmpty then
      (Text.natural? (plain first)).map fun n => (.whole n, rest)
    else
      let whole := if first.isEmpty then ['0'] else plain first
      let decimals := if decimals = ['.'] then ['.', '0'] else plain decimals
      (Binary64.ofText? (String.ofList (whole ++ decimals ++ plain power))).map fun x =>
        (.fraction x, rest)

/-! ## Scripts -/

/-- What is known while a script is read. -/
structure Place where
  line : Nat
  /-- How many brackets are open. -/
  depth : Nat
  /-- The columns of the blocks that are open, the innermost first. -/
  indents : List Nat
  /-- Whether a line starts here. -/
  fresh : Bool

/-- The blanks at the start of a line: the column behind them and the rest. -/
def column : (found : Nat) → List Char → Nat × List Char
  | found, ' ' :: rest => column (found + 1) rest
  | found, '\t' :: rest => column ((found / 8 + 1) * 8) rest
  | _, '\x0c' :: rest => column 0 rest
  | found, rest => (found, rest)

/-- The blocks that end before a column, and those that stay open. -/
def closeBlocks (column : Nat) : List Nat → Nat × List Nat
  | top :: rest =>
    if column < top then
      let (count, left) := closeBlocks column rest
      (count + 1, left)
    else (0, top :: rest)
  | [] => (0, [])

/-- Reads tokens with their lines; `fuel` bounds their number. -/
def readUpTo : (fuel : Nat) → Place → List Char → Except Misreading (List (Token × Nat))
  | 0, place, _ => .ok [(.ended, place.line)]
  | fuel + 1, place, text => do
    if place.fresh && place.depth = 0 then
      let (found, rest) := column 0 text
      match rest with
      | [] =>
        let closing := place.indents.filter (· > 0)
        return closing.map (fun _ => (Token.dedent, place.line)) ++ [(.ended, place.line)]
      | '\n' :: more => readUpTo fuel { place with line := place.line + 1 } more
      | '\r' :: '\n' :: more => readUpTo fuel { place with line := place.line + 1 } more
      | '#' :: more => readUpTo fuel place (more.dropWhile (· ≠ '\n'))
      | rest =>
        let top := place.indents.headD 0
        if found > top then
          let others ← readUpTo fuel { place with fresh := false, indents := found :: place.indents } rest
          return (.indent, place.line) :: others
        else
          let (count, left) := closeBlocks found place.indents
          if left.headD 0 ≠ found then
            .error ⟨place.line, "IndentationError: unindent does not match any outer indentation level"⟩
          else
            let others ← readUpTo fuel { place with fresh := false, indents := left } rest
            return List.replicate count (Token.dedent, place.line) ++ others
    else
      let go (token : Token) (place : Place) (rest : List Char) :
          Except Misreading (List (Token × Nat)) := do
        return (token, place.line) :: (← readUpTo fuel place rest)
      match text with
      | [] =>
        if place.depth > 0 then .error ⟨place.line, "SyntaxError: '(' was never closed"⟩
        else go .lineEnd { place with fresh := true } []
      | '\n' :: rest =>
        let next := { place with line := place.line + 1 }
        if place.depth > 0 then readUpTo fuel next rest
        else
          return (.lineEnd, place.line) :: (← readUpTo fuel { next with fresh := true } rest)
      | '\\' :: '\n' :: rest => readUpTo fuel { place with line := place.line + 1 } rest
      | '#' :: rest => readUpTo fuel place (rest.dropWhile (· ≠ '\n'))
      | c :: rest =>
        if c = ' ' || c = '\t' || c = '\r' || c = '\x0c' then readUpTo fuel place rest
        else match textStart? text with
          | some (letters, quote, rest) =>
            let quotes := if (Text.after? [quote, quote] rest).isSome then [quote, quote, quote]
              else [quote]
            let rest := rest.drop (quotes.length - 1)
            match bodyOf quotes rest with
            | none =>
              .error ⟨place.line, "SyntaxError: unterminated string literal (detected at line " ++
                Text.number place.line ++ ")"⟩
            | some (body, behind) =>
              let lines := (body.filter (· = '\n')).length
              return (ofText letters body, place.line) ::
                (← readUpTo fuel { place with line := place.line + lines } behind)
          | none =>
            if isNameStart c then
              let name := text.takeWhile isNameChar
              go (.name (String.ofList name)) place (text.drop name.length)
            else if c.isDigit || (c = '.' && rest.head?.any Char.isDigit) then
              match number? text with
              | some (token, behind) =>
                if behind.head?.any isNameStart && !(behind.head?.any fun c => c.toNat ≥ 128) &&
                    !(["if", "else", "and", "or", "in", "is", "for", "not"].contains
                      (String.ofList (behind.takeWhile isNameChar))) then
                  .error ⟨place.line, "SyntaxError: invalid decimal literal"⟩
                else go token place behind
              | none => .error ⟨place.line, "SyntaxError: invalid syntax"⟩
            else
              match signs.find? fun sign => (Text.after? sign.toList text).isSome with
              | none => .error ⟨place.line, "SyntaxError: invalid syntax"⟩
              | some sign =>
                let behind := text.drop sign.length
                if ["(", "[", "\x7b"].contains sign then
                  go (.sign sign) { place with depth := place.depth + 1 } behind
                else if [")", "]", "\x7d"].contains sign then
                  if place.depth = 0 then
                    .error ⟨place.line, "SyntaxError: unmatched '" ++ sign ++ "'"⟩
                  else go (.sign sign) { place with depth := place.depth - 1 } behind
                else go (.sign sign) place behind

/-- The tokens of a script. -/
def ofScript (text : List Char) : Except Misreading (List (Token × Nat)) :=
  readUpTo (2 * text.length + 4) ⟨1, 0, [0], true⟩ text

/-- The tokens of an expression that stands within a text on a line. -/
def ofExpression (line : Nat) (text : List Char) : Except Misreading (List (Token × Nat)) :=
  readUpTo (2 * text.length + 4) ⟨line, 1, [0], false⟩ (text ++ [')'])

end Reading

end SignalCatalog.Indented
