import SignalCatalog.Binary64.Shortest
import SignalCatalog.Json

/-!
# Reading JSON

`Node.read` turns a text into a tree that remembers where each value stands, in bytes from the start
of the text. Reading stops at the first character that is not JSON, and the tree then ends in a
fault at that place; what was read before it is still there, so that a reader of the tree meets the
faults of the text and those of the values in the order in which they stand.

A number without fraction and exponent that fits 64 bits is an integer. Every other number is read
as its first digits up to 64 bits, times or divided by a power of ten, with a rounding at each of
these steps; a number too large for a double is refused, and so is a nesting of 128 levels.
-/

namespace SignalCatalog.Json

open SignalCatalog.Text

/-- What is wrong with a document. -/
inductive Cause
  | endInValue
  | endInList
  | endInObject
  | endInString
  | expectedValue
  | expectedWord
  | expectedColon
  | expectedCommaOrBracket
  | expectedCommaOrBrace
  | trailingComma
  | trailingCharacters
  | keyNotString
  | invalidNumber
  | numberOutOfRange
  | invalidEscape
  | controlCharacter
  | loneSurrogate
  | unfinishedSurrogate
  | tooDeep
  /-- The value is of another kind than the one expected. -/
  | wrongKind (found expected : String)
  | duplicateField (name : String)
  /-- The value is neither a text nor a number. -/
  | notText (found : Json)
  /-- The value has none of the accepted forms. -/
  | noVariant (name : String)

/-- The three classes of faults that callers tell apart. -/
inductive Category
  | ended
  | malformed
  | misshapen
deriving DecidableEq

def Cause.category : Cause → Category
  | endInValue | endInList | endInObject | endInString => .ended
  | wrongKind .. | duplicateField .. | notText .. | noVariant .. => .misshapen
  | _ => .malformed

/-- A cause and the number of bytes read when it was found; a cause found after a value has been
read gets its place from the object around the value. -/
structure Fault where
  cause : Cause
  offset : Option Nat

def Fault.settle (fault : Fault) (offset : Nat) : Fault :=
  { fault with offset := some (fault.offset.getD offset) }

mutual

/-- A value with its place. Scalars carry the offset after them, arrays and objects the offset of
their opening bracket. -/
inductive Node
  | fault (fault : Fault)
  | null (stop : Nat)
  | bool (value : Bool) (stop : Nat)
  | number (value : Number) (stop : Nat)
  | string (value : String) (stop : Nat)
  | array (start : Nat) (items : NodeItems)
  | object (start : Nat) (members : NodeMembers)

inductive NodeItems
  | done
  | fault (fault : Fault)
  | item (value : Node) (rest : NodeItems)

/-- The members of an object. `afterKey` and `afterValue` are the offsets behind a key or a value
with the blanks that follow it and a closing brace that follows these. -/
inductive NodeMembers
  | done
  | fault (fault : Fault)
  | member (key : String) (afterKey : Nat) (value : Node) (afterValue : Nat) (rest : NodeMembers)

end

/-- The rest of the text and the number of bytes before it. -/
structure Cursor where
  rest : List Char
  offset : Nat

namespace Cursor

def isSpace (c : Char) : Bool := c = ' ' || c = '\n' || c = '\t' || c = '\r'

/-- The cursor behind a character of the text. -/
def next (cursor : Cursor) : Cursor :=
  match cursor.rest with
  | [] => cursor
  | c :: rest => ⟨rest, cursor.offset + c.utf8Size⟩

def skipSpaces (cursor : Cursor) : Cursor :=
  let spaces := cursor.rest.takeWhile isSpace
  ⟨cursor.rest.dropWhile isSpace, cursor.offset + spaces.length⟩

/-- A fault that is reported at the first byte of the next character. -/
def faultHere (cursor : Cursor) (cause : Cause) : Fault :=
  ⟨cause, some (if cursor.rest.isEmpty then cursor.offset else cursor.offset + 1)⟩

/-- A fault that is reported at the character before the cursor. -/
def faultBehind (cursor : Cursor) (cause : Cause) : Fault := ⟨cause, some cursor.offset⟩

/-- The offset behind the spaces that follow, and behind a closing brace after them. -/
def settled (cursor : Cursor) : Nat :=
  let cursor := cursor.skipSpaces
  match cursor.rest with
  | '\x7d' :: _ => cursor.offset + 1
  | _ => cursor.offset

/-- The run of digits at the cursor, and the cursor behind it. -/
def digits (cursor : Cursor) : List Char × Cursor :=
  let run := cursor.rest.takeWhile Char.isDigit
  (run, ⟨cursor.rest.dropWhile Char.isDigit, cursor.offset + run.length⟩)

end Cursor

/-- Checks the rest of a literal word character by character. -/
def readWord : List Char → Cursor → Except Fault Cursor
  | [], cursor => .ok cursor
  | c :: word, cursor =>
    match cursor.rest with
    | [] => .error (cursor.faultBehind .endInValue)
    | d :: _ =>
      if c = d then readWord word cursor.next else .error (cursor.faultHere .expectedWord)

/-- The digits of a run that still fit 64 bits, as a number, and the digits after them. -/
def takeSignificand : Nat → List Char → Nat × List Char
  | n, [] => (n, [])
  | n, c :: rest =>
    let m := 10 * n + digitValue c
    if maxWord64 < m then (n, c :: rest) else takeSignificand m rest

/-- The double nearest to a power of ten, as a quotient. -/
def powerOfTen (exponent : Nat) : Nat × Nat :=
  match (Binary64.ofNat (10 ^ exponent)).value? with
  | some power => (power.num.natAbs, power.den)
  | none => (10 ^ exponent, 1)

/-- The double of a significand and a power of ten: one rounding for the significand, one for each
power and one for each multiplication or division by it. Nothing if it is too large. -/
def floatOfParts : Nat → Binary64 → Int → Option Binary64
  | 0, x, _ => some x
  | fuel + 1, x, exponent =>
    if exponent.natAbs ≤ 308 then
      let (num, den) := powerOfTen exponent.natAbs
      if 0 ≤ exponent then
        let y := x.timesQuotient num den
        if y.isFinite then some y else none
      else some (x.timesQuotient den num)
    else if x.sameNumber (.zero false) then some x
    else if 0 ≤ exponent then none
    else
      let (num, den) := powerOfTen 308
      floatOfParts fuel (x.timesQuotient den num) (exponent + 308)

/-- The exponents of a numeral stop growing here; every larger one overflows. -/
def maxExponent : Nat := 2147483647

/-- Limits a sum of exponents to the numbers of 32 bits. -/
def clampExponent (e : Int) : Int := max (-2147483648) (min e 2147483647)

/-- The double of a numeral of which significand and power of ten have been read. -/
def finishFloat (negative : Bool) (significand : Nat) (exponent : Int) (cursor : Cursor) :
    Except Fault (Number × Cursor) :=
  match floatOfParts 20 (.ofNat significand) exponent with
  | some x => .ok (.float (if negative then x.neg else x), cursor)
  | none => .error (cursor.faultBehind .numberOutOfRange)

/-- The digits of an exponent up to the largest one, and whether there are digits beyond it. -/
def takeExponent : Nat → Nat → List Char → Nat × Nat × Bool
  | n, count, [] => (n, count, false)
  | n, count, c :: rest =>
    let m := 10 * n + digitValue c
    if maxExponent < m then (n, count + 1, true) else takeExponent m (count + 1) rest

/-- Whether an exponent is negative, and the cursor behind its sign. -/
def takeExponentSign (cursor : Cursor) : Bool × Cursor :=
  match cursor.rest with
  | '+' :: _ => (false, cursor.next)
  | '-' :: _ => (true, cursor.next)
  | _ => (false, cursor)

/-- Reads an exponent behind its sign. -/
def readExponentDigits (negative : Bool) (significand : Nat) (start : Int) (minus : Bool)
    (cursor : Cursor) : Except Fault (Number × Cursor) :=
  match cursor.rest with
  | [] => .error (cursor.faultBehind .endInValue)
  | c :: _ =>
    if !c.isDigit then .error (cursor.faultHere .invalidNumber)
    else
      let (run, after) := cursor.digits
      let (n, count, overflow) := takeExponent 0 0 run
      if overflow then
        if significand ≠ 0 && !minus then
          .error (Cursor.faultBehind ⟨[], cursor.offset + count⟩ .numberOutOfRange)
        else .ok (.float (.zero negative), after)
      else
        finishFloat negative significand (clampExponent (if minus then start - n else start + n))
          after

/-- Reads an exponent from its mark on. -/
def readExponent (negative : Bool) (significand : Nat) (start : Int) (cursor : Cursor) :
    Except Fault (Number × Cursor) :=
  let (minus, cursor) := takeExponentSign cursor.next
  readExponentDigits negative significand start minus cursor

/-- Reads a fraction from its point on. -/
def readFraction (negative : Bool) (significand : Nat) (start : Int) (cursor : Cursor) :
    Except Fault (Number × Cursor) :=
  let (run, after) := cursor.next.digits
  if run.isEmpty then
    .error (after.faultHere (if after.rest.isEmpty then .endInValue else .invalidNumber))
  else
    let (n, left) := takeSignificand significand run
    let exponent := start - (run.length - left.length : Nat)
    match after.rest with
    | c :: _ =>
      if c = 'e' ∨ c = 'E' then readExponent negative n exponent after
      else finishFloat negative n exponent after
    | [] => finishFloat negative n exponent after

/-- The number of a numeral without fraction and exponent; `left` are the digits beyond 64 bits. -/
def finishInteger (negative : Bool) (n : Nat) (left : List Char) (cursor : Cursor) :
    Except Fault (Number × Cursor) :=
  if !left.isEmpty then finishFloat negative n left.length cursor
  else if !negative then .ok (.integer n, cursor)
  else if n = 0 ∨ 9223372036854775808 < n then .ok (.float (Binary64.ofNat n).neg, cursor)
  else .ok (.integer (-n), cursor)

/-- Reads the rest of a number behind its first digits. -/
def readNumberTail (negative : Bool) (n : Nat) (left : List Char) (cursor : Cursor) :
    Except Fault (Number × Cursor) :=
  match cursor.rest with
  | '.' :: _ => readFraction negative n left.length cursor
  | 'e' :: _ => readExponent negative n left.length cursor
  | 'E' :: _ => readExponent negative n left.length cursor
  | _ => finishInteger negative n left cursor

/-- Reads a number behind its sign. -/
def readNumber (negative : Bool) (cursor : Cursor) : Except Fault (Number × Cursor) :=
  let (run, after) := cursor.digits
  match run with
  | [] =>
    match cursor.rest with
    | [] => .error (cursor.faultBehind .endInValue)
    | _ :: _ => .error (cursor.faultHere .invalidNumber)
  | '0' :: _ :: _ => .error (cursor.next.faultHere .invalidNumber)
  | _ =>
    let (n, left) := takeSignificand 0 run
    readNumberTail negative n left after

def hexValue? (c : Char) : Option Nat :=
  if c.isDigit then some (c.toNat - 48)
  else if 'a' ≤ c ∧ c ≤ 'f' then some (c.toNat - 87)
  else if 'A' ≤ c ∧ c ≤ 'F' then some (c.toNat - 55)
  else none

/-- The number of bytes of a text, counted no further than four. -/
def bytesUpToFour (text : List Char) : Nat :=
  min 4 ((text.take 4).foldl (fun n c => n + c.utf8Size) 0)

/-- Four hexadecimal digits. -/
def readHex (cursor : Cursor) : Except Fault (Nat × Cursor) :=
  match cursor.rest with
  | a :: b :: c :: d :: rest =>
    match hexValue? a, hexValue? b, hexValue? c, hexValue? d with
    | some a, some b, some c, some d =>
      .ok (((a * 16 + b) * 16 + c) * 16 + d, ⟨rest, cursor.offset + 4⟩)
    | _, _, _, _ => .error (Cursor.faultBehind ⟨[], cursor.offset + 4⟩ .invalidEscape)
  | rest =>
    let size := bytesUpToFour rest
    if size < 4 then .error (Cursor.faultBehind ⟨[], cursor.offset + size⟩ .endInString)
    else .error (Cursor.faultBehind ⟨[], cursor.offset + 4⟩ .invalidEscape)

/-- The second half of a pair of surrogates, from its backslash on. -/
def readLowSurrogate (high : Nat) (cursor : Cursor) : Except Fault (Char × Cursor) :=
  let unfinished (c : Cursor) : Fault := ⟨.unfinishedSurrogate, some (c.offset + 1)⟩
  match cursor.rest with
  | [] => .error (cursor.faultBehind .endInString)
  | '\\' :: [] => .error (cursor.next.faultBehind .endInString)
  | '\\' :: 'u' :: _ => do
    let (low, cursor) ← readHex cursor.next.next
    if low < 0xDC00 ∨ 0xDFFF < low then .error (cursor.faultBehind .loneSurrogate)
    else .ok (Char.ofNat ((high - 0xD800) * 1024 + (low - 0xDC00) + 0x10000), cursor)
  | '\\' :: _ => .error (unfinished cursor.next)
  | _ => .error (unfinished cursor)

/-- The character of an escape, behind its backslash. -/
def readEscape (cursor : Cursor) : Except Fault (Char × Cursor) :=
  match cursor.rest with
  | [] => .error (cursor.faultBehind .endInString)
  | c :: _ =>
    if c = '"' ∨ c = '\\' ∨ c = '/' then .ok (c, cursor.next)
    else if c = 'b' then .ok (Char.ofNat 8, cursor.next)
    else if c = 'f' then .ok (Char.ofNat 12, cursor.next)
    else if c = 'n' then .ok ('\n', cursor.next)
    else if c = 'r' then .ok ('\r', cursor.next)
    else if c = 't' then .ok ('\t', cursor.next)
    else if c = 'u' then do
      let (n, cursor) ← readHex cursor.next
      if 0xDC00 ≤ n ∧ n ≤ 0xDFFF then .error (cursor.faultBehind .loneSurrogate)
      else if 0xD800 ≤ n ∧ n ≤ 0xDBFF then readLowSurrogate n cursor
      else .ok (Char.ofNat n, cursor)
    else .error ⟨.invalidEscape, some (cursor.offset + 1)⟩

/-- The rest of a string behind its opening quote; `done` holds what was read, last first. -/
def readString : Nat → List Char → Cursor → Except Fault (String × Cursor)
  | 0, _, cursor => .error (cursor.faultBehind .endInString)
  | fuel + 1, done, cursor =>
    match cursor.rest with
    | [] => .error (cursor.faultBehind .endInString)
    | c :: _ =>
      if c = '"' then .ok (String.ofList done.reverse, cursor.next)
      else if c = '\\' then
        match readEscape cursor.next with
        | .ok (d, cursor) => readString fuel (d :: done) cursor
        | .error fault => .error fault
      else if c.toNat < 32 then .error (cursor.next.faultBehind .controlCharacter)
      else readString fuel (c :: done) cursor.next

/-- A string behind its opening quote. -/
def takeString (cursor : Cursor) : Except Fault (String × Cursor) :=
  readString (cursor.rest.length + 1) [] cursor

/-- A scalar as a node, with the cursor behind it. -/
def scalar {α : Type} (result : Except Fault (α × Cursor)) (node : α → Nat → Node) :
    Node × Option Cursor :=
  match result with
  | .ok (value, cursor) => (node value cursor.offset, some cursor)
  | .error fault => (.fault fault, none)

def word (text : String) (node : Nat → Node) (cursor : Cursor) : Node × Option Cursor :=
  scalar ((readWord text.toList cursor).map fun after => ((), after)) fun _ stop => node stop

mutual

/-- A value at the cursor, and the cursor behind it unless a fault was met. `levels` is the number
of brackets that may still be opened. -/
def readValue : (fuel levels : Nat) → Cursor → Node × Option Cursor
  | 0, _, cursor => (.fault (cursor.faultHere .expectedValue), none)
  | fuel + 1, levels, cursor =>
    let cursor := cursor.skipSpaces
    match cursor.rest with
    | [] => (.fault (cursor.faultHere .endInValue), none)
    | c :: _ =>
      if c = 'n' then word "null" .null cursor
      else if c = 't' then word "true" (.bool true) cursor
      else if c = 'f' then word "false" (.bool false) cursor
      else if c = '-' then scalar (readNumber true cursor.next) .number
      else if c.isDigit then scalar (readNumber false cursor) .number
      else if c = '"' then scalar (takeString cursor.next) .string
      else if c = '[' then
        if levels = 0 then (.array cursor.offset (.fault (cursor.faultHere .tooDeep)), none)
        else
          let (items, after) := readItems fuel (levels - 1) true cursor.next
          (.array cursor.offset items, after)
      else if c = '\x7b' then
        if levels = 0 then (.object cursor.offset (.fault (cursor.faultHere .tooDeep)), none)
        else
          let (members, after) := readMembers fuel (levels - 1) true cursor.next
          (.object cursor.offset members, after)
      else (.fault (cursor.faultHere .expectedValue), none)

/-- The items up to the closing bracket; before the first one no comma stands. -/
def readItems : (fuel levels : Nat) → (first : Bool) → Cursor → NodeItems × Option Cursor
  | 0, _, _, cursor => (.fault (cursor.faultHere .endInList), none)
  | fuel + 1, levels, first, cursor =>
    let cursor := cursor.skipSpaces
    let item (cursor : Cursor) : NodeItems × Option Cursor :=
      match readValue fuel levels cursor with
      | (node, none) => (.item node .done, none)
      | (node, some after) =>
        let (rest, after) := readItems fuel levels false after
        (.item node rest, after)
    match cursor.rest with
    | [] => (.fault (cursor.faultHere .endInList), none)
    | c :: _ =>
      if c = ']' then (.done, some cursor.next)
      else if first then item cursor
      else if c = ',' then
        let cursor := cursor.next.skipSpaces
        match cursor.rest with
        | [] => (.fault (cursor.faultHere .endInValue), none)
        | d :: _ =>
          if d = ']' then (.fault (cursor.faultHere .trailingComma), none) else item cursor
      else (.fault (cursor.faultHere .expectedCommaOrBracket), none)

/-- The members up to the closing brace; before the first one no comma stands. -/
def readMembers : (fuel levels : Nat) → (first : Bool) → Cursor → NodeMembers × Option Cursor
  | 0, _, _, cursor => (.fault (cursor.faultHere .endInObject), none)
  | fuel + 1, levels, first, cursor =>
    let cursor := cursor.skipSpaces
    let member (cursor : Cursor) : NodeMembers × Option Cursor :=
      match cursor.rest with
      | [] => (.fault (cursor.faultHere .endInValue), none)
      | d :: _ =>
        if d = '"' then
          match takeString cursor.next with
          | .error fault => (.fault fault, none)
          | .ok (key, cursor) =>
            let afterKey := cursor.settled
            let cursor := cursor.skipSpaces
            match cursor.rest with
            | ':' :: _ =>
              match readValue fuel levels cursor.next with
              | (node, none) => (.member key afterKey node 0 .done, none)
              | (node, some after) =>
                let (rest, last) := readMembers fuel levels false after
                (.member key afterKey node after.settled rest, last)
            | [] =>
              let fault := cursor.faultHere .endInObject
              (.member key afterKey (.fault fault) 0 .done, none)
            | _ =>
              let fault := cursor.faultHere .expectedColon
              (.member key afterKey (.fault fault) 0 .done, none)
        else if d = '\x7d' then (.fault (cursor.faultHere .trailingComma), none)
        else (.fault (cursor.faultHere .keyNotString), none)
    match cursor.rest with
    | [] => (.fault (cursor.faultHere .endInObject), none)
    | c :: _ =>
      if c = '\x7d' then (.done, some cursor.next)
      else if first then member cursor
      else if c = ',' then member cursor.next.skipSpaces
      else (.fault (cursor.faultHere .expectedCommaOrBrace), none)

end

/-- The number of brackets that may be open at once. -/
def maxLevels : Nat := 127

/-- The tree of a text, and the fault of what stands behind its value, if anything does. -/
def Node.read (text : String) : Node × Option Fault :=
  let chars := text.toList
  match readValue (2 * chars.length + 2) maxLevels ⟨chars, 0⟩ with
  | (node, none) => (node, none)
  | (node, some cursor) =>
    let cursor := cursor.skipSpaces
    (node, if cursor.rest.isEmpty then none else some (cursor.faultHere .trailingCharacters))

mutual

/-- The first fault of the text inside a value. -/
def Node.firstFault? : Node → Option Fault
  | .fault f => some f
  | .array _ items => items.firstFault?
  | .object _ members => members.firstFault?
  | _ => none

def NodeItems.firstFault? : NodeItems → Option Fault
  | .done => none
  | .fault f => some f
  | .item value rest => value.firstFault? <|> rest.firstFault?

def NodeMembers.firstFault? : NodeMembers → Option Fault
  | .done => none
  | .fault f => some f
  | .member _ _ value _ rest => value.firstFault? <|> rest.firstFault?

end

mutual

/-- The value without its places; of a repeated key the first place and the last value count. -/
def Node.value : Node → Json
  | .fault _ => .null
  | .null _ => .null
  | .bool b _ => .bool b
  | .number n _ => .number n
  | .string s _ => .string s
  | .array _ items => .array items.values
  | .object _ members => .object (Entries.ofPairs members.pairs)

def NodeItems.values : NodeItems → List Json
  | .done => []
  | .fault _ => []
  | .item value rest => value.value :: rest.values

def NodeMembers.pairs : NodeMembers → List (String × Json)
  | .done => []
  | .fault _ => []
  | .member key _ value _ rest => (key, value.value) :: rest.pairs

end

/-- A line and a column, both from one; columns count bytes. -/
structure Position where
  line : Nat
  column : Nat
deriving DecidableEq

/-- The position reached after a number of bytes of a text: a line break starts a new line at
column zero. -/
def Position.after (text : List Char) (offset : Nat) : Position :=
  go text offset ⟨1, 0⟩
where
  go : List Char → Nat → Position → Position
    | [], _, place => place
    | c :: rest, left, place =>
      if left = 0 then place
      else if c = '\n' then go rest (left - 1) ⟨place.line + 1, 0⟩
      else
        let size := min left c.utf8Size
        go rest (left - size) { place with column := place.column + size }

/-- Reads a text as a value. -/
def parse (text : String) : Except Fault Json :=
  let (node, trailing) := Node.read text
  match node.firstFault? <|> trailing with
  | some fault => .error fault
  | none => .ok node.value

end SignalCatalog.Json
