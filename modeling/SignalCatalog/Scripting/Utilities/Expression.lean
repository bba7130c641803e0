import SignalCatalog.Scripting.Shell.Pattern
import SignalCatalog.Text.Numeral
import SignalCatalog.Text.Blank

/-!
# Regular expressions

Expressions come in a basic and an extended form, which differ in the characters that need a backslash.
The match that starts first is taken, and of those the longest.
-/

namespace SignalCatalog.Utilities

open Shell (Member)

inductive Expression
  | empty
  | char (c : Char)
  | any
  | oneOf (negated : Bool) (members : List Member)
  | start
  | stop
  /-- Where a word starts, where it ends, or either. -/
  | border (starts ends : Bool)
  /-- Inside of a word or outside of any. -/
  | noBorder
  /-- What a group has matched. -/
  | again (index : Nat)
  | group (index : Nat) (body : Expression)
  | both (first second : Expression)
  | either (first second : Expression)
  | repeated (body : Expression) (least : Nat) (most : Option Nat)

namespace Expression

/-! ## Matching -/

/-- A place in a text: the character before it, what is behind it, and what groups have matched. -/
structure Spot where
  former : Option Char
  rest : List Char
  groups : List (Nat × List Char)

namespace Spot

/-- The spot behind some characters. -/
def skip (spot : Spot) (count : Nat) : Spot :=
  if count = 0 then spot
  else
    { spot with
      former := (spot.rest.drop (count - 1)).head?
      rest := spot.rest.drop count }

def isInWord (c : Char) : Bool := c.isAlphanum || c = '_'

def wordBefore (spot : Spot) : Bool := spot.former.any isInWord

def wordBehind (spot : Spot) : Bool := spot.rest.head?.any isInWord

/-- The first of the spots at each place. -/
def distinct (spots : List Spot) : List Spot :=
  (spots.foldl (fun found spot =>
    if found.any fun other => other.rest.length = spot.rest.length then found
    else spot :: found) []).reverse

end Spot

def foldCase (ignoring : Bool) (c : Char) : Char := if ignoring then c.toLower else c

/-- Whether a character is one of some members. -/
def isMember (ignoring : Bool) (members : List Member) (c : Char) : Bool :=
  members.any (Member.holds c) ||
    (ignoring && (members.any (Member.holds c.toLower) || members.any (Member.holds c.toUpper)))

/-- The spots behind repetitions, those of more repetitions first; `fuel` bounds their number. -/
def repetitions (step : Spot → List Spot) :
    (fuel least : Nat) → (most : Option Nat) → Spot → List Spot
  | 0, _, _, spot => [spot]
  | fuel + 1, least, most, spot =>
    let more := if most = some 0 then []
      else (step spot).filter fun next => least > 0 || next.rest.length < spot.rest.length
    let behind := more.flatMap (repetitions step fuel (least - 1) (most.map fun n => n - 1))
    Spot.distinct (behind ++ (if least = 0 then [spot] else []))

/-- The spots at which a match can end, in order of preference. -/
def ends (ignoring : Bool) : Expression → Spot → List Spot
  | empty, spot => [spot]
  | char c, spot =>
    match spot.rest with
    | found :: _ => if foldCase ignoring found = foldCase ignoring c then [spot.skip 1] else []
    | [] => []
  | any, spot => if spot.rest.isEmpty then [] else [spot.skip 1]
  | oneOf negated members, spot =>
    match spot.rest with
    | found :: _ => if isMember ignoring members found != negated then [spot.skip 1] else []
    | [] => []
  | start, spot => if spot.former.isNone then [spot] else []
  | stop, spot => if spot.rest.isEmpty then [spot] else []
  | border starts stops, spot =>
    let starting := !spot.wordBefore && spot.wordBehind
    let stopping := spot.wordBefore && !spot.wordBehind
    if (starts && starting) || (stops && stopping) then [spot] else []
  | noBorder, spot => if spot.wordBefore = spot.wordBehind then [spot] else []
  | again index, spot =>
    match spot.groups.find? fun item => item.1 = index with
    | none => []
    | some (_, text) =>
      let found := spot.rest.take text.length
      if found.map (foldCase ignoring) = text.map (foldCase ignoring) then [spot.skip text.length]
      else []
  | group index body, spot =>
    (ends ignoring body spot).map fun next =>
      let text := spot.rest.take (spot.rest.length - next.rest.length)
      { next with groups := (index, text) :: next.groups.filter fun item => item.1 ≠ index }
  | both first second, spot =>
    Spot.distinct ((ends ignoring first spot).flatMap (ends ignoring second))
  | either first second, spot =>
    Spot.distinct (ends ignoring first spot ++ ends ignoring second spot)
  | repeated body least most, spot =>
    repetitions (ends ignoring body) (spot.rest.length + least + 1) least most spot

/-- A match in a text. -/
structure Found where
  before : List Char
  text : List Char
  rest : List Char
  groups : List (Nat × List Char)

/-- The longest match at a spot. -/
def longest? (ignoring : Bool) (expression : Expression) (spot : Spot) : Option Spot :=
  (ends ignoring expression spot).foldl (fun best next =>
    match best with
    | some other => if next.rest.length < other.rest.length then some next else best
    | none => some next) none

/-- The first match in a text behind a character. -/
def search (ignoring : Bool) (expression : Expression) :
    (former : Option Char) → (text : List Char) → Option Found
  | former, text =>
    match longest? ignoring expression ⟨former, text, []⟩ with
    | some spot => some ⟨[], text.take (text.length - spot.rest.length), spot.rest, spot.groups⟩
    | none =>
      match text with
      | [] => none
      | c :: rest =>
        (search ignoring expression (some c) rest).map fun found =>
          { found with before := c :: found.before }
termination_by _ text => text.length

def isIn (ignoring : Bool) (expression : Expression) (text : String) : Bool :=
  (search ignoring expression none text.toList).isSome

/-! ## Signs -/

/-- The signs that an expression is written with. -/
inductive Sign
  | opening
  | closing
  | bar
  | repetition (least : Nat) (most : Option Nat)
  | leaf (expression : Expression)

/-- The members of brackets up to the closing one, and what is behind it; `fuel` bounds their
number. -/
def membersUpTo : (fuel : Nat) → (first : Bool) → List Char → Option (List Member × List Char)
  | 0, _, _ | _, _, [] => none
  | fuel + 1, first, c :: rest =>
    if c = ']' && !first then some ([], rest)
    else
      let named := do
        let inside ← Text.after? "[:".toList (c :: rest)
        let name := inside.takeWhile Char.isAlpha
        let behind ← Text.after? ":]".toList (inside.drop name.length)
        return (String.ofList name, behind)
      match named, rest with
      | some (name, rest), _ =>
        (membersUpTo fuel false rest).map fun (members, rest) => (.kind name :: members, rest)
      | none, '-' :: last :: more =>
        if last = ']' then
          (membersUpTo fuel false rest).map fun (members, rest) => (.range c c :: members, rest)
        else (membersUpTo fuel false more).map fun (members, rest) => (.range c last :: members, rest)
      | none, _ =>
        (membersUpTo fuel false rest).map fun (members, rest) => (.range c c :: members, rest)

/-- The brackets at the start of a text, behind the opening one. -/
def brackets? (text : List Char) : Option (Expression × List Char) :=
  match text with
  | '^' :: rest =>
    (membersUpTo (rest.length + 1) true rest).map fun (members, rest) => (.oneOf true members, rest)
  | rest =>
    (membersUpTo (rest.length + 1) true rest).map fun (members, rest) => (.oneOf false members, rest)

/-- The numbers of repetitions, up to the closing brace. -/
def bounds? (closing : List Char) (text : List Char) : Option (Nat × Option Nat × List Char) :=
  let low := text.takeWhile Char.isDigit
  let rest := text.drop low.length
  match Text.after? closing rest with
  | some behind => (Text.natural? low).map fun n => (n, some n, behind)
  | none => do
    let rest ← Text.after? [','] rest
    let high := rest.takeWhile Char.isDigit
    let behind ← Text.after? closing (rest.drop high.length)
    return ((Text.natural? low).getD 0, Text.natural? high, behind)

def word : List Member := [.kind "alnum", .range '_' '_']

/-- What a letter behind a backslash means in either form. -/
def escaped? (c : Char) : Option Expression :=
  match c with
  | 'w' => some (.oneOf false word)
  | 'W' => some (.oneOf true word)
  | 's' => some (.oneOf false [.kind "space"])
  | 'S' => some (.oneOf true [.kind "space"])
  | 'b' => some (.border true true)
  | 'B' => some .noBorder
  | '<' => some (.border true false)
  | '>' => some (.border false true)
  | 'n' => some (.char '\n')
  | 't' => some (.char '\t')
  | c => if c.isDigit && c ≠ '0' then some (.again (c.toNat - 48)) else none

/-- Whether a sign can stand before what must not be repeated. -/
def opensPart : Option Sign → Bool
  | none | some .opening | some .bar | some (.leaf .start) => true
  | _ => false

/-- The signs of an expression; `fuel` bounds their number. -/
def signsUpTo (extended : Bool) :
    (fuel : Nat) → (former : Option Sign) → List Char → Except String (List Sign)
  | 0, _, _ | _, _, [] => .ok []
  | fuel + 1, former, c :: rest => do
    let go (sign : Sign) (rest : List Char) : Except String (List Sign) := do
      return sign :: (← signsUpTo extended fuel (some sign) rest)
    let plain (c : Char) : Except String (List Sign) := go (.leaf (.char c)) rest
    let braces (rest : List Char) : Option (Nat × Option Nat × List Char) :=
      bounds? (if extended then ['\x7d'] else ['\\', '\x7d']) rest
    let starts := opensPart former
    if c = '[' then
      match brackets? rest with
      | some (expression, rest) => go (.leaf expression) rest
      | none => .error "Unmatched [, [^, [:, [., or [="
    else if c = '.' then go (.leaf .any) rest
    else if c = '*' then if starts then plain c else go (.repetition 0 none) rest
    else if c = '^' then
      if extended || former.isNone || starts then go (.leaf .start) rest else plain c
    else if c = '$' then
      let atEnd := rest.isEmpty || (Text.after? ['\\', ')'] rest).isSome ||
        (Text.after? ['\\', '|'] rest).isSome
      if extended || atEnd then go (.leaf .stop) rest else plain c
    else if c = '\\' then
      match rest with
      | [] => .error "Trailing backslash"
      | next :: more =>
        if !extended && next = '(' then go .opening more
        else if !extended && next = ')' then go .closing more
        else if !extended && next = '|' then go .bar more
        else if !extended && next = '+' && !starts then go (.repetition 1 none) more
        else if !extended && next = '?' && !starts then go (.repetition 0 (some 1)) more
        else if !extended && next = '\x7b' then
          match braces more with
          | some (least, most, behind) => go (.repetition least most) behind
          | none => .error "Unmatched \\\x7b"
        else match escaped? next with
          | some expression => go (.leaf expression) more
          | none => go (.leaf (.char next)) more
    else if !extended then plain c
    else if c = '(' then go .opening rest
    else if c = ')' then go .closing rest
    else if c = '|' then go .bar rest
    else if c = '+' && !starts then go (.repetition 1 none) rest
    else if c = '?' && !starts then go (.repetition 0 (some 1)) rest
    else if c = '\x7b' && !starts then
      match braces rest with
      | some (least, most, behind) => go (.repetition least most) behind
      | none => plain c
    else plain c

/-! ## Reading -/

/-- Takes the repetitions that follow an expression. -/
def withRepetitions (expression : Expression) : List Sign → Expression × List Sign
  | .repetition least most :: rest => withRepetitions (.repeated expression least most) rest
  | rest => (expression, rest)

/-- Reads alternatives up to a closing sign: the expression, the number of groups so far, and the signs
behind it; `fuel` bounds the number of signs. -/
def readUpTo : (fuel groups : Nat) → (former : Expression) → List Sign →
    Except String (Expression × Nat × List Sign)
  | 0, groups, former, signs => .ok (former, groups, signs)
  | _ + 1, groups, former, [] => .ok (former, groups, [])
  | _ + 1, groups, former, .closing :: rest => .ok (former, groups, .closing :: rest)
  | fuel + 1, groups, former, .bar :: rest => do
    let (other, groups, rest) ← readUpTo fuel groups .empty rest
    return (.either former other, groups, rest)
  | fuel + 1, groups, former, .repetition _ _ :: rest => readUpTo fuel groups former rest
  | fuel + 1, groups, former, .leaf expression :: rest =>
    let (expression, rest) := withRepetitions expression rest
    readUpTo fuel groups (.both former expression) rest
  | fuel + 1, groups, former, .opening :: rest => do
    let index := groups + 1
    let (body, groups, rest) ← readUpTo fuel index .empty rest
    match rest with
    | .closing :: rest =>
      let (expression, rest) := withRepetitions (.group index body) rest
      readUpTo fuel groups (.both former expression) rest
    | _ => .error "Unmatched ( or \\("

/-- The largest index of a group that is asked for again. -/
def lastAgain (signs : List Sign) : Nat :=
  signs.foldl (fun most sign => match sign with
    | .leaf (.again index) => max most index
    | _ => most) 0

/-- Reads an expression. -/
def ofText (extended : Bool) (text : String) : Except String Expression := do
  let signs ← signsUpTo extended (text.length + 1) none text.toList
  let (expression, groups, rest) ← readUpTo (signs.length + 1) 0 .empty signs
  if !rest.isEmpty then .error "Unmatched ) or \\)"
  else if groups < lastAgain signs then .error "Invalid back reference"
  else .ok expression

/-- The expression that matches a text and nothing else. -/
def literally (text : String) : Expression :=
  text.toList.foldr (fun c rest => .both (.char c) rest) .empty

end Expression

end SignalCatalog.Utilities
