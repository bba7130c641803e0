/-!
# Patterns of a shell

A pattern is a text in which some characters have a meaning: a star stands for any text, a question mark
for any character, and brackets for one of some characters. A character that was quoted stands for
itself.
-/

namespace SignalCatalog.Shell

/-- A character of a text, and whether it may have a meaning in a pattern. -/
abbrev Letter := Char × Bool

/-- What can stand in the brackets of a pattern. -/
inductive Member
  | range (first last : Char)
  | kind (name : String)
deriving DecidableEq

inductive Matcher
  | char (c : Char)
  | any
  | star
  | oneOf (negated : Bool) (members : List Member)
deriving DecidableEq

abbrev Pattern := List Matcher

namespace Member

/-- Whether a character is of a named kind. Only ASCII has kinds. -/
def isOfKind (name : String) (c : Char) : Bool :=
  let isPrinted := 0x21 ≤ c.toNat && c.toNat ≤ 0x7E
  match name with
  | "alpha" => c.isAlpha
  | "digit" => c.isDigit
  | "alnum" => c.isAlphanum
  | "upper" => c.isUpper
  | "lower" => c.isLower
  | "space" => c = ' ' || (9 ≤ c.toNat && c.toNat ≤ 13)
  | "blank" => c = ' ' || c = '\t'
  | "punct" => isPrinted && !c.isAlphanum
  | "graph" => isPrinted
  | "print" => isPrinted || c = ' '
  | "cntrl" => c.toNat < 0x20 || c.toNat = 0x7F
  | "xdigit" => c.isDigit || ('a' ≤ c && c ≤ 'f') || ('A' ≤ c && c ≤ 'F')
  | _ => false

def holds (c : Char) : Member → Bool
  | range first last => first ≤ c && c ≤ last
  | kind name => isOfKind name c

end Member

namespace Pattern

/-- The name of a kind of characters behind its opening, and what follows. -/
def kind? (text : List Letter) : Option (String × List Letter) :=
  let name := text.takeWhile fun letter => letter.1.isAlpha
  match text.drop name.length with
  | (':', _) :: (']', _) :: rest => some (String.ofList (name.map Prod.fst), rest)
  | _ => none

/-- The members in brackets up to the closing one, and what follows. -/
def members? : (fuel : Nat) → (first : Bool) → List Letter → Option (List Member × List Letter)
  | 0, _, _ => none
  | _ + 1, _, [] => none
  | fuel + 1, first, (c, active) :: rest =>
    if c = ']' && active && !first then some ([], rest)
    else
      let named := match c, rest with
        | '[', (':', _) :: more => kind? more
        | _, _ => none
      match named with
      | some (name, rest) =>
        (members? fuel false rest).map fun (found, rest) => (.kind name :: found, rest)
      | none =>
        match rest with
        | ('-', true) :: (last, lastActive) :: more =>
          if last = ']' && lastActive then
            (members? fuel false rest).map fun (found, rest) => (.range c c :: found, rest)
          else
            (members? fuel false more).map fun (found, rest) => (.range c last :: found, rest)
        | _ => (members? fuel false rest).map fun (found, rest) => (.range c c :: found, rest)

/-- What stands in brackets behind the opening one, and what follows. -/
def brackets? (text : List Letter) : Option (Matcher × List Letter) :=
  let (negated, text) := match text with
    | ('!', true) :: rest => (true, rest)
    | text => (false, text)
  (members? (text.length + 1) true text).map fun (members, rest) => (.oneOf negated members, rest)

/-- Reads letters; `fuel` bounds their number. -/
def readUpTo : (fuel : Nat) → List Letter → Pattern
  | 0, _ | _, [] => []
  | fuel + 1, (c, active) :: rest =>
    if !active then .char c :: readUpTo fuel rest
    else if c = '*' then .star :: readUpTo fuel rest
    else if c = '?' then .any :: readUpTo fuel rest
    else if c = '[' then
      match brackets? rest with
      | some (found, rest) => found :: readUpTo fuel rest
      | none => .char c :: readUpTo fuel rest
    else .char c :: readUpTo fuel rest

def ofLetters (text : List Letter) : Pattern := readUpTo text.length text

/-- The pattern of a text without quotes, in which a backslash quotes. -/
def lettersOf : List Char → List Letter
  | '\\' :: c :: rest => (c, false) :: lettersOf rest
  | c :: rest => (c, true) :: lettersOf rest
  | [] => []

def ofText (text : String) : Pattern := ofLetters (lettersOf text.toList)

/-- A text and all its ends. -/
def ends : List Char → List (List Char)
  | [] => [[]]
  | c :: rest => (c :: rest) :: ends rest

def isMatch : Pattern → List Char → Bool
  | [], text => text.isEmpty
  | .star :: rest, text => (ends text).any (isMatch rest)
  | .any :: rest, text =>
    match text with
    | [] => false
    | _ :: text => isMatch rest text
  | .char c :: rest, text =>
    match text with
    | [] => false
    | d :: text => c = d && isMatch rest text
  | .oneOf negated members :: rest, text =>
    match text with
    | [] => false
    | d :: text => (members.any (Member.holds d) != negated) && isMatch rest text

def isSpecial (letter : Letter) : Bool := letter.2 && "*?[".toList.contains letter.1

/-- A text without its shortest or longest start that matches. -/
def dropStart (pattern : Pattern) (longest : Bool) (text : List Char) : List Char :=
  let lengths := List.range (text.length + 1)
  let lengths := if longest then lengths.reverse else lengths
  match lengths.find? fun n => pattern.isMatch (text.take n) with
  | some n => text.drop n
  | none => text

/-- A text without its shortest or longest end that matches. -/
def dropEnd (pattern : Pattern) (longest : Bool) (text : List Char) : List Char :=
  let lengths := List.range (text.length + 1)
  let lengths := if longest then lengths else lengths.reverse
  match lengths.find? fun n => pattern.isMatch (text.drop n) with
  | some n => text.take n
  | none => text

end Pattern

end SignalCatalog.Shell
