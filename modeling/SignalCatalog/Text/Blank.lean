/-!
# Blanks and trimming

The blank characters of the catalog's text fields are those of the Unicode property White_Space.
Names, cells and dates are read after the blanks on both sides have been cut off. The functions on
character lists are the definitions; those on strings only convert.
-/

namespace SignalCatalog.Text

/-- The property White_Space as ascending ranges of code points. -/
def blankRanges : List (Nat × Nat) :=
  [(0x9, 0xD), (0x20, 0x20), (0x85, 0x85), (0xA0, 0xA0), (0x1680, 0x1680), (0x2000, 0x200A),
    (0x2028, 0x2029), (0x202F, 0x202F), (0x205F, 0x205F), (0x3000, 0x3000)]

def isBlank (c : Char) : Bool :=
  blankRanges.any fun range => range.1 ≤ c.toNat && c.toNat ≤ range.2

def trimStart (text : List Char) : List Char := text.dropWhile isBlank

def trimEnd (text : List Char) : List Char := (text.reverse.dropWhile isBlank).reverse

def trim (text : List Char) : List Char := trimEnd (trimStart text)

/-- The text without the blanks on both sides. -/
def trimmed (text : String) : String := String.ofList (trim text.toList)

/-- Whether nothing is left after trimming. -/
def blank (text : String) : Bool := text.toList.all isBlank

/-- What follows `lead`, if the text starts with it. -/
def after? : (lead text : List Char) → Option (List Char)
  | [], text => some text
  | _ :: _, [] => none
  | c :: lead, d :: text => if c = d then after? lead text else none

/-- What stands before `tail`, if the text ends with it. -/
def before? (tail text : List Char) : Option (List Char) :=
  (after? tail.reverse text.reverse).map List.reverse

/-- The parts before and after the first occurrence of a character. -/
def cutAt? (mark : Char) (text : List Char) : Option (List Char × List Char) :=
  match text.dropWhile (· ≠ mark) with
  | [] => none
  | _ :: rest => some (text.takeWhile (· ≠ mark), rest)

/-- The pieces between the occurrences of a character; an empty text is one empty piece. -/
def pieces (mark : Char) : List Char → List (List Char)
  | [] => [[]]
  | c :: rest =>
    if c = mark then [] :: pieces mark rest
    else match pieces mark rest with
      | [] => [[c]]
      | head :: tail => (c :: head) :: tail

end SignalCatalog.Text
