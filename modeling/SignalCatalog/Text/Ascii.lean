/-!
# Letter case

Closed sets of words are compared without regard to the case of ASCII letters; every other
character stands for itself only.
-/

namespace SignalCatalog.Text

def lower (text : List Char) : List Char := text.map Char.toLower

def upper (text : List Char) : List Char := text.map Char.toUpper

/-- The text with its ASCII capitals made small. -/
def lowered (text : String) : String := String.ofList (lower text.toList)

def sameIgnoringCase (a b : String) : Bool := lower a.toList == lower b.toList

/-- A letter, a digit or an underscore, and no digit in front. -/
def isIdentifier (text : String) : Bool :=
  match text.toList with
  | [] => false
  | first :: rest =>
    (first.isAlpha || first == '_') && rest.all fun c => c.isAlphanum || c == '_'

end SignalCatalog.Text
