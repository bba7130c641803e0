import SignalCatalog.Binary64
import SignalCatalog.Text.Ascii
import SignalCatalog.Text.Numeral

/-!
# Reading doubles from text

A numeral is an optional sign, digits with an optional point on either side or among them, and an
optional exponent; or one of the words for infinity and NaN in any case. The double nearest to the
number is read. Blanks are not skipped.
-/

namespace SignalCatalog.Binary64

open SignalCatalog.Text

/-- The sign in front, and what follows it. -/
def takeSign : List Char → Bool × List Char
  | '-' :: rest => (true, rest)
  | '+' :: rest => (false, rest)
  | text => (false, text)

/-- The exponent part of a numeral, from its mark on; zero if there is none. -/
def exponentPart? : List Char → Option Int
  | [] => some 0
  | mark :: rest =>
    if mark = 'e' ∨ mark = 'E' then
      let (negative, run) := takeSign rest
      (natural? run).map fun n => if negative then -(n : Int) else n
    else none

/-- A numeral without its sign. -/
def magnitude? (negative : Bool) (text : List Char) : Option Binary64 := do
  let before := text.takeWhile Char.isDigit
  let rest := text.dropWhile Char.isDigit
  let (after, rest) := match rest with
    | '.' :: rest => (rest.takeWhile Char.isDigit, rest.dropWhile Char.isDigit)
    | _ => ([], rest)
  if before.isEmpty && after.isEmpty then none
  else
    let exponent ← exponentPart? rest
    some (ofDecimal negative (valueOf (before ++ after)) (exponent - after.length))

def ofChars? (text : List Char) : Option Binary64 :=
  let (negative, rest) := takeSign text
  let word := String.ofList (lower rest)
  if word == "inf" || word == "infinity" then some (.infinite negative)
  else if word == "nan" then some .nan
  else magnitude? negative rest

def ofText? (text : String) : Option Binary64 := ofChars? text.toList

end SignalCatalog.Binary64
