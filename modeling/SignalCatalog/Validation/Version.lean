import SignalCatalog.Text.Blank
import SignalCatalog.Text.Numeral

/-!
# Version numbers

A version is a decimal number of any length: digits, or digits with a point and at least one digit
after it. Versions are compared as decimals, digit by digit, so that `1.10` is below `1.9`.
-/

namespace SignalCatalog

/-- A decimal without leading zeros before the point and without final zeros after it. -/
structure Version where
  whole : List Char
  fraction : List Char
deriving DecidableEq, Repr

namespace Version

def dropZeros (run : List Char) : List Char := run.dropWhile (· = '0')

def dropFinalZeros (run : List Char) : List Char := (dropZeros run.reverse).reverse

/-- The digits before and after the point of a trimmed decimal. -/
def parts? (text : List Char) : Option (List Char × List Char) :=
  match Text.cutAt? '.' text with
  | none => if text.isEmpty || !text.all Char.isDigit then none else some (text, [])
  | some (whole, fraction) =>
    if fraction.isEmpty || !whole.all Char.isDigit || !fraction.all Char.isDigit then none
    else some (whole, fraction)

def ofText? (text : String) : Option Version :=
  (parts? (Text.trim text.toList)).map fun (whole, fraction) =>
    ⟨dropZeros whole, dropFinalZeros fraction⟩

/-- Whether a run of digits is before another in the order of words. -/
def wordBefore : List Char → List Char → Bool
  | _, [] => false
  | [], _ :: _ => true
  | c :: a, d :: b => c.toNat < d.toNat || (c.toNat == d.toNat && wordBefore a b)

/-- Whether a version is below another: fewer digits before the point, or the same number of digits
and the smaller ones first. -/
def below (a b : Version) : Bool :=
  a.whole.length < b.whole.length || (a.whole.length == b.whole.length &&
    (wordBefore a.whole b.whole || (a.whole == b.whole && wordBefore a.fraction b.fraction)))

end Version

end SignalCatalog
