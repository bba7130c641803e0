import SignalCatalog.Binary64.Reading
import SignalCatalog.Binary64.Shortest
import SignalCatalog.Text.Blank

/-!
# Cells

A cell of a sheet is empty or holds a text, a number or a truth value. Every cell can be asked for a
trimmed text and for a number.
-/

namespace SignalCatalog

inductive Cell
  | empty
  | text (value : String)
  | number (value : Binary64)
  | bool (value : Bool)
deriving DecidableEq

namespace Cell

instance : Inhabited Cell := ⟨empty⟩

def yesNo (on : Bool) : Cell := text (if on then "Yes" else "No")

def isEmpty : Cell → Bool
  | empty => true
  | _ => false

/-- Empty, or a text of blanks only. -/
def isBlank : Cell → Bool
  | empty => true
  | text value => Text.blank value
  | number _ | bool _ => false

/-- Whole numbers below this magnitude are shown as integers. -/
def wholeLimit : Nat := 1000000000000000

/-- A number as text; whole numbers have no point, and zero no sign. -/
def numberText (value : Binary64) : String :=
  match value.whole? with
  | some n => if n.natAbs < wholeLimit then Text.integer n else value.text Binary64.plainLayout
  | none => value.text Binary64.plainLayout

/-- The trimmed text of a cell that is not blank. -/
def text? : Cell → Option String
  | empty => none
  | text value => let word := Text.trimmed value; if word.isEmpty then none else some word
  | number value => some (numberText value)
  | bool value => some (if value then "TRUE" else "FALSE")

/-- The number in a cell, also one written as text; a truth value counts as one or zero. -/
def number? : Cell → Option Binary64
  | empty => none
  | text value => Binary64.ofText? (Text.trimmed value)
  | number value => some value
  | bool value => some (Binary64.ofNat (if value then 1 else 0))

end Cell

end SignalCatalog
