import SignalCatalog.Text.Numeral
import SignalCatalog.Text.Quoted

/-!
# Events

What the library reports while it works. An operation returns its events in order; where they are
written, and which of them, is decided by the reader of the list.
-/

namespace SignalCatalog.Log

inductive Level
  | error
  | warn
  | info
  | debug
  | trace
deriving DecidableEq, Repr

/-- The part of the library that an event comes from. -/
inductive Origin
  | program
  | commandLine
  | generation
  | editing
  | catalog
  | storage
  | validation
  | workbook
deriving DecidableEq, Repr

/-- The value of a field of an event. -/
inductive Value
  /-- Shown as it is. -/
  | shown (text : String)
  /-- Shown in quotes on a line of text. -/
  | quoted (text : String)
  | count (n : Nat)
deriving DecidableEq, Repr

/-- A number that may be absent. -/
def Value.optional : Option Nat → Value
  | some n => .shown ("Some(" ++ Text.number n ++ ")")
  | none => .shown "None"

structure Event where
  level : Level
  origin : Origin
  message : String
  fields : List (String × Value)
deriving DecidableEq, Repr

/-- A result with the events on the way to it. -/
abbrev Reported (ε α : Type) := Except ε α × List Event

end SignalCatalog.Log
