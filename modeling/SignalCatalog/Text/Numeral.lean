/-!
# Decimal numerals

Natural numbers as runs of ASCII digits, in both directions. A numeral that is read may have leading
zeros; one that is written has none.
-/

namespace SignalCatalog.Text

def digitChar (d : Nat) : Char := Char.ofNat (48 + d)

def digitValue (c : Char) : Nat := c.toNat - 48

/-- The last `fuel` digits of a number, highest first, without leading zeros. -/
def lowDigits : Nat → Nat → List Char
  | 0, _ => []
  | fuel + 1, n =>
    if n < 10 then [digitChar n] else lowDigits fuel (n / 10) ++ [digitChar (n % 10)]

/-- The decimal digits of a number; a number has at most as many digits as units, and one more. -/
def digits (n : Nat) : List Char := lowDigits (n + 1) n

/-- The number that a run of digits denotes. -/
def valueOf (run : List Char) : Nat :=
  run.foldl (fun n c => 10 * n + digitValue c) 0

/-- A non-empty run of digits and nothing else. -/
def natural? (text : List Char) : Option Nat :=
  if text.isEmpty || !text.all Char.isDigit then none else some (valueOf text)

/-- A non-empty run of digits, after an optional plus sign, of a number up to `limit`. -/
def unsigned? (limit : Nat) (text : List Char) : Option Nat := do
  let n ← natural? (match text with | '+' :: rest => rest | _ => text)
  if n ≤ limit then some n else none

/-- The largest number of 32 bits. -/
def maxWord32 : Nat := 4294967295

/-- The largest number of 64 bits. -/
def maxWord64 : Nat := 18446744073709551615

/-- The number as text. -/
def number (n : Nat) : String := String.ofList (digits n)

/-- An integer as text, with a minus sign where it is negative. -/
def integer (n : Int) : String :=
  if n < 0 then "-" ++ number n.natAbs else number n.natAbs

/-- The digits of a number with zeros in front, up to a width. -/
def padded (width n : Nat) : String :=
  let run := digits n
  String.ofList (List.replicate (width - run.length) '0' ++ run)

end SignalCatalog.Text
