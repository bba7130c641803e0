import SignalCatalog.Text.Numeral

/-!
# Cell references

A reference names a cell by letters for the column and a number for the row, `A1` being the first
cell. The letters count in base 26 with the digits one to twenty-six, so that every column has one
word and every word of letters a column.
-/

namespace SignalCatalog.Reference

open SignalCatalog.Text

def maxRows : Nat := 1048576

def maxColumns : Nat := 16384

def letter (n : Nat) : Char := Char.ofNat (65 + n)

/-- The letters of a column, put in front of `done`; a column has fewer letters than its number. -/
def lettersFrom : (fuel column : Nat) → (done : List Char) → List Char
  | 0, _, done => done
  | fuel + 1, column, done =>
    let done := letter (column % 26) :: done
    if column < 26 then done else lettersFrom fuel (column / 26 - 1) done

/-- The letters of a column that is counted from zero. -/
def columnLetters (column : Nat) : List Char := lettersFrom (column + 1) column []

/-- The reference of a cell whose row and column are counted from zero. -/
def text (row column : Nat) : String :=
  String.ofList (columnLetters column ++ digits (row + 1))

/-- The value of a letter as a digit, from 1 on. -/
def letterValue (c : Char) : Nat := c.toUpper.toNat - 64

/-- The number that a word of letters denotes; the first column has the number one. -/
def columnNumber (word : List Char) : Nat := word.foldl (fun n c => 26 * n + letterValue c) 0

/-- The row and column, from zero, of a reference inside the grid: letters, then digits. -/
def read? (reference : String) : Option (Nat × Nat) := do
  let word := reference.toList.takeWhile fun c => !c.isDigit
  let run := reference.toList.dropWhile fun c => !c.isDigit
  let row ← natural? run
  let column := columnNumber word
  if word.isEmpty || !word.all Char.isAlpha || maxColumns < column then none
  else if row = 0 || maxRows < row then none
  else some (row - 1, column - 1)

end SignalCatalog.Reference
