import SignalCatalog.Workbook.Cell

/-!
# Sheets

A sheet is a named list of rows of cells, counted from zero. Outside of what has been written every
cell is empty. Writing a cell grows the sheet as far as the cell needs.
-/

namespace SignalCatalog

abbrev Row := Array Cell

/-- At least `size` items; new ones are `item`. -/
def grown {α : Type} (item : α) (size : Nat) (items : Array α) : Array α :=
  items ++ Array.replicate (size - items.size) item

namespace Row

def cell (row : Row) (column : Nat) : Cell := row[column]?.getD .empty

def set (row : Row) (column : Nat) (cell : Cell) : Row :=
  (grown .empty (column + 1) row).setIfInBounds column cell

/-- Whether no cell has been written with a value. -/
def isEmpty (row : Row) : Bool := row.all Cell.isEmpty

end Row

structure Sheet where
  name : String
  rows : Array Row
deriving DecidableEq

namespace Sheet

def new (name : String) : Sheet := ⟨name, #[]⟩

def cell (sheet : Sheet) (row column : Nat) : Cell :=
  match sheet.rows[row]? with
  | some cells => Row.cell cells column
  | none => .empty

def set (sheet : Sheet) (row column : Nat) (cell : Cell) : Sheet :=
  let rows := grown #[] (row + 1) sheet.rows
  { sheet with rows := rows.modify row fun cells => Row.set cells column cell }

/-- Writes cells side by side from a column on. -/
def setRow (sheet : Sheet) (row column : Nat) : List Cell → Sheet
  | [] => sheet
  | cell :: rest => (sheet.set row column cell).setRow row (column + 1) rest

/-- The cells that are not empty with their rows and columns, row by row. -/
def filled (sheet : Sheet) : List (Nat × Nat × Cell) :=
  sheet.rows.toList.zipIdx.flatMap fun (row, index) =>
    row.toList.zipIdx.filterMap fun (cell, column) =>
      if cell.isEmpty then none else some (index, column, cell)

/-- The first row, which holds the headers. -/
def header (sheet : Sheet) : Row := sheet.rows[0]?.getD #[]

/-- The rows below the header with their indices. -/
def body (sheet : Sheet) : List (Row × Nat) := sheet.rows.toList.zipIdx.drop 1

/-- The first column, from a column on, whose header is a text. -/
def columnFrom? (sheet : Sheet) (start : Nat) (title : String) : Option Nat :=
  ((sheet.header.toList.drop start).findIdx? fun cell => cell.text? = some title).map (start + ·)

/-- The texts of the first row with their columns, in order. -/
def titles (sheet : Sheet) : List (String × Nat) :=
  sheet.header.toList.zipIdx.filterMap fun (cell, column) =>
    cell.text?.map fun title => (title, column)

end Sheet

/-- Sheets in order. -/
structure Workbook where
  sheets : List Sheet
deriving DecidableEq

/-- The first sheet of a name. -/
def Workbook.sheet? (workbook : Workbook) (name : String) : Option Sheet :=
  workbook.sheets.find? fun sheet => sheet.name == name

end SignalCatalog
