import SignalCatalog.Summary

/-!
# Drawing tables

A table is drawn with rules around it and below its header; each column is as wide as its longest
cell.
-/

namespace SignalCatalog.Table

/-- The widths of the columns. -/
def widths (table : Table) : List Nat :=
  table.lines.foldl (fun widths row => List.zipWith max widths (row.map String.length))
    (table.header.map fun _ => 0)

def padded (width : Nat) (text : String) : String :=
  text ++ String.ofList (List.replicate (width - text.length) ' ')

def drawnRow (widths : List Nat) (row : List String) : String :=
  "│ " ++ " ┆ ".intercalate (List.zipWith padded widths row) ++ " │"

def drawnRule (left line cross right : String) (widths : List Nat) : String :=
  left ++ cross.intercalate (widths.map fun width =>
    String.join (List.replicate (width + 2) line)) ++ right

/-- The lines of the drawn table. -/
def drawn (table : Table) : List String :=
  let widths := table.widths
  let row := drawnRow widths
  [drawnRule "╭" "─" "┬" "╮" widths] ++ (rowLines table.header).map row ++
    [drawnRule "╞" "═" "╪" "╡" widths] ++ (table.rows.flatMap rowLines).map row ++
    [drawnRule "╰" "─" "┴" "╯" widths]

end SignalCatalog.Table
