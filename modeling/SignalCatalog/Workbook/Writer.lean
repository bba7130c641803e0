import SignalCatalog.Markup.Printer
import SignalCatalog.Workbook.Archive
import SignalCatalog.Workbook.Sheet

/-!
# Writing workbooks

A workbook is written as an archive: the list of content types, the links between the parts, the
workbook with its sheet names, a fixed style sheet, and one part for each sheet. Texts stand in their
cells; the first row has the header style. A column is as wide as its longest text and two more.
-/

namespace SignalCatalog.Workbook

open Markup

/-- An element without a namespace label. -/
def tag (name : String) (attributes : List (String × String)) (children : List Node) : Node :=
  .element (.plain name) (attributes.map fun (key, value) => (.plain key, value)) children

/-- The content of an element that is never written as a closed tag. -/
def openContent (children : List Node) : List Node :=
  if children.isEmpty then [.text ""] else children

/-- An outermost element whose names without label are in a namespace. -/
def root (name space : String) (more : List (Name × String)) (children : List Node) : Node :=
  .element (.plain name) ((.plain "xmlns", space) :: more) (openContent children)

/-- The declaration of the label of links. -/
def linkLabel : Name × String := (⟨"xmlns", "r"⟩, Archive.linkSpace)

/-! ## The directory of the archive -/

def officeType : String := "application/vnd.openxmlformats-officedocument.spreadsheetml."

/-- The numbers of the sheets, from one on. -/
def numbers (count : Nat) : List Nat := (List.range count).map (· + 1)

def contentTypes (count : Nat) : Node :=
  let default (extension type : String) : Node :=
    tag "Default" [("Extension", extension), ("ContentType", type)] []
  let override (part type : String) : Node :=
    tag "Override" [("PartName", "/" ++ part), ("ContentType", officeType ++ type ++ "+xml")] []
  root "Types" Archive.contentTypesSpace [] <|
    [default "rels" "application/vnd.openxmlformats-package.relationships+xml",
      default "xml" "application/xml",
      override Archive.workbookPart "sheet.main", override Archive.stylesPart "styles"] ++
    (numbers count).map fun n => override (Archive.sheetPart n) "worksheet"

/-- The identifier of a link. -/
def linkId (n : Nat) : String := "rId" ++ Text.number n

def link (id kind target : String) : Node :=
  tag "Relationship"
    [("Id", id), ("Type", Archive.linkSpace ++ "/" ++ kind), ("Target", target)] []

def packageLinks : Node :=
  root "Relationships" Archive.packageLinkSpace []
    [link (linkId 1) "officeDocument" Archive.workbookPart]

/-- The links of the workbook: the sheets in order, then the styles. -/
def workbookLinks (count : Nat) : Node :=
  root "Relationships" Archive.packageLinkSpace [] <|
    ((numbers count).map fun n =>
      link (linkId n) "worksheet" ("worksheets/sheet" ++ Text.number n ++ ".xml")) ++
    [link (linkId (count + 1)) "styles" "styles.xml"]

/-- The entry of a sheet, counted from one. -/
def sheetEntry (name : String) (n : Nat) : Node :=
  .element (.plain "sheet")
    [(.plain "name", name), (.plain "sheetId", Text.number n), (⟨"r", "id"⟩, linkId n)] []

def directory (workbook : Workbook) : Node :=
  root "workbook" Archive.sheetSpace [linkLabel]
    [tag "sheets" [] (openContent
      ((workbook.sheets.zip (numbers workbook.sheets.length)).map fun (sheet, n) =>
        sheetEntry sheet.name n))]

/-! ## The style sheet -/

/-- A list element with its length. -/
def counted (name : String) (items : List Node) : Node :=
  tag name [("count", Text.number items.length)] items

def font (bold : Bool) : Node :=
  tag "font" [] <| (if bold then [tag "b" [] []] else []) ++
    [tag "sz" [("val", "11")] [], tag "name" [("val", "Calibri")] []]

def patternFill (pattern : String) : Node :=
  tag "fill" [] [tag "patternFill" [("patternType", pattern)] []]

def solidFill (colour : String) : Node :=
  tag "fill" [] [tag "patternFill" [("patternType", "solid")]
    [tag "fgColor" [("rgb", colour)] [], tag "bgColor" [("indexed", "64")] []]]

def border (style : List (String × String)) : Node :=
  tag "border" [] <|
    ["left", "right", "top", "bottom"].map (fun side => tag side style []) ++
      [tag "diagonal" [] []]

/-- The numbers of font, fill and border of a cell format. -/
def formatKey (font fill border : Nat) : List (String × String) :=
  [("numFmtId", "0"), ("fontId", Text.number font), ("fillId", Text.number fill),
    ("borderId", Text.number border)]

/-- A centred cell format; `applied` names what it sets. -/
def centred (key : List (String × String)) (applied : List String) : Node :=
  tag "xf" (key ++ ("xfId", "0") :: applied.map fun item => ("apply" ++ item, "1"))
    [tag "alignment" [("horizontal", "center"), ("vertical", "center")] []]

/-- The number of the format of header cells: bold on green. -/
def headerStyle : String := "1"

/-- The number of the format of all other cells: grey. -/
def dataStyle : String := "2"

def styles : Node :=
  root "styleSheet" Archive.sheetSpace []
    [counted "fonts" [font false, font true],
      counted "fills" [patternFill "none", patternFill "gray125", solidFill "FFC6EFCE",
        solidFill "FFC0C0C0"],
      counted "borders" [border [], border [("style", "thin")]],
      counted "cellStyleXfs" [tag "xf" (formatKey 0 0 0) []],
      counted "cellXfs"
        [tag "xf" (formatKey 0 0 0 ++ [("xfId", "0")]) [],
          centred (formatKey 1 2 1) ["Font", "Fill", "Border", "Alignment"],
          centred (formatKey 0 3 1) ["Fill", "Border", "Alignment"]],
      counted "cellStyles"
        [tag "cellStyle" [("name", "Normal"), ("xfId", "0"), ("builtinId", "0")] []]]

/-! ## Sheets -/

/-- The longer of the two widths of each column. -/
def widest : List Nat → List Nat → List Nat
  | [], widths => widths
  | widths, [] => widths
  | a :: rest, b :: more => max a b :: widest rest more

/-- The number of characters of the longest text of each column. -/
def columnWidths (sheet : Sheet) : List Nat :=
  sheet.rows.foldl (fun widths row =>
    widest widths (row.toList.map fun cell => ((cell.text?.map String.length).getD 0))) []

def columns (widths : List Nat) : List Node :=
  if widths.all (· == 0) then []
  else
    [tag "cols" [] <| (widths.zip (numbers widths.length)).filterMap fun (width, n) =>
      if width = 0 then none
      else some (tag "col" [("min", Text.number n), ("max", Text.number n),
        ("width", Text.number (width + 2)), ("customWidth", "1")] [])]

/-- A text with blanks at an end is marked, so that they are kept. -/
def textContent (text : String) : Node :=
  .element (.plain "t")
    (if Text.trimmed text == text then [] else [(⟨"xml", "space"⟩, "preserve")]) [.text text]

/-- The element of a cell, if it holds a value. -/
def cellNode? (reference style : String) : Cell → Option Node
  | .empty => none
  | .text value => some <|
    tag "c" [("r", reference), ("s", style), ("t", "inlineStr")]
      [tag "is" [] [textContent value]]
  | .number value => some <|
    tag "c" [("r", reference), ("s", style)]
      [tag "v" [] [.text (value.text Binary64.plainLayout)]]
  | .bool value => some <|
    tag "c" [("r", reference), ("s", style), ("t", "b")]
      [tag "v" [] [.text (if value then "1" else "0")]]

/-- The element of a row, if it has a cell with a value. -/
def rowNode? (row : Row) (index : Nat) : Option Node :=
  if Row.isEmpty row then none
  else
    let style := if index = 0 then headerStyle else dataStyle
    some <| tag "row" [("r", Text.number (index + 1))] <|
      row.toList.zipIdx.filterMap fun (cell, column) =>
        cellNode? (Reference.text index column) style cell

def sheetNode (sheet : Sheet) : Node :=
  root "worksheet" Archive.sheetSpace [linkLabel] <|
    columns (columnWidths sheet) ++
      [tag "sheetData" [] <| openContent <|
        sheet.rows.toList.zipIdx.filterMap fun (row, index) => rowNode? row index]

/-- The archive of a workbook. -/
def toArchive (workbook : Workbook) : Archive :=
  let count := workbook.sheets.length
  let part (root : Node) : Part := .text (document root)
  .ofPairs <|
    [(Archive.contentTypesPart, part (contentTypes count)),
      (Archive.packageLinksPart, part packageLinks),
      (Archive.workbookPart, part workbook.directory),
      (Archive.workbookLinksPart, part (workbookLinks count)),
      (Archive.stylesPart, part styles)] ++
    (workbook.sheets.zip (numbers count)).map fun (sheet, n) =>
      (Archive.sheetPart n, part (sheetNode sheet))

end SignalCatalog.Workbook
