import SignalCatalog.Markup.Element
import SignalCatalog.Workbook.Archive
import SignalCatalog.Workbook.Sheet

/-!
# Reading workbooks

The workbook part lists the sheets, and its links name the part of each. Every sheet is read on its
own, so that one damaged sheet leaves the others readable. Rows and cells without a reference follow
the one before them; references outside the grid are refused.
-/

namespace SignalCatalog.Archive

open Markup Text

/-- The text of a part, if there is such a part. -/
def document? (archive : Archive) (name : String) : Except PartError (Option String) :=
  match archive.get? name with
  | none => .ok none
  | some (.text document) => .ok (some document)
  | some (.bytes _) => .error ⟨name, .notText⟩

/-- The outermost element of a document. -/
def element (name document : String) : Except PartError Element :=
  match Element.read? document with
  | some element => .ok element
  | none => .error ⟨name, .malformed⟩

/-- The text without the dots and slashes that name the folder it is in. -/
def dropHere : List Char → List Char
  | '.' :: '/' :: rest => dropHere rest
  | text => text

/-- The part that a link of the workbook leads to; a link without a slash in front starts from the
folder of the workbook. -/
def linkTarget (target : String) : String :=
  match target.toList with
  | '/' :: rest => String.ofList rest
  | text => "xl/" ++ String.ofList (dropHere text)

/-- The links of the workbook by identifier. -/
def links (root : Element) : List (String × String) :=
  (root.named "Relationship").filterMap fun link =>
    match link.attribute? "Id", link.attribute? "Target" with
    | some id, some target => some (id, linkTarget target)
    | _, _ => none

/-- The names of the sheets and their parts. A sheet without a link has the part of its place. -/
def sheetParts (links : List (String × String)) (root : Element) : List (String × String) :=
  let sheets := match root.named "sheets" with
    | [] => []
    | list :: _ => list.named "sheet"
  sheets.zipIdx.filterMap fun (sheet, index) =>
    (sheet.attribute? "name").map fun name =>
      let linked := (sheet.attributeIn? linkSpace "id").bind fun id => Entries.get? id links
      (name, linked.getD (sheetPart (index + 1)))

def directory (archive : Archive) : Except PartError (List (String × String)) := do
  match ← archive.document? workbookPart with
  | none => .error ⟨workbookPart, .missing⟩
  | some workbook =>
    let linkText ← archive.document? workbookLinksPart
    let root ← element workbookPart workbook
    match linkText with
    | none => .ok (sheetParts [] root)
    | some text =>
      let linkRoot ← element workbookLinksPart text
      .ok (sheetParts (links linkRoot) root)

/-- The text of an item: its own runs and those inside rich runs, without phonetic hints. -/
def richText (item : Element) : String :=
  String.join <| item.childElements.map fun child =>
    if child.name == "t" then child.text?.getD ""
    else if child.name == "r" then
      String.join ((child.named "t").map fun run => run.text?.getD "")
    else ""

/-- The texts that cells share by number. -/
def sharedTexts (archive : Archive) : Except PartError (Array String) := do
  match ← archive.document? sharedTextsPart with
  | none => .ok #[]
  | some text =>
    let root ← element sharedTextsPart text
    .ok ((root.named "si").map richText).toArray

/-- The value of a cell by its type mark. -/
def readCell (shared : Array String) (cell : Element) : Except PartFault Cell :=
  let raw := ((cell.named "v").head?).bind Element.text?
  match (cell.attribute? "t").getD "n" with
  | "s" =>
    match raw with
    | none => .ok .empty
    | some raw =>
      match unsigned? maxWord64 (trim raw.toList) with
      | none => .error (.badIndex raw)
      | some index =>
        match shared[index]? with
        | some text => .ok (.text text)
        | none => .error (.indexOutOfRange index)
  | "inlineStr" => .ok (((cell.named "is").head?.map fun item => .text (richText item)).getD .empty)
  | "str" => .ok ((raw.map .text).getD .empty)
  | "b" => .ok ((raw.map fun raw => .bool (trimmed raw == "1")).getD .empty)
  | "e" => .ok .empty
  | _ =>
    match raw with
    | none => .ok .empty
    | some raw =>
      match Binary64.ofText? (trimmed raw) with
      | some number => .ok (.number number)
      | none => .error (.badNumber raw)

/-- The column of a cell; one without a reference stands in the next column. -/
def columnOf (next : Nat) (cell : Element) : Except PartFault Nat := do
  let column ← match cell.attribute? "r" with
    | none => .ok next
    | some reference =>
      match Reference.read? reference with
      | some (_, column) => .ok column
      | none => .error (.badReference reference)
  if Reference.maxColumns ≤ column then .error .tooManyColumns else .ok column

/-- The index of a row; one without a number follows the last. -/
def rowOf (next : Nat) (row : Element) : Except PartFault Nat := do
  let index ← match row.attribute? "r" with
    | none => .ok next
    | some number =>
      match unsigned? Reference.maxRows (trim number.toList) with
      | some (n + 1) => .ok n
      | _ => .error (.badRow number)
  if Reference.maxRows ≤ index then .error .tooManyRows else .ok index

/-- Puts the cells of a row into a sheet; empty ones leave it as it is. -/
def readCells (shared : Array String) (row : Nat) (sheet : Sheet) (next : Nat) :
    List Element → Except PartFault Sheet
  | [] => .ok sheet
  | element :: rest => do
    let column ← columnOf next element
    let cell ← readCell shared element
    let sheet := if cell.isEmpty then sheet else sheet.set row column cell
    readCells shared row sheet (column + 1) rest

/-- Puts rows into a sheet. -/
def readRows (shared : Array String) (sheet : Sheet) (next : Nat) :
    List Element → Except PartFault Sheet
  | [] => .ok sheet
  | element :: rest => do
    let row ← rowOf next element
    let sheet ← readCells shared row sheet 0 (element.named "c")
    readRows shared sheet (row + 1) rest

/-- The sheet that a markup element describes. -/
def readSheet (shared : Array String) (name : String) (root : Element) : Except PartFault Sheet :=
  match root.named "sheetData" with
  | [] => .ok (.new name)
  | data :: _ => readRows shared (.new name) 0 (data.named "row")

def sheet (archive : Archive) (shared : Array String) (name part : String) :
    Except PartError Sheet := do
  match ← archive.document? part with
  | none => .error ⟨part, .missing⟩
  | some text =>
    let root ← element part text
    match readSheet shared name root with
    | .ok sheet => .ok sheet
    | .error fault => .error ⟨part, fault⟩

/-- Every sheet by name, or what is wrong with it. Of sheets with one name the first counts. -/
def sheets (archive : Archive) : Except PartError (List (String × Except PartError Sheet)) := do
  let entries ← archive.directory
  let shared ← archive.sharedTexts
  .ok (entries.map fun (name, part) => (name, archive.sheet shared name part))

end SignalCatalog.Archive
