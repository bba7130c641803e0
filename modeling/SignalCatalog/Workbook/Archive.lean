import SignalCatalog.OrderedMap
import SignalCatalog.Workbook.Reference

/-!
# The parts of a workbook file

A workbook file is an archive of named parts, each a markup document. A part can be damaged: it is
missing, it is no text, it is no markup, or what the markup says makes no sheet.
-/

namespace SignalCatalog

-- Bytes are compared by the standard library, also where another library brings its own test.
attribute [instance (high)] ByteArray.instDecidableEq

inductive Part
  | text (document : String)
  | bytes (data : ByteArray)
deriving DecidableEq

/-- Named parts in order. -/
structure Archive where
  parts : OrderedMap Part
deriving DecidableEq

namespace Archive

def empty : Archive := ⟨.empty⟩

def get? (archive : Archive) (name : String) : Option Part := archive.parts.get? name

def insert (archive : Archive) (name : String) (part : Part) : Archive :=
  ⟨archive.parts.insert name part⟩

def erase (archive : Archive) (name : String) : Archive := ⟨archive.parts.erase name⟩

def ofPairs (parts : List (String × Part)) : Archive := ⟨.ofPairs parts⟩

end Archive

/-- What is wrong with a part. -/
inductive PartFault
  | missing
  | notText
  | malformed
  | badRow (number : String)
  | tooManyRows
  | badReference (reference : String)
  | tooManyColumns
  | badIndex (text : String)
  | indexOutOfRange (index : Nat)
  | badNumber (text : String)
deriving DecidableEq, Repr

/-- The detail of a fault; markup that is malformed is reported by a fixed mark. -/
def PartFault.detail : PartFault → String
  | missing => ""
  | notText => "stream did not contain valid UTF-8"
  | malformed => "<xml>"
  | badRow number => "bad row number '" ++ number ++ "'"
  | tooManyRows => "more than " ++ Text.number Reference.maxRows ++ " rows"
  | badReference reference => "bad cell reference '" ++ reference ++ "'"
  | tooManyColumns => "more than " ++ Text.number Reference.maxColumns ++ " columns"
  | badIndex text => "bad shared string index '" ++ text ++ "'"
  | indexOutOfRange index => "shared string " ++ Text.number index ++ " out of range"
  | badNumber text => "bad numeric cell '" ++ text ++ "'"

structure PartError where
  part : String
  fault : PartFault
deriving DecidableEq, Repr

def PartError.message (error : PartError) : String :=
  match error.fault with
  | .missing => "Workbook part " ++ error.part ++ " is missing"
  | fault => "Malformed workbook part " ++ error.part ++ ": " ++ fault.detail

/-! The names of the parts and of their namespaces. -/

namespace Archive

def contentTypesPart : String := "[Content_Types].xml"

def packageLinksPart : String := "_rels/.rels"

def workbookPart : String := "xl/workbook.xml"

def workbookLinksPart : String := "xl/_rels/workbook.xml.rels"

def stylesPart : String := "xl/styles.xml"

def sharedTextsPart : String := "xl/sharedStrings.xml"

/-- The part of a sheet, counted from one. -/
def sheetPart (number : Nat) : String := "xl/worksheets/sheet" ++ Text.number number ++ ".xml"

def sheetSpace : String := "http://schemas.openxmlformats.org/spreadsheetml/2006/main"

def linkSpace : String := "http://schemas.openxmlformats.org/officeDocument/2006/relationships"

def packageLinkSpace : String := "http://schemas.openxmlformats.org/package/2006/relationships"

def contentTypesSpace : String :=
  "http://schemas.openxmlformats.org/package/2006/content-types"

end Archive

end SignalCatalog
