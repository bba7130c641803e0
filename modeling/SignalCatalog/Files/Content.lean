import SignalCatalog.Files.Error
import SignalCatalog.Packing.Container

/-!
# Contents of files

A file holds a text, the parts of a workbook, or bytes that are no text. An archive is also known by
its bytes.
-/

namespace SignalCatalog

inductive Content
  | text (text : String)
  | bytes (data : ByteArray)
  | archive (archive : Archive)
deriving DecidableEq

namespace Content

instance : Inhabited Content := ⟨text ""⟩

/-- The content with given bytes. -/
def ofBytes (data : ByteArray) : Content :=
  match String.fromUTF8? data with
  | some document => .text document
  | none => .bytes data

def toBytes : Content → ByteArray
  | .text document => document.toUTF8
  | .bytes data => data
  | .archive parts => Packing.encode parts

/-- The content with bytes behind it. -/
def append (content : Content) (data : ByteArray) : Content :=
  if data.isEmpty then content else ofBytes (content.toBytes ++ data)

def text? : Content → Option String
  | .text document => some document
  | _ => none

def archive? : Content → Option Archive
  | .archive parts => some parts
  | content => Packing.decode? content.toBytes

end Content

end SignalCatalog
