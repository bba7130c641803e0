import SignalCatalog.Markup.Tree

/-!
# Writing markup

Elements are written without any blank between them; one without children closes itself unless it
may hold text. The five characters that have names are always written by name.
-/

namespace SignalCatalog.Markup

def escapedChar (c : Char) : List Char :=
  if c = '&' then "&amp;".toList
  else if c = '<' then "&lt;".toList
  else if c = '>' then "&gt;".toList
  else if c = '"' then "&quot;".toList
  else if c = '\'' then "&apos;".toList
  else [c]

def escaped (text : String) : List Char := text.toList.flatMap escapedChar

def Name.chars (name : Name) : List Char :=
  if name.label.isEmpty then name.base.toList
  else name.label.toList ++ ':' :: name.base.toList

def writeAttribute (item : Name × String) : List Char :=
  ' ' :: item.1.chars ++ ['=', '"'] ++ escaped item.2 ++ ['"']

def writeTag (name : Name) (attributes : List (Name × String)) : List Char :=
  '<' :: name.chars ++ attributes.flatMap writeAttribute

mutual

def Node.write : Node → List Char
  | .element name attributes [] => writeTag name attributes ++ ['/', '>']
  | .element name attributes (child :: rest) =>
    writeTag name attributes ++ '>' :: child.write ++ writeNodes rest ++
      '<' :: '/' :: name.chars ++ ['>']
  | .text text => escaped text
  | .comment => "<!---->".toList
  | .instruction => "<?none?>".toList

def writeNodes : List Node → List Char
  | [] => []
  | node :: rest => node.write ++ writeNodes rest

end

def declaration : String :=
  "<?xml version=\"1.0\" encoding=\"UTF-8\" standalone=\"yes\"?>"

/-- A document with one outermost element. -/
def document (root : Node) : String := declaration ++ String.ofList root.write

end SignalCatalog.Markup
