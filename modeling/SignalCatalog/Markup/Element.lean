import SignalCatalog.Markup.Tree

/-!
# Elements with resolved names

In a document, labels stand for namespaces that are declared by attributes. `Element.ofNode?` looks
them up: a label without a declaration, a repeated declaration, a repeated attribute and a misuse of
the two reserved namespaces are refused. Elements are found by their names without label, attributes
by namespace and name.
-/

namespace SignalCatalog.Markup

/-- An attribute; one without label has no namespace. -/
structure Attribute where
  space : Option String
  name : String
  value : String
deriving DecidableEq, Repr

mutual

inductive Element
  | mk (name : String) (attributes : List Attribute) (children : List Child)

inductive Child
  | element (element : Element)
  | text (text : String)
  | other

end

def labelSpace : String := "http://www.w3.org/2000/xmlns/"

def languageSpace : String := "http://www.w3.org/XML/1998/namespace"

/-- The declarations in force: labels with their namespaces, the innermost first. -/
abbrev Scope := List (String × String)

/-- The declarations among the attributes of a tag. The empty label declares the namespace of names
without label. -/
def declarations? (found : Scope) : List (Name × String) → Option Scope
  | [] => some found
  | (name, value) :: rest =>
    if name.label == "xmlns" then
      if value == labelSpace || (name.base == "xml") != (value == languageSpace) ||
          found.any fun entry => entry.1 == name.base then none
      else if value == languageSpace then declarations? found rest
      else declarations? (found ++ [(name.base, value)]) rest
    else if name.base == "xmlns" then
      if value == labelSpace || value == languageSpace then none
      else declarations? (found ++ [("", value)]) rest
    else declarations? found rest

/-- The attributes of a tag that are no declarations, with their namespaces. -/
def resolveAttributes? (scope : Scope) (found : List Attribute) :
    List (Name × String) → Option (List Attribute)
  | [] => some found
  | (name, value) :: rest =>
    if name.label == "xmlns" || name.base == "xmlns" then resolveAttributes? scope found rest
    else do
      let space ← if name.label == "xml" then some (some languageSpace)
        else if name.label.isEmpty then some none
        else (Entries.get? name.label scope).map some
      if found.any fun a => a.space = space && a.name == name.base then none
      else resolveAttributes? scope (found ++ [⟨space, name.base, value⟩]) rest

namespace Element

mutual

/-- Resolves the names of an element and of all below it. -/
def ofNode? (scope : Scope) : Node → Option Child
  | .element name attributes children => do
    let declared ← declarations? [] attributes
    let scope := declared ++ scope
    let attributes ← resolveAttributes? scope [] attributes
    if !name.label.isEmpty && (name.label == "xmlns" || (Entries.get? name.label scope).isNone) then
      none
    else some (.element (.mk name.base attributes (← ofNodes? scope children)))
  | .text text => some (.text text)
  | .comment => some .other
  | .instruction => some .other

def ofNodes? (scope : Scope) : List Node → Option (List Child)
  | [] => some []
  | node :: rest => do
    let child ← ofNode? scope node
    some (child :: (← ofNodes? scope rest))

end

def name : Element → String
  | mk name _ _ => name

def attributes : Element → List Attribute
  | mk _ attributes _ => attributes

def children : Element → List Child
  | mk _ _ children => children

/-- The value of an attribute without namespace. -/
def attribute? (element : Element) (name : String) : Option String :=
  (element.attributes.find? fun a => a.space.isNone && a.name == name).map Attribute.value

/-- The value of an attribute of a namespace. -/
def attributeIn? (element : Element) (space name : String) : Option String :=
  (element.attributes.find? fun a => a.space == some space && a.name == name).map Attribute.value

def childElements (element : Element) : List Element :=
  element.children.filterMap fun child =>
    match child with
    | .element e => some e
    | _ => none

/-- The elements of a name among the children. -/
def named (element : Element) (name : String) : List Element :=
  element.childElements.filter fun child => child.name == name

/-- The text of an element: its first child, if that is a text. -/
def text? (element : Element) : Option String :=
  match element.children with
  | .text text :: _ => some text
  | _ => none

/-- The outermost element of a document, with resolved names. -/
def read? (document : String) : Option Element :=
  match (Node.read? document).bind (ofNode? []) with
  | some (.element element) => some element
  | _ => none

end Element

end SignalCatalog.Markup
