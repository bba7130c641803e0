import SignalCatalog.Markup.Element
import SignalCatalog.Proofs.Markup.Trees

/-!
# Written elements are read back

`Reads` ties a written tree to the element that a reader gets from it, names resolved. It is put
together tag by tag, and says of a whole document which element is read from it.
-/

namespace SignalCatalog.Markup

open SignalCatalog.Text

/-- What the attributes of a tag say inside of a scope: the declarations that they add to it, and the
attributes that remain. -/
structure TagReads (scope : Scope) (attributes : List (Name × String)) (inner : Scope)
    (resolved : List Attribute) : Prop where
  sayable : ∀ item ∈ attributes, Sayable item
  declared : (declarations? [] attributes).map (· ++ scope) = some inner
  resolved : resolveAttributes? inner [] attributes = some resolved

/-- A tree that is read back as an element. -/
structure Reads (scope : Scope) (node : Node) (element : Element) : Prop where
  written : node.Written
  resolved : Element.ofNode? scope node.kept = some (.element element)

namespace Reads

variable {scope inner : Scope} {base : String} {attributes : List (Name × String)}
  {resolved : List Attribute} {children : List Node} {elements : List Element}

theorem ofNodes?_kept (h : List.Forall₂ (Reads scope) children elements) :
    Element.ofNodes? scope (Node.keptNodes children) = some (elements.map .element) := by
  induction h with
  | nil => rfl
  | @cons node element nodes elements hnode _ ih =>
    have hsilent : node.isSilent = false := by
      cases hnode.written <;> rfl
    rw [Node.keptNodes, hsilent]
    simp [Element.ofNodes?, hnode.resolved, ih]

theorem written_of_mem (h : List.Forall₂ (Reads scope) children elements) :
    ∀ child ∈ children, child.Written := by
  induction h with
  | nil => simp
  | cons hnode _ ih => exact List.forall_mem_cons.mpr ⟨hnode.written, ih⟩

theorem ofNode?_element {nodes : List Node} {content : List Child}
    (htag : TagReads scope attributes inner resolved)
    (hcontent : Element.ofNodes? inner nodes = some content) :
    Element.ofNode? scope (.element (.plain base) attributes nodes) =
      some (.element (.mk base resolved content)) := by
  obtain ⟨declared, hdeclared, rfl⟩ := Option.map_eq_some_iff.mp htag.declared
  rw [Element.ofNode?, hdeclared]
  simp only [Option.bind_eq_bind, Option.bind_some, htag.resolved, hcontent]
  simp [Name.plain]

theorem branch (hname : (Name.plain base).Readable) (htag : TagReads scope attributes inner resolved)
    (h : List.Forall₂ (Reads inner) children elements) :
    Reads scope (.element (.plain base) attributes children)
      (.mk base resolved (elements.map .element)) where
  written := .branch hname htag.sayable (written_of_mem h)
  resolved := ofNode?_element htag (ofNodes?_kept h)

theorem leaf {text : String} (hname : (Name.plain base).Readable)
    (htag : TagReads scope attributes inner resolved) (htext : IsText text) :
    Reads scope (.element (.plain base) attributes [.text text])
      (.mk base resolved (if text = "" then [] else [.text text])) where
  written := .leaf hname htag.sayable htext
  resolved := by
    apply ofNode?_element htag
    by_cases hempty : text = "" <;>
      simp [Node.keptNodes, Node.isSilent, Node.kept, Element.ofNodes?, Element.ofNode?, hempty]

end Reads

/-- A written document is read back as its element. -/
theorem Reads.read?_document {root : Node} {element : Element} (h : Reads [] root element) :
    Element.read? (document root) = some element := by
  rw [Element.read?, h.written.read?_document, Option.bind_some, h.resolved]

namespace Element

@[simp] theorem name_mk (base : String) (attributes : List Attribute) (content : List Child) :
    (mk base attributes content).name = base := rfl

@[simp] theorem childElements_mk (base : String) (attributes : List Attribute)
    (elements : List Element) :
    (mk base attributes (elements.map .element)).childElements = elements := by
  simp [childElements, children, List.filterMap_map]

@[simp] theorem text?_mk (base text : String) (attributes : List Attribute) (rest : List Child) :
    (mk base attributes (.text text :: rest)).text? = some text := rfl

@[simp] theorem named_mk (base name : String) (attributes : List Attribute)
    (elements : List Element) :
    (mk base attributes (elements.map .element)).named name =
      elements.filter fun child => child.name == name := by
  rw [named, childElements_mk]

end Element

end SignalCatalog.Markup
