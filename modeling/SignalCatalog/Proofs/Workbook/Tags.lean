import SignalCatalog.Proofs.Markup.Elements
import SignalCatalog.Workbook.Writer

/-!
# The tags of a workbook are read back

Most tags have plain attributes: none of them has a label, declares a namespace or is repeated. A
written tag is then read back with its attributes as they are, and an outermost element with the
scope that its declarations open.
-/

namespace SignalCatalog.Workbook

open SignalCatalog.Markup

/-- An attribute without namespace. -/
def plainAttribute (item : String × String) : Markup.Attribute := ⟨none, item.1, item.2⟩

/-- Names that plain attributes may have. -/
def PlainKeys (keys : List String) : Prop :=
  (∀ key ∈ keys, (Name.plain key).Readable ∧ key ≠ "xmlns") ∧ keys.Nodup

instance (keys : List String) : Decidable (PlainKeys keys) :=
  inferInstanceAs (Decidable ((∀ key ∈ keys, (Name.plain key).Readable ∧ key ≠ "xmlns") ∧
    keys.Nodup))

/-- Attributes that stand in a tag as they are. -/
structure PlainAttributes (attributes : List (String × String)) : Prop where
  keys : PlainKeys (attributes.map Prod.fst)
  values : ∀ item ∈ attributes, IsValue item.2

theorem declarations?_plain {found : Scope} {attributes : List (String × String)}
    (h : ∀ key ∈ attributes.map Prod.fst, key ≠ "xmlns") :
    declarations? found (attributes.map fun (key, value) => (.plain key, value)) = some found := by
  induction attributes with
  | nil => rfl
  | cons item rest ih =>
    rw [List.map_cons, List.forall_mem_cons] at h
    simpa [declarations?, Name.plain, h.1] using ih h.2

theorem resolveAttributes?_plain {scope : Scope} {attributes : List (String × String)}
    (done : List (String × String))
    (h : ∀ key ∈ attributes.map Prod.fst, key ≠ "xmlns")
    (hnodup : ((done ++ attributes).map Prod.fst).Nodup) :
    resolveAttributes? scope (done.map plainAttribute)
        (attributes.map fun (key, value) => (.plain key, value)) =
      some ((done ++ attributes).map plainAttribute) := by
  induction attributes generalizing done with
  | nil => simp [resolveAttributes?]
  | cons item rest ih =>
    rw [List.map_cons, List.forall_mem_cons] at h
    have hfresh : ∀ other ∈ done, other.1 ≠ item.1 := by
      rw [List.map_append, List.nodup_append] at hnodup
      exact fun other hother => hnodup.2.2 other.1 (List.mem_map_of_mem hother) item.1 (by simp)
    have hrest := ih (done ++ [item]) h.2 (by simpa using hnodup)
    rw [List.map_append, List.append_assoc] at hrest
    have hnone : (done.map plainAttribute).any
        (fun a => decide (a.space = none) && a.name == item.1) = false := by
      simpa [plainAttribute] using hfresh
    simp only [List.map_cons, resolveAttributes?, Name.plain]
    simpa [h.1, hnone, plainAttribute, Name.plain] using hrest

theorem tagReads_plain {scope : Scope} {attributes : List (String × String)}
    (h : PlainAttributes attributes) :
    TagReads scope (attributes.map fun (key, value) => (.plain key, value)) scope
      (attributes.map plainAttribute) where
  sayable := by
    intro item hitem
    obtain ⟨source, hsource, rfl⟩ := List.mem_map.mp hitem
    exact ⟨(h.keys.1 source.1 (List.mem_map_of_mem hsource)).1, h.values source hsource⟩
  declared := by
    rw [declarations?_plain fun key hkey => (h.keys.1 key hkey).2]
    rfl
  resolved := by
    simpa using resolveAttributes?_plain [] (fun key hkey => (h.keys.1 key hkey).2) h.keys.2

section Tags

variable {scope : Scope} {name : String} {attributes : List (String × String)}
  {children : List Node} {elements : List Element}

theorem reads_tag (hname : (Name.plain name).Readable) (h : PlainAttributes attributes)
    (hchildren : List.Forall₂ (Reads scope) children elements) :
    Reads scope (tag name attributes children)
      (.mk name (attributes.map plainAttribute) (elements.map .element)) :=
  .branch hname (tagReads_plain h) hchildren

theorem reads_tag_text (hname : (Name.plain name).Readable) (h : PlainAttributes attributes)
    {text : String} (htext : IsText text) :
    Reads scope (tag name attributes [.text text])
      (.mk name (attributes.map plainAttribute) (if text = "" then [] else [.text text])) :=
  .leaf hname (tagReads_plain h) htext

/-- An element that is never written as a closed tag is read back all the same. -/
theorem reads_openContent {items : List (Name × String)} {inner : Scope}
    {resolved : List Markup.Attribute} (hname : (Name.plain name).Readable)
    (htag : TagReads scope items inner resolved)
    (hchildren : List.Forall₂ (Reads inner) children elements) :
    Reads scope (.element (.plain name) items (openContent children))
      (.mk name resolved (elements.map .element)) := by
  cases hchildren with
  | nil => exact .leaf hname htag (by decide)
  | cons hchild hrest => exact .branch hname htag (.cons hchild hrest)

end Tags

/-- The scope inside of an outermost element that declares the label of links. -/
def labelledScope : Scope := [("", Archive.sheetSpace), ("r", Archive.linkSpace)]

theorem tagReads_root {space : String} (hspace : IsValue space)
    (hreserved : space ≠ labelSpace ∧ space ≠ languageSpace) :
    TagReads [] [(.plain "xmlns", space)] [("", space)] [] where
  sayable := by simpa [Sayable] using ⟨by decide, hspace⟩
  declared := by simp [declarations?, Name.plain, hreserved]
  resolved := rfl

theorem tagReads_labelled :
    TagReads [] [(.plain "xmlns", Archive.sheetSpace), linkLabel] labelledScope [] where
  sayable := by simpa [Sayable] using by decide
  declared := rfl
  resolved := rfl

/-- An attribute of the content of a tag is found by its name. -/
theorem attribute?_plain {name : String} {attributes : List (String × String)}
    {content : List Child} (key : String) :
    (Element.mk name (attributes.map plainAttribute) content).attribute? key =
      Entries.get? key attributes := by
  simp only [Element.attribute?, Element.attributes]
  induction attributes with
  | nil => rfl
  | cons item rest ih =>
    by_cases hkey : item.1 = key
    · simp [plainAttribute, Entries.get?, hkey]
    · simpa [plainAttribute, Entries.get?, hkey] using ih

end SignalCatalog.Workbook
