import SignalCatalog.Proofs.Markup.Scanning

/-!
# Written trees are read back

A tree whose elements hold either elements or one text is read back as it was written, except that an
empty text leaves no trace. The proof goes by the tokens of a node: they are what scanning finds, and
nesting them adds the node to whatever is open.
-/

namespace SignalCatalog.Markup

open SignalCatalog.Text

namespace Node

section Writing

variable {name : Name} {attributes : List (Name × String)}

theorem write_closed :
    (element name attributes []).write = writeTag name attributes ++ ['/', '>'] := rfl

theorem write_open {child : Node} {rest : List Node} :
    (element name attributes (child :: rest)).write =
      writeTag name attributes ++ '>' :: child.write ++ writeNodes rest ++
        '<' :: '/' :: name.chars ++ ['>'] := rfl

theorem write_text {content : String} : (text content).write = escaped content := rfl

end Writing

/-- A tree that is read back. -/
inductive Written : Node → Prop
  | branch {name : Name} {attributes : List (Name × String)} {children : List Node}
      (hname : name.Readable) (hattributes : ∀ item ∈ attributes, Sayable item)
      (hchildren : ∀ child ∈ children, Written child) :
      Written (.element name attributes children)
  | leaf {name : Name} {attributes : List (Name × String)} {text : String}
      (hname : name.Readable) (hattributes : ∀ item ∈ attributes, Sayable item)
      (htext : IsText text) :
      Written (.element name attributes [.text text])

/-- An empty text, of which nothing is written. -/
def isSilent : Node → Bool
  | text content => content.isEmpty
  | _ => false

mutual

/-- The tree without empty texts. -/
def kept : Node → Node
  | element name attributes children => element name attributes (keptNodes children)
  | node => node

def keptNodes : List Node → List Node
  | [] => []
  | node :: rest => if node.isSilent then keptNodes rest else node.kept :: keptNodes rest

end

/-- The tokens of an element: they are scanned from what is written for it, and nesting them adds the
element. -/
structure ReadsAs (node : Node) (tokens : List Token) : Prop where
  isElement : ∃ name attributes children, node = .element name attributes children
  scans : ∀ {depth rooted rest tail}, ¬(depth = 0 ∧ rooted = true) →
    Scans depth true rest tail → Scans depth rooted (node.write ++ rest) (tokens ++ tail)
  nests : ∀ root stack tail, nest? root stack (tokens ++ tail) =
    nest? (addChild root stack node.kept).1 (addChild root stack node.kept).2 tail

end Node

theorem attributes?_scanned {attributes : List (Name × String)}
    (h : ∀ item ∈ attributes, Sayable item) :
    attributes? (attributes.map scanned) = some attributes := by
  induction attributes with
  | nil => rfl
  | cons item rest ih =>
    obtain ⟨hitem, hrest⟩ := List.forall_mem_cons.mp h
    have hvalue := attributeText?_escaped hitem.2 [] (Nat.lt_succ_self _)
    have hscanned : scanned item = (item.1, item.2.toList.flatMap escapedChar) := rfl
    rw [List.map_cons, hscanned, attributes?, hvalue]
    simp [ih hrest]

/-- An element is added to the innermost open one, behind its other children. -/
theorem addChild_element (root : Option Node) (top : OpenElement) (below : List OpenElement)
    (name : Name) (attributes : List (Name × String)) (children : List Node) :
    addChild root (top :: below) (.element name attributes children) =
      (root, { top with children := .element name attributes children :: top.children } ::
        below) := by
  simp [addChild, OpenElement.add]

/-- The tokens of what an element holds: they are scanned in front of its end, and nesting them fills
the element that is open. -/
structure FillsAs (children : List Node) (tokens : List Token) : Prop where
  scans : ∀ {depth rest tail}, Scans (depth + 1) true ('<' :: rest) tail →
    Scans (depth + 1) true (writeNodes children ++ '<' :: rest) (tokens ++ tail)
  nests : ∀ root name attributes below tail,
    nest? root (⟨name, attributes, []⟩ :: below) (tokens ++ tail) =
      nest? root (⟨name, attributes, (Node.keptNodes children).reverse⟩ :: below) tail

/-- The tokens of elements side by side. -/
theorem exists_fillsAs {children : List Node}
    (h : ∀ child ∈ children, ∃ tokens, child.ReadsAs tokens) :
    ∃ tokens, FillsAs children tokens := by
  have hall : ∃ tokens,
      (∀ {depth rest tail}, Scans (depth + 1) true rest tail →
        Scans (depth + 1) true (writeNodes children ++ rest) (tokens ++ tail)) ∧
      ∀ root name attributes done below tail,
        nest? root (⟨name, attributes, done⟩ :: below) (tokens ++ tail) =
          nest? root (⟨name, attributes, (Node.keptNodes children).reverse ++ done⟩ :: below)
            tail := by
    induction children with
    | nil => exact ⟨[], fun h => by simpa [writeNodes] using h, fun _ _ _ _ _ _ => rfl⟩
    | cons child rest ih =>
      obtain ⟨hchild, hrest⟩ := List.forall_mem_cons.mp h
      obtain ⟨first, hfirst⟩ := hchild
      obtain ⟨more, hscans, hnests⟩ := ih hrest
      refine ⟨first ++ more, ?_, ?_⟩
      · intro depth behind tail htail
        rw [writeNodes, List.append_assoc, List.append_assoc]
        exact hfirst.scans (by simp) (hscans htail)
      · intro root name attributes done below tail
        obtain ⟨name', attributes', children', rfl⟩ := hfirst.isElement
        rw [List.append_assoc, hfirst.nests, Node.kept, addChild_element, hnests]
        simp [Node.keptNodes, Node.isSilent, Node.kept]
  obtain ⟨tokens, hscans, hnests⟩ := hall
  exact ⟨tokens, hscans, fun root name attributes below tail => by
    simpa using hnests root name attributes [] below tail⟩

/-- The token of a text, if it is not empty. -/
theorem exists_fillsAs_text {text : String} (h : IsText text) :
    ∃ tokens, FillsAs [.text text] tokens := by
  by_cases hempty : text = ""
  · subst hempty
    refine ⟨[], fun h => by simpa [writeNodes, Node.write_text, escaped] using h, ?_⟩
    intro root name attributes below tail
    simp [Node.keptNodes, Node.isSilent]
  · refine ⟨[.text (escaped text)], ?_, ?_⟩
    · intro depth rest tail htail
      simpa [writeNodes, Node.write_text] using scans_text hempty h htail
    · intro root name attributes below tail
      have hread := @plainText?_escaped _ h _ false [] (by simp) (Nat.lt_succ_self _)
      have hsilent : (Node.text text).isSilent = false := by simpa [Node.isSilent] using hempty
      have hkept : Node.keptNodes [.text text] = [.text text] := by
        simp [Node.keptNodes, hsilent, Node.kept]
      rw [hkept, List.singleton_append, nest?, escaped, hread]
      simp [addChild, OpenElement.add]

section Element

variable {name : Name} {attributes : List (Name × String)}

theorem readsAs_closed (hname : name.Readable) (hattributes : ∀ item ∈ attributes, Sayable item) :
    (Node.element name attributes []).ReadsAs [.openTag name (attributes.map scanned) true] where
  isElement := ⟨_, _, _, rfl⟩
  scans := by
    intro depth rooted rest tail hroot htail
    have hwritten : (Node.element name attributes []).write ++ rest =
        writeTag name attributes ++ (tagEnd true ++ rest) := by
      simp [Node.write_closed, tagEnd]
    rw [hwritten]
    exact scans_tag hname hattributes hroot htail
  nests := by
    intro root stack tail
    rw [List.singleton_append, nest?, attributes?_scanned hattributes]
    rfl

theorem readsAs_open (hname : name.Readable) (hattributes : ∀ item ∈ attributes, Sayable item)
    {child : Node} {rest : List Node} {tokens : List Token} (h : FillsAs (child :: rest) tokens) :
    (Node.element name attributes (child :: rest)).ReadsAs
      (.openTag name (attributes.map scanned) false :: tokens ++ [.closeTag name]) where
  isElement := ⟨_, _, _, rfl⟩
  scans := by
    intro depth rooted behind tail hroot htail
    have hwritten : (Node.element name attributes (child :: rest)).write ++ behind =
        writeTag name attributes ++ (tagEnd false ++ (writeNodes (child :: rest) ++
          '<' :: '/' :: (name.chars ++ '>' :: behind))) := by
      simp [Node.write_open, writeNodes, tagEnd]
    rw [hwritten, List.cons_append, List.cons_append, List.append_assoc]
    exact scans_tag hname hattributes hroot (h.scans (scans_close hname htail))
  nests := by
    intro root stack tail
    rw [List.cons_append, List.cons_append, nest?, attributes?_scanned hattributes,
      List.append_assoc]
    simp only [Option.bind_eq_bind, Option.bind_some, Bool.false_eq_true, if_false]
    rw [h.nests, List.singleton_append, nest?, if_pos rfl]
    simp [OpenElement.close, Node.kept]

end Element

theorem Node.Written.exists_tokens {node : Node} (h : node.Written) :
    ∃ tokens, node.ReadsAs tokens := by
  induction h with
  | @branch name attributes children hname hattributes _ ih =>
    cases children with
    | nil => exact ⟨_, readsAs_closed hname hattributes⟩
    | cons child rest =>
      obtain ⟨tokens, htokens⟩ := exists_fillsAs ih
      exact ⟨_, readsAs_open hname hattributes htokens⟩
  | leaf hname hattributes htext =>
    obtain ⟨tokens, htokens⟩ := exists_fillsAs_text htext
    exact ⟨_, readsAs_open hname hattributes htokens⟩

/-- A written tree is read back without its empty texts. -/
theorem Node.Written.read?_document {root : Node} (h : root.Written) :
    Node.read? (document root) = some root.kept := by
  obtain ⟨tokens, htokens⟩ := h.exists_tokens
  have hscan : Token.scan (document root) = some tokens := by
    apply scan_document
    simpa using htokens.scans (by simp) scans_end
  obtain ⟨name, attributes, children, rfl⟩ := htokens.isElement
  have hnest := htokens.nests none [] []
  rw [List.append_nil] at hnest
  rw [Node.read?, hscan, Option.bind_some, hnest]
  simp [addChild, Node.kept, nest?]

end SignalCatalog.Markup
