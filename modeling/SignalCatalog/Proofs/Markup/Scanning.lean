import SignalCatalog.Proofs.Markup.Escapes

/-!
# Written markup is scanned

What is written for a tag, its attributes and a text is cut into the same tokens again. Scanning takes
a number of rounds as fuel; `Scans` says what comes out with any number above the length of the text,
so that the lemmas for the single tokens can be put one after the other.
-/

namespace SignalCatalog.Markup

open SignalCatalog.Text

/-! ## Names -/

/-- The name is read back from what is written for it. -/
def Name.Readable (name : Name) : Prop := takeName? name.chars = some (name, [])

instance (name : Name) : Decidable name.Readable :=
  inferInstanceAs (Decidable (takeName? name.chars = some (name, [])))

/-- Only the run of name characters decides which name is read. -/
theorem takeName?_eq (text : List Char) :
    takeName? text = (takeName? (text.takeWhile isNameChar)).map fun found =>
      (found.1, text.dropWhile isNameChar) := by
  have hrun : (text.takeWhile isNameChar).takeWhile isNameChar = text.takeWhile isNameChar := by
    rw [List.takeWhile_takeWhile]
    simp
  unfold takeName?
  rw [hrun]
  dsimp only
  split
  · rw [apply_ite (Option.map _)]
    rfl
  · rw [apply_ite (Option.map _)]
    rfl
  · rfl

namespace Name.Readable

variable {name : Name}

theorem isNameChar (h : name.Readable) : ∀ c ∈ name.chars, isNameChar c = true := by
  rw [Readable, takeName?_eq] at h
  obtain ⟨found, _, hfound⟩ := Option.map_eq_some_iff.mp h
  have hrest : name.chars.dropWhile Markup.isNameChar = [] := congrArg Prod.snd hfound
  exact List.dropWhile_eq_nil_iff.mp hrest

theorem takeName?_append (h : name.Readable) {rest : List Char}
    (hrest : ∀ c ∈ rest.head?, Markup.isNameChar c = false) :
    takeName? (name.chars ++ rest) = some (name, rest) := by
  rw [takeName?_eq, takeWhile_run h.isNameChar hrest, dropWhile_run h.isNameChar hrest, h]
  rfl

theorem exists_cons (h : name.Readable) : ∃ c rest, name.chars = c :: rest ∧
    Markup.isNameChar c = true := by
  cases hchars : name.chars with
  | nil =>
    rw [Readable, hchars] at h
    simp [takeName?, pieces] at h
  | cons c rest => exact ⟨c, rest, rfl, h.isNameChar c (by rw [hchars]; exact List.mem_cons_self)⟩

end Name.Readable

/-! ## Attributes -/

/-- A name that is read back and a value that is. -/
def Sayable (item : Name × String) : Prop :=
  item.1.Readable ∧ IsValue item.2

/-- The attribute as it stands in a token. -/
def scanned (item : Name × String) : Name × List Char := (item.1, escaped item.2)

theorem takeAttribute?_append {item : Name × String} (h : Sayable item) (rest : List Char) :
    takeAttribute? (item.1.chars ++ '=' :: '"' :: (escaped item.2 ++ '"' :: rest)) =
      some (scanned item, rest) := by
  obtain ⟨name, value⟩ := item
  have hname : takeName? (name.chars ++ '=' :: '"' :: (escaped value ++ '"' :: rest)) =
      some (name, '=' :: '"' :: (escaped value ++ '"' :: rest)) :=
    h.1.takeName?_append (by simp [isNameChar])
  have hvalue : (escaped value ++ '"' :: rest).takeWhile
      (fun c => isAllowed c && !decide (c = '"') && !decide (c = '<')) = escaped value := by
    apply takeWhile_run
    · intro c hc
      obtain ⟨hallowed, hopen, _, hquote⟩ := mem_escaped (fun d hd => (h.2 d hd).1) c hc
      simp [hallowed, hopen, hquote]
    · simp
  simp only [takeAttribute?, hname, Option.bind_eq_bind, Option.bind_some]
  simp [isSpace, after?, hvalue, scanned]

theorem isSpace_of_isNameChar {c : Char} (h : isNameChar c = true) : isSpace c = false := by
  rw [Bool.eq_false_iff]
  intro hspace
  simp only [isSpace, Bool.or_eq_true, decide_eq_true_eq] at hspace
  rcases hspace with ((rfl | rfl) | rfl) | rfl <;> revert h <;> decide

/-- How a tag ends. -/
def tagEnd (closed : Bool) : List Char := if closed then ['/', '>'] else ['>']

theorem takeAttributes?_append {attributes : List (Name × String)}
    (h : ∀ item ∈ attributes, Sayable item) (closed : Bool) (rest : List Char) {fuel : Nat}
    (hfuel : (attributes.flatMap writeAttribute ++ (tagEnd closed ++ rest)).length < fuel) :
    takeAttributes? fuel (attributes.flatMap writeAttribute ++ (tagEnd closed ++ rest)) =
      some (attributes.map scanned, closed, rest) := by
  induction attributes generalizing fuel with
  | nil =>
    obtain ⟨fuel, rfl⟩ := Nat.exists_eq_add_one_of_ne_zero (Nat.ne_of_gt (Nat.zero_lt_of_lt hfuel))
    cases closed <;> simp [takeAttributes?, tagEnd, isSpace, after?]
  | cons item more ih =>
    obtain ⟨fuel, rfl⟩ := Nat.exists_eq_add_one_of_ne_zero (Nat.ne_of_gt (Nat.zero_lt_of_lt hfuel))
    obtain ⟨hitem, hmore⟩ := List.forall_mem_cons.mp h
    have hwritten : (item :: more).flatMap writeAttribute ++ (tagEnd closed ++ rest) =
        ' ' :: (item.1.chars ++ '=' :: '"' :: (escaped item.2 ++ '"' ::
          (more.flatMap writeAttribute ++ (tagEnd closed ++ rest)))) := by
      simp [writeAttribute]
    have hitem' := takeAttribute?_append hitem
      (more.flatMap writeAttribute ++ (tagEnd closed ++ rest))
    obtain ⟨c, cs, hchars, hc⟩ := hitem.1.exists_cons
    rw [hwritten] at hfuel ⊢
    rw [hchars] at hitem' hfuel ⊢
    simp only [List.length_cons, List.length_append, List.cons_append] at hfuel
    have hnext := @ih hmore fuel (by simp only [List.length_append]; omega)
    have hslash : c ≠ '/' := by rintro rfl; revert hc; decide
    have hend : c ≠ '>' := by rintro rfl; revert hc; decide
    have hdrop : ∀ tail, (' ' :: c :: tail).dropWhile isSpace = c :: tail := by
      intro tail
      simp [isSpace_of_isNameChar hc, show isSpace ' ' = true by decide]
    rw [List.cons_append] at hitem' ⊢
    rw [takeAttributes?, hdrop]
    dsimp only
    split
    · rename_i heq
      simp at heq
    · rename_i heq
      exact False.elim (hslash (List.cons.inj heq).1)
    · rename_i heq
      exact False.elim (hend (List.cons.inj heq).1)
    · rw [if_pos (by decide), hitem']
      simp only [Option.bind_eq_bind, Option.bind_some, hnext]
      rfl

/-! ## Tokens -/

/-- A mark is not found in what lacks one of its characters. -/
theorem takeUntil?_eq_none {stop run : List Char} {c : Char} (hc : c ∈ stop) (hrun : c ∉ run) :
    takeUntil? stop run = none := by
  induction run with
  | nil => rfl
  | cons d run ih =>
    have hnone : after? stop (d :: run) = none := by
      cases hafter : after? stop (d :: run) with
      | none => rfl
      | some rest => exact False.elim (hrun (by rw [append_of_after? hafter]; simp [hc]))
    rw [takeUntil?, hnone]
    simp [ih fun h => hrun (List.mem_cons_of_mem d h)]

/-- Enough rounds give these tokens. -/
def Scans (depth : Nat) (rooted : Bool) (text : List Char) (tokens : List Token) : Prop :=
  ∀ fuel, text.length < fuel → scanFrom fuel depth rooted text = some tokens

theorem scans_end : Scans 0 true [] [] := by
  intro fuel hfuel
  obtain ⟨fuel, rfl⟩ := Nat.exists_eq_add_one_of_ne_zero (Nat.ne_of_gt hfuel)
  simp [scanFrom]

variable {depth : Nat} {rooted : Bool} {rest : List Char} {tokens : List Token} {name : Name}

theorem Opening.of_name (hname : name.Readable) (rest : List Char) :
    Opening.of (name.chars ++ rest) = some (.element (name.chars ++ rest)) := by
  obtain ⟨c, cs, hchars, hc⟩ := hname.exists_cons
  rw [hchars, List.cons_append]
  unfold Opening.of
  split
  · rename_i heq
    simp at heq
  · rename_i heq
    rw [(List.cons.inj heq).1] at hc
    simp [isNameChar] at hc
  · rename_i heq
    rw [(List.cons.inj heq).1] at hc
    simp [isNameChar] at hc
  · rename_i heq
    rw [(List.cons.inj heq).1] at hc
    simp [isNameChar] at hc
  · rfl

/-- A tag opens an element, which may be closed at once. Only one element is outermost. -/
theorem scans_tag {attributes : List (Name × String)} {closed : Bool} (hname : name.Readable)
    (hattributes : ∀ item ∈ attributes, Sayable item) (hroot : ¬(depth = 0 ∧ rooted = true))
    (hrest : Scans (if closed then depth else depth + 1) true rest tokens) :
    Scans depth rooted (writeTag name attributes ++ (tagEnd closed ++ rest))
      (.openTag name (attributes.map scanned) closed :: tokens) := by
  intro fuel hfuel
  obtain ⟨fuel, rfl⟩ := Nat.exists_eq_add_one_of_ne_zero (Nat.ne_of_gt (Nat.zero_lt_of_lt hfuel))
  have hwritten : writeTag name attributes ++ (tagEnd closed ++ rest) =
      '<' :: (name.chars ++ (attributes.flatMap writeAttribute ++ (tagEnd closed ++ rest))) := by
    simp [writeTag]
  have hread : takeName? (name.chars ++ (attributes.flatMap writeAttribute ++
      (tagEnd closed ++ rest))) =
      some (name, attributes.flatMap writeAttribute ++ (tagEnd closed ++ rest)) := by
    apply hname.takeName?_append
    cases attributes with
    | nil => cases closed <;> simp [tagEnd, isNameChar]
    | cons item more => simp [writeAttribute, isNameChar]
  have hitems := takeAttributes?_append hattributes closed rest (Nat.lt_succ_self _)
  have hnext := hrest fuel (by
    rw [hwritten] at hfuel
    simp only [List.length_cons, List.length_append] at hfuel
    omega)
  have hroot' : (decide (depth = 0) && rooted) = false := by simpa using hroot
  rw [hwritten, scanFrom]
  simp only [List.dropWhile_cons, show isSpace '<' = false by decide, Bool.false_eq_true, if_false,
    ite_self]
  simp only [Opening.of_name hname, Option.bind_eq_bind, Option.bind_some, hroot', hread, hitems,
    hnext, Bool.false_eq_true, if_false]

theorem scans_close (hname : name.Readable) (hrest : Scans depth true rest tokens) :
    Scans (depth + 1) true ('<' :: '/' :: (name.chars ++ '>' :: rest))
      (.closeTag name :: tokens) := by
  intro fuel hfuel
  obtain ⟨fuel, rfl⟩ := Nat.exists_eq_add_one_of_ne_zero (Nat.ne_of_gt (Nat.zero_lt_of_lt hfuel))
  have hread : takeName? (name.chars ++ '>' :: rest) = some (name, '>' :: rest) :=
    hname.takeName?_append (by simp [isNameChar])
  have hnext := hrest fuel (by simp only [List.length_cons, List.length_append] at hfuel; omega)
  simp [scanFrom, Opening.of, hread, isSpace, after?, hnext]

theorem scans_text {text : String} (hne : text ≠ "") (htext : IsText text)
    (hrest : Scans (depth + 1) true ('<' :: rest) tokens) :
    Scans (depth + 1) true (escaped text ++ '<' :: rest) (.text (escaped text) :: tokens) := by
  intro fuel hfuel
  obtain ⟨fuel, rfl⟩ := Nat.exists_eq_add_one_of_ne_zero (Nat.ne_of_gt (Nat.zero_lt_of_lt hfuel))
  have hchars := mem_escaped fun c hc => (htext c hc).1
  have hrun : (escaped text ++ '<' :: rest).takeWhile (fun c => isAllowed c && !decide (c = '<')) =
      escaped text := takeWhile_run (fun c hc => by simp [hchars c hc]) (by simp)
  have hplain : takeUntil? [']', ']', '>'] (escaped text) = none :=
    takeUntil?_eq_none (c := '>') (by decide) fun h => (hchars _ h).2.2.1 rfl
  have htake : takeText? (escaped text ++ '<' :: rest) = some (escaped text, '<' :: rest) := by
    simp [takeText?, hrun, hplain]
  obtain ⟨c, cs, hcs⟩ := List.exists_cons_of_ne_nil (fun h => hne (escaped_eq_nil_iff.mp h))
  have hc : c ≠ '<' := (hchars c (by rw [hcs]; exact List.mem_cons_self)).2.1
  have hnext := hrest fuel (by
    rw [hcs] at hfuel
    simp only [List.length_cons, List.length_append] at hfuel ⊢
    omega)
  rw [scanFrom]
  simp only [Nat.add_one_ne_zero, if_false]
  split
  · rename_i heq
    simp at heq
  · rename_i heq
    rw [hcs, List.cons_append] at heq
    exact False.elim (hc (List.cons.inj heq).1)
  · simp only [htake, Option.bind_eq_bind, Option.bind_some, hnext]

/-- The declaration in front of a document is passed over. -/
theorem scan_document {root : Node} (h : Scans 0 false root.write tokens) :
    Token.scan (document root) = some tokens := by
  have htext : (document root).toList = "<?xml ".toList ++
      ("version=\"1.0\" encoding=\"UTF-8\" standalone=\"yes\"?>".toList ++ root.write) := by
    rw [document, String.toList_append, String.toList_ofList, ← List.append_assoc]
    rfl
  have hscan : Token.scan (document root) =
      scanFrom (root.write.length + 1) 0 false root.write := by
    rw [Token.scan, htext]
    rfl
  rw [hscan]
  exact h _ (Nat.lt_succ_self _)

end SignalCatalog.Markup
