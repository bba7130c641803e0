import SignalCatalog.Markup.Printer
import SignalCatalog.Proofs.Text.Numerals

/-!
# Escaped texts are read back

Each of the five characters that have names is written as a reference and read back from it. What is
written for a text therefore holds no mark of a tag, and the text comes back as it was; line ends are
another matter, because a reader changes them.
-/

namespace SignalCatalog.Markup

open SignalCatalog.Text

/-- A character of a text that is read back: an allowed one, and no carriage return. -/
def InText (c : Char) : Prop := isAllowed c = true ∧ c ≠ '\r'

/-- A character of an attribute's value that is read back: no blank but a space. -/
def InValue (c : Char) : Prop := isAllowed c = true ∧ c ≠ '\t' ∧ c ≠ '\n' ∧ c ≠ '\r'

instance (c : Char) : Decidable (InText c) :=
  inferInstanceAs (Decidable (isAllowed c = true ∧ c ≠ '\r'))

instance (c : Char) : Decidable (InValue c) :=
  inferInstanceAs (Decidable (isAllowed c = true ∧ c ≠ '\t' ∧ c ≠ '\n' ∧ c ≠ '\r'))

/-- A text that is read back where it stands between tags. -/
def IsText (text : String) : Prop := ∀ c ∈ text.toList, InText c

/-- A text that is read back where it stands as a value. -/
def IsValue (text : String) : Prop := ∀ c ∈ text.toList, InValue c

instance (text : String) : Decidable (IsText text) :=
  decidable_of_iff (text.toList.all fun c => decide (InText c)) (by simp [IsText])

instance (text : String) : Decidable (IsValue text) :=
  decidable_of_iff (text.toList.all fun c => decide (InValue c)) (by simp [IsValue])

/-- The characters that are written by name. -/
def named : List Char := ['&', '<', '>', '"', '\'']

theorem escapedChar_of_notMem {c : Char} (h : c ∉ named) : escapedChar c = [c] := by
  simp only [named, List.mem_cons, List.not_mem_nil, or_false, not_or] at h
  simp [escapedChar, h]

/-- A named character is written as an ampersand and a reference to it. -/
theorem escapedChar_of_mem {c : Char} (h : c ∈ named) :
    ∃ body, escapedChar c = '&' :: body ∧ (body.all fun d => d.isAlphanum || d == ';') = true ∧
      ∀ rest, takeReference? (body ++ rest) = some (c, rest) := by
  simp only [named, List.mem_cons, List.not_mem_nil, or_false] at h
  rcases h with rfl | rfl | rfl | rfl | rfl
  · exact ⟨"amp;".toList, rfl, by decide, fun _ => rfl⟩
  · exact ⟨"lt;".toList, rfl, by decide, fun _ => rfl⟩
  · exact ⟨"gt;".toList, rfl, by decide, fun _ => rfl⟩
  · exact ⟨"quot;".toList, rfl, by decide, fun _ => rfl⟩
  · exact ⟨"apos;".toList, rfl, by decide, fun _ => rfl⟩

theorem isAllowed_of_isAlphanum {c : Char} (h : c.isAlphanum = true) : isAllowed c = true := by
  rw [isAlphanum_iff] at h
  have hlow : ¬ c.toNat < 0x20 := by omega
  simp only [isAllowed, hlow, if_false, Bool.and_eq_true, decide_eq_true_eq]
  omega

theorem inText_of_isAlphanum {c : Char} (h : c.isAlphanum = true) : InText c :=
  ⟨isAllowed_of_isAlphanum h, by rintro rfl; simp at h⟩

theorem inValue_of_isAlphanum {c : Char} (h : c.isAlphanum = true) : InValue c := by
  refine ⟨isAllowed_of_isAlphanum h, ?_, ?_, ?_⟩ <;> rintro rfl <;> simp at h

theorem isValue_number {n : Nat} : IsValue (number n) := by
  intro c hc
  exact inValue_of_isAlphanum (by simp [Char.isAlphanum, isDigit_of_mem_number c hc])

theorem IsValue.append {front back : String} (hfront : IsValue front) (hback : IsValue back) :
    IsValue (front ++ back) := by
  intro c hc
  rw [String.toList_append] at hc
  exact (List.mem_append.mp hc).elim (hfront c) (hback c)

/-- What is written for an allowed character is allowed and is no mark of a tag or a value. -/
theorem mem_escapedChar {c : Char} (h : isAllowed c = true) :
    ∀ d ∈ escapedChar c, isAllowed d = true ∧ d ≠ '<' ∧ d ≠ '>' ∧ d ≠ '"' := by
  intro d hd
  by_cases hc : c ∈ named
  · obtain ⟨body, hbody, hword, _⟩ := escapedChar_of_mem hc
    rw [hbody] at hd
    rcases List.mem_cons.mp hd with rfl | hd
    · decide
    · have hletter := List.all_eq_true.mp hword d hd
      simp only [Bool.or_eq_true, beq_iff_eq] at hletter
      rcases hletter with hword | rfl
      · refine ⟨isAllowed_of_isAlphanum hword, ?_, ?_, ?_⟩ <;> rintro rfl <;> simp at hword
      · decide
  · rw [escapedChar_of_notMem hc, List.mem_singleton] at hd
    subst hd
    simp only [named, List.mem_cons, List.not_mem_nil, or_false, not_or] at hc
    exact ⟨h, hc.2.1, hc.2.2.1, hc.2.2.2.1⟩

theorem mem_escaped {text : String} (h : ∀ c ∈ text.toList, isAllowed c = true) :
    ∀ d ∈ escaped text, isAllowed d = true ∧ d ≠ '<' ∧ d ≠ '>' ∧ d ≠ '"' := by
  intro d hd
  obtain ⟨c, hc, hd⟩ := List.mem_flatMap.mp hd
  exact mem_escapedChar (h c hc) d hd

theorem escapedChar_ne_nil (c : Char) : escapedChar c ≠ [] := by
  by_cases hc : c ∈ named
  · obtain ⟨body, hbody, _⟩ := escapedChar_of_mem hc
    simp [hbody]
  · simp [escapedChar_of_notMem hc]

theorem escaped_eq_nil_iff {text : String} : escaped text = [] ↔ text = "" := by
  rw [escaped, List.flatMap_eq_nil_iff, ← String.toList_eq_nil_iff]
  constructor
  · intro h
    exact List.eq_nil_iff_forall_not_mem.mpr fun c hc => escapedChar_ne_nil c (h c hc)
  · intro h
    simp [h]

/-- The value of an attribute comes back, unless it holds a blank that is no space. -/
theorem attributeText?_escaped {text : List Char}
    (h : ∀ c ∈ text, InValue c) {fuel : Nat} (done : List Char)
    (hfuel : (text.flatMap escapedChar).length < fuel) :
    attributeText? fuel done (text.flatMap escapedChar) = some (done.reverse ++ text) := by
  induction text generalizing fuel done with
  | nil =>
    obtain ⟨fuel, rfl⟩ := Nat.exists_eq_add_one_of_ne_zero (Nat.ne_of_gt hfuel)
    simp [attributeText?]
  | cons c rest ih =>
    obtain ⟨fuel, rfl⟩ := Nat.exists_eq_add_one_of_ne_zero (Nat.ne_of_gt (Nat.zero_lt_of_lt hfuel))
    have hrest := fun d hd => h d (List.mem_cons_of_mem c hd)
    by_cases hc : c ∈ named
    · obtain ⟨body, hbody, _, href⟩ := escapedChar_of_mem hc
      simp only [List.flatMap_cons, hbody, List.cons_append, List.length_cons, List.length_append]
        at hfuel ⊢
      rw [attributeText?, href]
      simp only [Option.bind_eq_bind, Option.bind_some]
      rw [ih hrest (c :: done) (by omega)]
      simp
    · simp only [List.flatMap_cons, escapedChar_of_notMem hc, List.singleton_append,
        List.length_cons] at hfuel ⊢
      have hamp : c ≠ '&' := fun he => hc (by simp [named, he])
      obtain ⟨_, htab, hline, hreturn⟩ := h c List.mem_cons_self
      have hsame : (if isSpace c then ' ' else c) = c := by
        by_cases hspace : c = ' ' <;> simp [isSpace, hspace, htab, hline, hreturn]
      rw [attributeText?, hsame, ih hrest (c :: done) (by omega)]
      · simp
      · exact hamp
      · exact fun _ he => False.elim (hreturn he)

/-- A text without carriage returns comes back. The last character before it is remembered, because
a line feed behind a carriage return would join it. -/
theorem plainText?_escaped {text : List Char} (h : ∀ c ∈ text, InText c) {fuel : Nat} (referred : Bool)
    {done : List Char} (hdone : done.head? ≠ some '\r')
    (hfuel : (text.flatMap escapedChar).length < fuel) :
    plainText? fuel referred done (text.flatMap escapedChar) = some (done.reverse ++ text) := by
  induction text generalizing fuel referred done with
  | nil =>
    obtain ⟨fuel, rfl⟩ := Nat.exists_eq_add_one_of_ne_zero (Nat.ne_of_gt hfuel)
    simp [plainText?]
  | cons c rest ih =>
    obtain ⟨fuel, rfl⟩ := Nat.exists_eq_add_one_of_ne_zero (Nat.ne_of_gt (Nat.zero_lt_of_lt hfuel))
    obtain ⟨⟨_, hc'⟩, hrest⟩ := List.forall_mem_cons.mp h
    have hnext : (c :: done).head? ≠ some '\r' := by simpa using hc'
    by_cases hc : c ∈ named
    · obtain ⟨body, hbody, _, href⟩ := escapedChar_of_mem hc
      simp only [List.flatMap_cons, hbody, List.cons_append, List.length_cons, List.length_append]
        at hfuel ⊢
      rw [plainText?, href]
      simp only [Option.bind_eq_bind, Option.bind_some]
      rw [ih hrest true hnext (by omega)]
      simp
    · simp only [List.flatMap_cons, escapedChar_of_notMem hc, List.singleton_append,
        List.length_cons] at hfuel ⊢
      have hamp : c ≠ '&' := fun he => hc (by simp [named, he])
      have hpush : ∀ last, pushText done c last = c :: done := by
        intro last
        unfold pushText
        split
        · simp at hdone
        · simp [hc']
      cases referred with
      | true =>
        rw [plainText?, ih hrest false hnext (by omega)]
        · simp
        · exact hamp
      | false =>
        rw [plainText?, hpush, ih hrest false hnext (by omega)]
        · simp
        · exact hamp

end SignalCatalog.Markup
