import SignalCatalog.DataType
import SignalCatalog.Proofs.Text.Numerals

/-!
# Written data types

A type that was read from any text is read again from its written form, however arrays nest. The
bound on the nesting never shows: an element is shorter than its array.
-/

namespace SignalCatalog

open Text

namespace DataType

theorem afterWord?_append (word text : List Char) : afterWord? word (word ++ text) = some text := by
  induction word with
  | nil => rfl
  | cons c word ih => simpa [afterWord?] using ih

theorem length_of_afterWord? {word text rest : List Char} (h : afterWord? word text = some rest) :
    text.length = word.length + rest.length := by
  induction word generalizing text with
  | nil =>
    simp only [afterWord?, Option.some.injEq] at h
    simp [h]
  | cons c word ih =>
    cases text with
    | nil => simp [afterWord?] at h
    | cons d text =>
      simp only [afterWord?, Option.ite_none_right_eq_some] at h
      have := ih h.2
      simp only [List.length_cons]
      omega

/-- The size of an array is in its range, and its element is a shorter text without blanks around
it. -/
theorem arrayParts?_some {text element : List Char} {size : Nat}
    (h : arrayParts? text = some (size, element)) :
    size ≠ 0 ∧ size ≤ maxArraySize ∧ element.length < text.length ∧ Trimmed element := by
  simp only [arrayParts?, Option.bind_eq_bind, Option.bind_eq_some_iff] at h
  obtain ⟨afterName, hname, afterOpen, hopen, ⟨inner, behind⟩, hcut, n, hn, h⟩ := h
  simp only [Option.ite_none_left_eq_some, not_or, Nat.not_lt, Option.bind_eq_some_iff] at h
  obtain ⟨hsize, afterOf, hof, h⟩ := h
  cases afterOf with
  | nil => simp at h
  | cons c rest =>
    simp only [Option.ite_none_right_eq_some, Option.some.injEq, Prod.mk.injEq] at h
    obtain ⟨hblank, rfl, rfl⟩ := h
    refine ⟨hsize.1, hsize.2, ?_, trimmed_trim _⟩
    have hlength := length_of_afterWord? hname
    have hlength₁ := length_of_after? hopen
    have hlength₂ := length_of_afterWord? hof
    have hstart := length_trimStart_le afterName
    have hstart₁ := length_trimStart_le behind
    have htrim := length_trim_le (c :: rest)
    have hparts : afterOpen.length = inner.length + 1 + behind.length := by
      rw [(cutAt?_eq_some_iff.mp hcut).1]
      simp only [List.length_append, List.length_cons]
      omega
    have hword : "ARRAY".toList.length = 5 := rfl
    omega

theorem arrayParts?_text {size : Nat} (hpos : size ≠ 0) (hmax : size ≤ maxArraySize)
    (element : List Char) :
    arrayParts? ("ARRAY".toList ++ ('[' :: (digits size ++
      ']' :: ' ' :: ("OF".toList ++ (' ' :: element))))) = some (size, trim element) := by
  have hopen : isBlank '[' = false := by decide
  have hspace : isBlank ' ' = true := by decide
  have hcut : cutAt? ']' (digits size ++ ']' :: ' ' :: ("OF".toList ++ (' ' :: element))) =
      some (digits size, ' ' :: ("OF".toList ++ (' ' :: element))) := by
    rw [cutAt?_eq_some_iff]
    refine ⟨rfl, fun hm => ?_⟩
    have := isDigit_of_mem_digits ']' hm
    simp at this
  have hsize : unsigned? maxWord32 (trim (digits size)) = some size := by
    rw [trim_digits]
    exact unsigned?_digits (Nat.le_trans hmax (by decide))
  have hrange : ¬ (size = 0 ∨ maxArraySize < size) := by omega
  have hof : trimStart (' ' :: ("OF".toList ++ (' ' :: element))) = "OF".toList ++ (' ' :: element) := by
    have hO : isBlank 'O' = false := by decide
    simp [trimStart, hspace, hO]
  have htrim : trim (' ' :: element) = trim element := by
    simp [trim, trimStart, hspace]
  simp only [arrayParts?, afterWord?_append, trimStart_cons hopen, after?, if_true, hcut, hsize,
    hrange, if_false, hof, Option.bind_eq_bind, Option.bind_some, hspace, htrim]

theorem enumParts?_some {text name : List Char} {width : EnumWidth}
    (h : enumParts? text = some (width, name)) : name ≠ [] ∧ Trimmed name := by
  simp only [enumParts?, Option.bind_eq_bind, Option.bind_eq_some_iff] at h
  obtain ⟨_, _, _, _, ⟨_, _⟩, _, _, _, _, _, inner, _, h⟩ := h
  simp only [List.isEmpty_iff, Option.ite_none_left_eq_some, Option.some.injEq,
    Prod.mk.injEq] at h
  obtain ⟨hne, _, rfl⟩ := h
  exact ⟨hne, trimmed_trim inner⟩

theorem enumParts?_text (width : EnumWidth) {name : List Char} (h : trim name ≠ []) :
    enumParts? ("ENUM".toList ++ ('<' :: (width.spelling.toList ++ '>' :: '(' :: (name ++ [')'])))) =
      some (width, trim name) := by
  have hopen : isBlank '<' = false := by decide
  have hcut : cutAt? '>' (width.spelling.toList ++ '>' :: '(' :: (name ++ [')'])) =
      some (width.spelling.toList, '(' :: (name ++ [')'])) := by
    rw [cutAt?_eq_some_iff]
    refine ⟨rfl, ?_⟩
    cases width <;> decide
  have hwidth : EnumWidth.ofText? width.spelling.toList = some width := by
    cases width <;> decide
  have hrest : trim ('(' :: (name ++ [')'])) = '(' :: (name ++ [')']) := by
    have hlast : ('(' :: (name ++ [')'])).getLast? = some ')' := by
      rw [← List.cons_append, List.getLast?_concat]
    have hbrackets : isBlank '(' = false ∧ isBlank ')' = false := by decide
    exact trim_eq_self ⟨by simpa using hbrackets.1, by simpa [hlast] using hbrackets.2⟩
  have hclose : before? [')'] (name ++ [')']) = some name := by
    simp [before?, after?]
  simp only [enumParts?, afterWord?_append, trimStart_cons hopen, after?, if_true, hcut, hwidth,
    hrest, hclose, List.isEmpty_iff, h, if_false, Option.bind_eq_bind, Option.bind_some]

section

variable {fuel : Nat} {text : List Char} {type : DataType}

/-- The first letters of the names of base types, and of `STRUCT`. -/
def firstLetters : List Char := ['i', 'u', 'f', 'b', 'c', 's']

theorem head_lower_spelling (name : BaseType) :
    ∃ first rest, lower name.spelling.toList = first :: rest ∧ first ∈ firstLetters := by
  cases name <;> exact ⟨_, _, rfl, by decide⟩

theorem ofName?_none {c : Char} (h : c.toLower ∉ firstLetters) (rest : List Char) :
    BaseType.ofName? (String.ofList (c :: rest)) = none := by
  rw [BaseType.ofName?, List.find?_eq_none]
  intro name _ hsame
  obtain ⟨first, tail, hlower, hfirst⟩ := head_lower_spelling name
  rw [sameIgnoringCase, hlower, String.toList_ofList, lower, List.map_cons, beq_iff_eq] at hsame
  exact h ((List.cons.inj hsame).1 ▸ hfirst)

theorem not_struct {c : Char} (h : c.toLower ∉ firstLetters) (rest : List Char) :
    sameIgnoringCase (String.ofList (c :: rest)) "STRUCT" = false := by
  rw [Bool.eq_false_iff]
  intro hsame
  have hlower : lower "STRUCT".toList = 's' :: "truct".toList := by decide
  rw [sameIgnoringCase, hlower, String.toList_ofList, lower, List.map_cons, beq_iff_eq] at hsame
  exact h ((List.cons.inj hsame).1 ▸ by decide)

theorem arrayType?_eq_some_iff {readElement : List Char → Option DataType} :
    arrayType? readElement text = some type ↔
      ∃ size part element, arrayParts? text = some (size, part) ∧
        readElement part = some element ∧ element.isStruct = false ∧
        type = array size element := by
  simp only [arrayType?, Option.bind_eq_bind, Option.bind_eq_some_iff, Prod.exists]
  constructor
  · rintro ⟨size, part, hparts, element, helement, h⟩
    simp only [Option.ite_none_left_eq_some, Bool.not_eq_true, Option.some.injEq] at h
    exact ⟨size, part, element, hparts, helement, h.1, h.2.symm⟩
  · rintro ⟨size, part, element, hparts, helement, hstruct, rfl⟩
    exact ⟨size, part, hparts, element, helement, by simp [hstruct]⟩

/-- What a text that is read as a type is read as. -/
theorem ofTrimmed_cases (h : ofTrimmed (fuel + 1) text = some type) : text ≠ [] ∧
    (type = struct ∨ (∃ name, type = base name) ∨
      (∃ size part element, arrayParts? text = some (size, part) ∧
        ofTrimmed fuel part = some element ∧ element.isStruct = false ∧
        type = array size element) ∨
      (∃ width name, enumParts? text = some (width, name) ∧
        type = enum width (String.ofList name)) ∨
      type = named (String.ofList text)) := by
  rw [ofTrimmed] at h
  split_ifs at h with hempty hstruct
  · exact ⟨by simpa using hempty, Or.inl (Option.some.inj h).symm⟩
  · refine ⟨by simpa using hempty, ?_⟩
    split at h
    · exact Or.inr (Or.inl ⟨_, (Option.some.inj h).symm⟩)
    split at h
    · rename_i type' harray
      rw [Option.some.inj h] at harray
      exact Or.inr (Or.inr (Or.inl (arrayType?_eq_some_iff.mp harray)))
    split at h
    · rename_i width name henum
      exact Or.inr (Or.inr (Or.inr (Or.inl ⟨width, name, henum, (Option.some.inj h).symm⟩)))
    · exact Or.inr (Or.inr (Or.inr (Or.inr (Option.some.inj h).symm)))

/-- Only the text counts, not the bound on the nesting. -/
theorem ofTrimmed_enough {more : Nat} (h : text.length < fuel) (hm : text.length < more) :
    ofTrimmed fuel text = ofTrimmed more text := by
  induction fuel generalizing text more with
  | zero => omega
  | succ fuel ih =>
    cases more with
    | zero => omega
    | succ more =>
      have harray : arrayType? (ofTrimmed fuel) text = arrayType? (ofTrimmed more) text := by
        cases hparts : arrayParts? text with
        | none => simp [arrayType?, hparts]
        | some parts =>
          have hlength := (arrayParts?_some hparts).2.2.1
          have helement : ofTrimmed fuel parts.2 = ofTrimmed more parts.2 :=
            ih (by omega) (by omega)
          simp [arrayType?, hparts, helement]
      rw [ofTrimmed, ofTrimmed, harray]

theorem ofTrimmed_array {c : Char} {rest : List Char} (hc : c.toLower ∉ firstLetters)
    (htext : text = c :: rest) (h : arrayType? (ofTrimmed fuel) text = some type) :
    ofTrimmed (fuel + 1) text = some type := by
  subst htext
  simp only [ofTrimmed, List.isEmpty_cons, not_struct hc, ofName?_none hc, h,
    Bool.false_eq_true, if_false]

theorem ofTrimmed_enum {c : Char} {rest : List Char} {width : EnumWidth} {name : List Char}
    (hc : c.toLower ∉ firstLetters) (htext : text = c :: rest) (harray : arrayParts? text = none)
    (h : enumParts? text = some (width, name)) :
    ofTrimmed (fuel + 1) text = some (enum width (String.ofList name)) := by
  have hnone : arrayType? (ofTrimmed fuel) text = none := by simp [arrayType?, harray]
  subst htext
  simp only [ofTrimmed, List.isEmpty_cons, not_struct hc, ofName?_none hc, hnone, h,
    Bool.false_eq_true, if_false]

/-- The written form of an array whose element is read from its own is read as the array. -/
theorem ofTrimmed_text_array {size : Nat} {element : DataType} (hpos : size ≠ 0)
    (hmax : size ≤ maxArraySize) (hstruct : element.isStruct = false)
    (htrim : Trimmed element.text.toList)
    (hread : ofTrimmed (element.text.toList.length + 1) element.text.toList = some element) :
    Trimmed (array size element).text.toList ∧
      ofTrimmed ((array size element).text.toList.length + 1) (array size element).text.toList =
        some (array size element) := by
  have htext : (array size element).text.toList = "ARRAY".toList ++ ('[' :: (digits size ++
      ']' :: ' ' :: ("OF".toList ++ (' ' :: element.text.toList)))) := by simp [DataType.text]
  have hhead : (array size element).text.toList = 'A' :: (("RRAY".toList ++ ('[' :: (digits size ++
      ']' :: ' ' :: ("OF".toList ++ [' '])))) ++ element.text.toList) := by simp [DataType.text]
  have hparts := arrayParts?_text hpos hmax element.text.toList
  rw [← htext, trim_eq_self htrim] at hparts
  have hshorter := (arrayParts?_some hparts).2.2.1
  have harray : arrayType? (ofTrimmed (array size element).text.toList.length)
      (array size element).text.toList = some (array size element) :=
    arrayType?_eq_some_iff.mpr ⟨size, _, element, hparts,
      (ofTrimmed_enough hshorter (Nat.lt_succ_self _)).trans hread, hstruct, rfl⟩
  have hne : element.text.toList ≠ [] := by
    intro he
    simp [he, ofTrimmed] at hread
  refine ⟨?_, ofTrimmed_array (by decide) hhead harray⟩
  rw [hhead]
  exact trimmed_cons (by decide) htrim _ hne

theorem ofTrimmed_text_enum (width : EnumWidth) {name : List Char} (hname : name ≠ [])
    (htrim : Trimmed name) :
    Trimmed (enum width (String.ofList name)).text.toList ∧
      ofTrimmed ((enum width (String.ofList name)).text.toList.length + 1)
        (enum width (String.ofList name)).text.toList = some (enum width (String.ofList name)) := by
  have htext : (enum width (String.ofList name)).text.toList = "ENUM".toList ++ ('<' ::
      (width.spelling.toList ++ '>' :: '(' :: (name ++ [')']))) := by simp [DataType.text]
  have hhead : (enum width (String.ofList name)).text.toList = 'E' :: (("NUM".toList ++ ('<' ::
      (width.spelling.toList ++ '>' :: '(' :: name))) ++ [')']) := by simp [DataType.text]
  have hparts := @enumParts?_text width name (by rwa [trim_eq_self htrim])
  rw [trim_eq_self htrim, ← htext] at hparts
  have harray : arrayParts? (enum width (String.ofList name)).text.toList = none := by
    rw [htext]
    rfl
  refine ⟨?_, ofTrimmed_enum (by decide) hhead harray hparts⟩
  rw [hhead]
  exact trimmed_cons (by decide) (by decide) _ (by simp)

/-- A type that was read is read again from its written form. -/
theorem ofTrimmed_text (h : ofTrimmed fuel text = some type) (hfuel : text.length < fuel)
    (htext : Trimmed text) : Trimmed type.text.toList ∧
      ofTrimmed (type.text.toList.length + 1) type.text.toList = some type := by
  induction fuel generalizing text type with
  | zero => omega
  | succ fuel ih =>
    obtain ⟨hne, hcases⟩ := ofTrimmed_cases h
    rcases hcases with rfl | ⟨name, rfl⟩ | ⟨size, part, element, hparts, helement, hstruct, rfl⟩ |
      ⟨width, name, henum, rfl⟩ | rfl
    · decide
    · cases name <;> decide
    · obtain ⟨hpos, hmax, hlength, hpart⟩ := arrayParts?_some hparts
      obtain ⟨htrim, hread⟩ := ih helement (by omega) hpart
      exact ofTrimmed_text_array hpos hmax hstruct htrim hread
    · obtain ⟨hname, htrim⟩ := enumParts?_some henum
      exact ofTrimmed_text_enum width hname htrim
    · rw [DataType.text, String.toList_ofList]
      exact ⟨htext, (ofTrimmed_enough (Nat.lt_succ_self _) hfuel).trans h⟩

end

def Written (type : DataType) : Prop := ∃ text, ofText? text = some type

theorem written_default : Written default := ⟨"INT32", by decide⟩

theorem written_ofDocument (text : String) : Written (ofDocument text) := by
  cases h : ofText? text with
  | none => simpa [ofDocument, h] using written_default
  | some type => exact ⟨text, by simp [ofDocument, h]⟩

theorem Written.trimmed_text {type : DataType} (h : type.Written) : Trimmed type.text.toList := by
  obtain ⟨text, htext⟩ := h
  exact (ofTrimmed_text htext (Nat.lt_succ_self _) (trimmed_trim text.toList)).1

/-- The written form of a type that was read from any text spells the type. -/
theorem Written.ofText?_text {type : DataType} (h : type.Written) :
    ofText? type.text = some type := by
  obtain ⟨text, htext⟩ := h
  obtain ⟨htrim, hread⟩ := ofTrimmed_text htext (Nat.lt_succ_self _) (trimmed_trim text.toList)
  rw [ofText?, trim_eq_self htrim]
  exact hread

theorem Written.filled_text {type : DataType} (h : type.Written) : Filled type.text := by
  refine ⟨fun hempty => ?_, h.trimmed_text⟩
  have hread := h.ofText?_text
  rw [hempty] at hread
  simp [ofText?, ofTrimmed, trim, trimStart, trimEnd] at hread

theorem Written.ofDocument_text {type : DataType} (h : type.Written) :
    ofDocument type.text = type := by
  rw [ofDocument, h.ofText?_text, Option.getD_some]

end DataType

end SignalCatalog
