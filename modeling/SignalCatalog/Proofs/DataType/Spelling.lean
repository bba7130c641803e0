import SignalCatalog.Proofs.DataType

/-!
# The spelling of data types

Every text that is not blank is read as a type, and writing the type gives a text that is read as the
same type again, so one reading makes the spelling canonical. What can be read is said by the type alone:
arrays have a size in its range and an element that is no struct, the name of an enumeration is filled,
and an unknown name spells nothing else. Names stand in the text from which they were read.
-/

namespace SignalCatalog.DataType

open Text

/-- The types that texts spell: at every level the parts are in order. -/
def Regular : DataType → Prop
  | base _ | struct => True
  | array size element => 1 ≤ size ∧ size ≤ maxArraySize ∧ element ≠ struct ∧ element.Regular
  | enum _ name => Filled name
  | named text => read text = .ok (named text)

/-- The names in a type that stand as they were written. -/
def names : DataType → List String
  | base _ | struct => []
  | array _ element => element.names
  | enum _ name => [name]
  | named text => [text]

/-! ## Parts of a text -/

section Parts

variable {text rest : List Char}

theorem trim_isInfix (text : List Char) : trim text <:+: text :=
  (isPrefix_trimEnd _).isInfix.trans (List.dropWhile_suffix isBlank).isInfix

theorem trimStart_isSuffix (text : List Char) : trimStart text <:+ text :=
  List.dropWhile_suffix isBlank

theorem isSuffix_of_after? {lead : List Char} (h : after? lead text = some rest) : rest <:+ text :=
  ⟨lead, (append_of_after? h).symm⟩

theorem isPrefix_of_before? {tail : List Char} (h : before? tail text = some rest) :
    rest <+: text := by
  obtain ⟨back, hback, rfl⟩ := Option.map_eq_some_iff.mp h
  rw [← List.reverse_suffix, List.reverse_reverse]
  exact isSuffix_of_after? hback

theorem isSuffix_of_cutAt? {mark : Char} {before : List Char}
    (h : cutAt? mark text = some (before, rest)) : rest <:+ text := by
  rw [(cutAt?_eq_some_iff.mp h).1]
  exact (List.suffix_cons mark rest).trans (List.suffix_append before _)

theorem isSuffix_of_afterWord? {word : List Char} (h : afterWord? word text = some rest) :
    rest <:+ text := by
  induction word generalizing text with
  | nil =>
    obtain rfl := Option.some.inj h
    exact List.suffix_refl text
  | cons c word ih =>
    cases text with
    | nil => simp [afterWord?] at h
    | cons d text =>
      rw [afterWord?, Option.ite_none_right_eq_some] at h
      exact (ih h.2).trans (List.suffix_cons d text)

/-- The element of an array stands in the text of the array. -/
theorem isInfix_of_arrayParts? {size : Nat} {element : List Char}
    (h : arrayParts? text = some (size, element)) : element <:+: text := by
  simp only [arrayParts?, Option.bind_eq_bind, Option.bind_eq_some_iff] at h
  obtain ⟨afterName, hname, afterOpen, hopen, ⟨inner, behind⟩, hcut, n, _, h⟩ := h
  simp only [Option.ite_none_left_eq_some, Option.bind_eq_some_iff] at h
  obtain ⟨_, afterOf, hof, h⟩ := h
  have hopened : afterOpen <:+ text := (isSuffix_of_after? hopen).trans
    ((trimStart_isSuffix afterName).trans (isSuffix_of_afterWord? hname))
  have hrest : afterOf <:+ text := (isSuffix_of_afterWord? hof).trans
    ((trimStart_isSuffix behind).trans ((isSuffix_of_cutAt? hcut).trans hopened))
  cases afterOf with
  | nil => simp at h
  | cons c rest =>
    simp only [Option.ite_none_right_eq_some, Option.some.injEq, Prod.mk.injEq] at h
    rw [← h.2.2]
    exact (trim_isInfix (c :: rest)).trans hrest.isInfix

/-- The name of an enumeration stands in its text. -/
theorem isInfix_of_enumParts? {width : EnumWidth} {name : List Char}
    (h : enumParts? text = some (width, name)) : name <:+: text := by
  simp only [enumParts?, Option.bind_eq_bind, Option.bind_eq_some_iff] at h
  obtain ⟨afterName, hname, afterOpen, hopen, ⟨inner, behind⟩, hcut, _, _, afterBracket, hbracket,
    bracketed, hclose, h⟩ := h
  simp only [Option.ite_none_left_eq_some, Option.some.injEq, Prod.mk.injEq] at h
  obtain ⟨_, _, rfl⟩ := h
  have hopened : afterOpen <:+ text := (isSuffix_of_after? hopen).trans
    ((trimStart_isSuffix afterName).trans (isSuffix_of_afterWord? hname))
  have hrest : behind <:+: text := ((isSuffix_of_cutAt? hcut).trans hopened).isInfix
  have hinside : bracketed <:+: behind := (isPrefix_of_before? hclose).isInfix.trans
    ((isSuffix_of_after? hbracket).isInfix.trans (trim_isInfix behind))
  exact (trim_isInfix bracketed).trans (hinside.trans hrest)

end Parts

/-! ## What is read -/

variable {text : String} {type : DataType}

theorem read_eq_ok_iff : read text = .ok type ↔ ofText? text = some type := by
  unfold read
  cases ofText? text <;> simp

/-- A text with something in it is read, if only as an unknown name. -/
theorem exists_ofTrimmed {fuel : Nat} {chars : List Char} (h : chars ≠ []) :
    ∃ type, ofTrimmed (fuel + 1) chars = some type := by
  rw [ofTrimmed]
  simp only [List.isEmpty_iff, h, if_false]
  split
  · exact ⟨struct, rfl⟩
  · split
    · rename_i name _
      exact ⟨base name, rfl⟩
    · split
      · rename_i type _
        exact ⟨type, rfl⟩
      · split <;> exact ⟨_, rfl⟩

theorem exists_read_iff : (∃ type, read text = .ok type) ↔ ∃ c ∈ text.toList, isBlank c = false := by
  have hblank : trim text.toList ≠ [] ↔ ∃ c ∈ text.toList, isBlank c = false := by
    simp [trim_eq_nil_iff]
  simp only [read_eq_ok_iff, ofText?, ← hblank]
  constructor
  · rintro ⟨type, htype⟩
    exact (ofTrimmed_cases htype).1
  · exact exists_ofTrimmed

/-- What is read is regular, and its names stand in the text. The induction is on the bound of the
nesting; an element is read with the rest of it. -/
theorem regular_ofTrimmed {fuel : Nat} {chars : List Char} (h : ofTrimmed fuel chars = some type)
    (hfuel : chars.length < fuel) (htrim : Trimmed chars) :
    type.Regular ∧ ∀ name ∈ type.names, name.toList <:+: chars := by
  induction fuel generalizing chars type with
  | zero => omega
  | succ fuel ih =>
    obtain ⟨_, hcases⟩ := ofTrimmed_cases h
    rcases hcases with rfl | ⟨name, rfl⟩ | ⟨size, part, element, hparts, helement, hstruct, rfl⟩ |
      ⟨width, name, henum, rfl⟩ | rfl
    · exact ⟨trivial, by simp [names]⟩
    · exact ⟨trivial, by simp [names]⟩
    · obtain ⟨hpos, hmax, hlength, hpart⟩ := arrayParts?_some hparts
      obtain ⟨hregular, hnames⟩ := ih helement (by omega) hpart
      have hother : element ≠ struct := by
        rintro rfl
        cases hstruct
      exact ⟨⟨Nat.one_le_iff_ne_zero.mpr hpos, hmax, hother, hregular⟩, fun name hname =>
        (hnames name hname).trans (isInfix_of_arrayParts? hparts)⟩
    · obtain ⟨hname, hfilled⟩ := enumParts?_some henum
      have hregular : Filled (String.ofList name) := by
        refine ⟨fun hempty => hname ?_, by rwa [String.toList_ofList]⟩
        rw [← String.toList_ofList (l := name), hempty, String.toList_empty]
      refine ⟨hregular, ?_⟩
      simpa [names] using isInfix_of_enumParts? henum
    · have hread : ofText? (String.ofList chars) = some (named (String.ofList chars)) := by
        rw [ofText?, String.toList_ofList, trim_eq_self htrim,
          ofTrimmed_enough (Nat.lt_succ_self _) hfuel, h]
      exact ⟨read_eq_ok_iff.mpr hread, by simp [names]⟩

theorem ofText?_of_trimmed (h : Trimmed text.toList) :
    ofText? text = ofTrimmed (text.toList.length + 1) text.toList := by
  rw [ofText?, trim_eq_self h]

theorem Regular.written (h : type.Regular) : type.Written := by
  induction type with
  | base name => exact ⟨name.spelling, by cases name <;> decide⟩
  | struct => exact ⟨"STRUCT", by decide⟩
  | array size element ih =>
    obtain ⟨hpos, hmax, hother, hregular⟩ := h
    have helement : element.Written := ih hregular
    have hstruct : element.isStruct = false := by
      cases element with
      | struct => exact absurd rfl hother
      | _ => rfl
    have hread := helement.ofText?_text
    rw [ofText?_of_trimmed helement.trimmed_text] at hread
    obtain ⟨htrim, harray⟩ := ofTrimmed_text_array (Nat.one_le_iff_ne_zero.mp hpos) hmax hstruct
      helement.trimmed_text hread
    exact ⟨_, (ofText?_of_trimmed htrim).trans harray⟩
  | enum width name =>
    have hname : name.toList ≠ [] := by simpa using h.1
    obtain ⟨htrim, henum⟩ := ofTrimmed_text_enum width hname h.2
    rw [String.ofList_toList] at htrim henum
    exact ⟨_, (ofText?_of_trimmed htrim).trans henum⟩
  | named text => exact ⟨text, read_eq_ok_iff.mp h⟩

/-- A text is read exactly if it is not blank, whatever bound above its length is put on the nesting of
arrays. The type that is read is read again from its written form and is regular at every level, and its
names stand in the text as they are. Every regular type is read from its written form. -/
theorem spelling_canonical (text : String) :
    ((∃ type, read text = .ok type) ↔ ∃ c ∈ text.toList, isBlank c = false) ∧
    (∀ fuel, (trim text.toList).length < fuel →
      ofTrimmed fuel (trim text.toList) = (read text).toOption) ∧
    (∀ type, read text = .ok type →
      read type.text = .ok type ∧ type.Regular ∧ ∀ name ∈ type.names, name.toList <:+: text.toList) ∧
    ∀ type : DataType, type.Regular → read type.text = .ok type := by
  refine ⟨exists_read_iff, ?_, ?_, fun type h => read_eq_ok_iff.mpr h.written.ofText?_text⟩
  · intro fuel hfuel
    have hread : (read text).toOption = ofText? text := by
      unfold read
      cases ofText? text <;> rfl
    rw [hread, ofText?, ofTrimmed_enough hfuel (Nat.lt_succ_self _)]
  · intro type h
    rw [read_eq_ok_iff] at h
    have hwritten : type.Written := ⟨text, h⟩
    obtain ⟨hregular, hnames⟩ := regular_ofTrimmed h (Nat.lt_succ_self _) (trimmed_trim text.toList)
    exact ⟨read_eq_ok_iff.mpr hwritten.ofText?_text, hregular, fun name hname =>
      (hnames name hname).trans (trim_isInfix text.toList)⟩

/-- An array of arrays of an enumeration, with blanks and in the wrong case; only the name is kept. -/
theorem spelling_canonical_nested :
    let type : DataType := array 2 (array 30 (enum .fourBytes "Gear Box"))
    read " array [+02]of Array[ 30 ] OF enum <4BYTES>  ( Gear Box )" = .ok type ∧
      type.text = "ARRAY[2] OF ARRAY[30] OF ENUM<4Byte>(Gear Box)" ∧
      read type.text = .ok type ∧ type.Regular ∧
      "Gear Box".toList <:+: " array [+02]of Array[ 30 ] OF enum <4BYTES>  ( Gear Box )".toList := by
  intro type
  have hread : read " array [+02]of Array[ 30 ] OF enum <4BYTES>  ( Gear Box )" = .ok type := by
    decide +kernel
  obtain ⟨hagain, hregular, hnames⟩ := (spelling_canonical _).2.2.1 type hread
  exact ⟨hread, by decide, hagain, hregular, hnames "Gear Box" List.mem_cons_self⟩

end SignalCatalog.DataType
