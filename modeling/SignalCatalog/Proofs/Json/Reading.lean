import SignalCatalog.Proofs.Json.Tokens

/-!
# Printed JSON is read back

A value is read back from its printed text in either layout, if its numbers are and if it nests no
deeper than the reader goes. What is read is a tree of nodes; `Spells` says that a tree has no fault
and spells a value, wherever its parts stand in the text.
-/

namespace SignalCatalog.Json

/-- The reader takes the number back from its text alone. -/
def Number.ReadsBack (n : Number) : Prop :=
  ∃ stop, readValue 1 0 ⟨n.text.toList, 0⟩ = (.number n stop, some ⟨[], stop⟩)

mutual

/-- Every number in the value reads back. -/
def NumbersReadBack : Json → Prop
  | number n => n.ReadsBack
  | array items => ItemsReadBack items
  | object members => MembersReadBack members
  | _ => True

def ItemsReadBack : List Json → Prop
  | [] => True
  | value :: rest => value.NumbersReadBack ∧ ItemsReadBack rest

def MembersReadBack : List (String × Json) → Prop
  | [] => True
  | (_, value) :: rest => value.NumbersReadBack ∧ MembersReadBack rest

end

mutual

/-- The number of brackets that are open at the deepest place of the text. -/
def brackets : Json → Nat
  | array items => itemBrackets items + 1
  | object members => memberBrackets members + 1
  | _ => 0

def itemBrackets : List Json → Nat
  | [] => 0
  | value :: rest => max value.brackets (itemBrackets rest)

def memberBrackets : List (String × Json) → Nat
  | [] => 0
  | (_, value) :: rest => max value.brackets (memberBrackets rest)

end

/-- What the reader is trusted with: it takes back every number of the value, and the value nests no
deeper than it goes. -/
def ReadsBack (value : Json) : Prop := value.NumbersReadBack ∧ value.brackets ≤ maxLevels

/-- Whether the reader takes the number back. -/
def Number.isReadBack (n : Number) : Bool :=
  match readValue 1 0 ⟨n.text.toList, 0⟩ with
  | (.number m stop, some ⟨[], last⟩) => m = n && last = stop
  | _ => false

theorem Number.isReadBack_iff (n : Number) : n.isReadBack = true ↔ n.ReadsBack := by
  unfold isReadBack ReadsBack
  split
  · rename_i m stop last hread
    rw [hread]
    simp only [Bool.and_eq_true, decide_eq_true_eq]
    constructor
    · rintro ⟨rfl, rfl⟩
      exact ⟨last, rfl⟩
    · rintro ⟨place, heq⟩
      simp_all
  · rename_i hother
    constructor
    · exact fun h => nomatch h
    · rintro ⟨stop, heq⟩
      exact False.elim (hother n stop stop heq)

instance (n : Number) : Decidable n.ReadsBack := decidable_of_iff _ n.isReadBack_iff

mutual

def decidableNumbersReadBack : (value : Json) → Decidable value.NumbersReadBack
  | null => .isTrue trivial
  | bool _ => .isTrue trivial
  | number n => inferInstanceAs (Decidable n.ReadsBack)
  | string _ => .isTrue trivial
  | array items => decidableItemsReadBack items
  | object members => decidableMembersReadBack members

def decidableItemsReadBack : (items : List Json) → Decidable (ItemsReadBack items)
  | [] => .isTrue trivial
  | value :: rest =>
    have := decidableNumbersReadBack value
    have := decidableItemsReadBack rest
    inferInstanceAs (Decidable (value.NumbersReadBack ∧ ItemsReadBack rest))

def decidableMembersReadBack : (members : List (String × Json)) →
    Decidable (MembersReadBack members)
  | [] => .isTrue trivial
  | (_, value) :: rest =>
    have := decidableNumbersReadBack value
    have := decidableMembersReadBack rest
    inferInstanceAs (Decidable (value.NumbersReadBack ∧ MembersReadBack rest))

end

instance (value : Json) : Decidable value.NumbersReadBack := decidableNumbersReadBack value

instance (value : Json) : Decidable value.ReadsBack :=
  inferInstanceAs (Decidable (value.NumbersReadBack ∧ value.brackets ≤ maxLevels))

mutual

/-- The fuel that reading the printed value takes. -/
def size : Json → Nat
  | array items => itemsSize items + 1
  | object members => membersSize members + 1
  | _ => 1

def itemsSize : List Json → Nat
  | [] => 1
  | value :: rest => value.size + itemsSize rest

def membersSize : List (String × Json) → Nat
  | [] => 1
  | (_, value) :: rest => value.size + membersSize rest

end

mutual

/-- The node has no fault and spells the value. -/
inductive Node.Spells : Node → Json → Prop
  | null (stop : Nat) : Node.Spells (.null stop) null
  | bool (b : Bool) (stop : Nat) : Node.Spells (.bool b stop) (bool b)
  | number (n : Number) (stop : Nat) : Node.Spells (.number n stop) (number n)
  | string (text : String) (stop : Nat) : Node.Spells (.string text stop) (string text)
  | array (start : Nat) {items : NodeItems} {values : List Json} (h : items.Spells values) :
    Node.Spells (.array start items) (array values)
  | object (start : Nat) {members : NodeMembers} {entries : List (String × Json)}
    (h : members.Spells entries) : Node.Spells (.object start members) (object entries)

inductive NodeItems.Spells : NodeItems → List Json → Prop
  | done : NodeItems.Spells .done []
  | item {node : Node} {value : Json} {items : NodeItems} {values : List Json}
    (h : node.Spells value) (hrest : items.Spells values) :
    NodeItems.Spells (.item node items) (value :: values)

inductive NodeMembers.Spells : NodeMembers → List (String × Json) → Prop
  | done : NodeMembers.Spells .done []
  | member (key : String) (afterKey afterValue : Nat) {node : Node} {value : Json}
    {members : NodeMembers} {entries : List (String × Json)} (h : node.Spells value)
    (hrest : members.Spells entries) :
    NodeMembers.Spells (.member key afterKey node afterValue members) ((key, value) :: entries)

end

/-- From the text the reader takes a node that spells the value, wherever the text stands, and leaves
the rest. -/
def Reads (fuel levels : Nat) (text rest : List Char) (value : Json) : Prop :=
  ∀ offset, ∃ node stop,
    readValue fuel levels ⟨text, offset⟩ = (node, some ⟨rest, stop⟩) ∧ node.Spells value

def ReadsItems (fuel levels : Nat) (first : Bool) (text rest : List Char) (values : List Json) :
    Prop :=
  ∀ offset, ∃ items stop,
    readItems fuel levels first ⟨text, offset⟩ = (items, some ⟨rest, stop⟩) ∧ items.Spells values

def ReadsMembers (fuel levels : Nat) (first : Bool) (text rest : List Char)
    (entries : List (String × Json)) : Prop :=
  ∀ offset, ∃ members stop,
    readMembers fuel levels first ⟨text, offset⟩ = (members, some ⟨rest, stop⟩) ∧
      members.Spells entries

theorem readValue_skipSpaces (fuel levels : Nat) (cursor : Cursor) :
    readValue (fuel + 1) levels cursor.skipSpaces = readValue (fuel + 1) levels cursor := by
  simp only [readValue, Cursor.skipSpaces_skipSpaces]

theorem word_append (text : String) (node : Nat → Node) (rest : List Char) (offset : Nat) :
    ∃ stop, word text node ⟨text.toList ++ rest, offset⟩ = (node stop, some ⟨rest, stop⟩) := by
  obtain ⟨stop, h⟩ := readWord_append text.toList rest offset
  exact ⟨stop, by simp [word, scalar, Except.map, h]⟩

theorem scalar_number {α : Type} {result : Except Fault (α × Cursor)} {node : α → Nat → Node}
    {n : Number} {stop : Nat} {after : Cursor}
    (h : scalar result node = (.number n stop, some after)) :
    ∃ value, result = .ok (value, after) ∧ node value after.offset = .number n stop := by
  cases result with
  | error fault => simp [scalar] at h
  | ok pair =>
    simp only [scalar, Prod.mk.injEq, Option.some.injEq] at h
    obtain ⟨hnode, rfl⟩ := h
    exact ⟨pair.1, rfl, hnode⟩

/-- A text that is read as a number starts with a digit or a minus sign. -/
theorem readNumber_of_readValue {c : Char} {tail : List Char} {offset stop : Nat} {n : Number}
    {after : Cursor} (hc : Cursor.isSpace c = false)
    (h : readValue 1 0 ⟨c :: tail, offset⟩ = (.number n stop, some after)) :
    (c = '-' ∧ ∃ start, readNumber true ⟨tail, start⟩ = .ok (n, after)) ∨
      (c.isDigit = true ∧ ∃ start, readNumber false ⟨c :: tail, start⟩ = .ok (n, after)) := by
  simp only [readValue, Cursor.skipSpaces_cons hc, if_true] at h
  split_ifs at h with hnull htrue hfalse hminus hdigit hquote
  · obtain ⟨_, _, hnode⟩ := scalar_number h
    simp at hnode
  · obtain ⟨_, _, hnode⟩ := scalar_number h
    simp at hnode
  · obtain ⟨_, _, hnode⟩ := scalar_number h
    simp at hnode
  · obtain ⟨value, hread, hnode⟩ := scalar_number h
    simp only [Node.number.injEq] at hnode
    exact Or.inl ⟨hminus, _, hnode.1 ▸ hread⟩
  · obtain ⟨value, hread, hnode⟩ := scalar_number h
    simp only [Node.number.injEq] at hnode
    exact Or.inr ⟨hdigit, _, hnode.1 ▸ hread⟩
  · obtain ⟨_, _, hnode⟩ := scalar_number h
    simp at hnode
  all_goals simp at h

theorem digit_ne {c : Char} (h : c.isDigit = true) :
    Cursor.isSpace c = false ∧ c ≠ 'n' ∧ c ≠ 't' ∧ c ≠ 'f' ∧ c ≠ '-' := by
  refine ⟨?_, ?_, ?_, ?_, ?_⟩
  · simp only [Cursor.isSpace, Bool.or_eq_false_iff, decide_eq_false_iff_not]
    refine ⟨⟨⟨?_, ?_⟩, ?_⟩, ?_⟩ <;> (rintro rfl; simp at h)
  all_goals
    rintro rfl
    simp at h

/-- The parts of a number's text: a first character that opens a number, and the number behind it. -/
theorem number_parts {n : Number} (hn : n.ReadsBack) :
    ∃ spaces c tail, n.text.toList = spaces ++ c :: tail ∧ Spaces spaces ∧
      ((c = '-' ∧ ∃ start stop, readNumber true ⟨tail, start⟩ = .ok (n, ⟨[], stop⟩)) ∨
        (c.isDigit = true ∧
          ∃ start stop, readNumber false ⟨c :: tail, start⟩ = .ok (n, ⟨[], stop⟩))) := by
  obtain ⟨stop, h⟩ := hn
  rw [← readValue_skipSpaces] at h
  rcases Cursor.skipSpaces_cases ⟨n.text.toList, 0⟩ with hs | ⟨c, tail, hs, hc⟩
  · simp [readValue, Cursor.skipSpaces_skipSpaces, hs] at h
  · refine ⟨n.text.toList.takeWhile Cursor.isSpace, c, tail, ?_, ?_, ?_⟩
    · rw [← hs]
      exact (List.takeWhile_append_dropWhile ..).symm
    · intro d hd
      exact List.mem_takeWhile_imp hd
    · have hparts : Cursor.skipSpaces ⟨n.text.toList, 0⟩ =
          ⟨c :: tail, (Cursor.skipSpaces ⟨n.text.toList, 0⟩).offset⟩ := by rw [← hs]
      rw [hparts] at h
      rcases readNumber_of_readValue hc h with ⟨hminus, start, hread⟩ | ⟨hdigit, start, hread⟩
      · exact Or.inl ⟨hminus, start, stop, hread⟩
      · exact Or.inr ⟨hdigit, start, stop, hread⟩

namespace Reads

variable {fuel levels : Nat} {text rest : List Char} {value : Json}

attribute [local simp] readValue

theorem spaces (h : Reads fuel levels text rest value) {before : List Char}
    (hb : Spaces before) : Reads fuel levels (before ++ text) rest value := by
  cases fuel with
  | zero =>
    intro offset
    obtain ⟨node, stop, hr, _⟩ := h offset
    simp at hr
  | succ fuel =>
    intro offset
    rw [← readValue_skipSpaces, Cursor.skipSpaces_append hb, readValue_skipSpaces]
    exact h (offset + before.length)

theorem null : Reads (fuel + 1) levels ("null".toList ++ rest) rest .null := by
  intro offset
  obtain ⟨stop, h⟩ := word_append "null" .null rest offset
  refine ⟨.null stop, stop, ?_, .null stop⟩
  simpa [Cursor.skipSpaces_cons, Cursor.isSpace] using h

theorem bool (b : Bool) :
    Reads (fuel + 1) levels ((if b then "true".toList else "false".toList) ++ rest) rest
      (.bool b) := by
  intro offset
  cases b with
  | true =>
    obtain ⟨stop, h⟩ := word_append "true" (.bool true) rest offset
    refine ⟨.bool true stop, stop, ?_, .bool true stop⟩
    simpa [Cursor.skipSpaces_cons, Cursor.isSpace] using h
  | false =>
    obtain ⟨stop, h⟩ := word_append "false" (.bool false) rest offset
    refine ⟨.bool false stop, stop, ?_, .bool false stop⟩
    simpa [Cursor.skipSpaces_cons, Cursor.isSpace] using h

theorem number {n : Number} (hn : n.ReadsBack) (hrest : Ends rest) :
    Reads (fuel + 1) levels (n.text.toList ++ rest) rest (.number n) := by
  obtain ⟨before, c, tail, htext, hspaces, hparts⟩ := number_parts hn
  rw [htext, List.append_assoc]
  apply spaces ?_ hspaces
  intro offset
  rcases hparts with ⟨rfl, start, stop, hread⟩ | ⟨hdigit, start, stop, hread⟩
  · obtain ⟨stop', hr⟩ := readNumber_append hrest hread (offset + '-'.utf8Size)
    refine ⟨.number n stop', stop', ?_, .number n stop'⟩
    simpa [Cursor.skipSpaces_cons, Cursor.isSpace, Cursor.next, scalar] using
      congrArg (scalar · Node.number) hr
  · obtain ⟨stop', hr⟩ := readNumber_append hrest hread offset
    refine ⟨.number n stop', stop', ?_, .number n stop'⟩
    obtain ⟨hspace, hnull, htrue, hfalse, hminus⟩ := digit_ne hdigit
    simp only [List.cons_append, readValue, Cursor.skipSpaces_cons hspace, hnull, htrue, hfalse,
      hminus, hdigit, if_false, if_true]
    exact congrArg (scalar · Node.number) hr

theorem string (text : String) : Reads (fuel + 1) levels (quoted text ++ rest) rest (.string text) := by
  intro offset
  obtain ⟨stop, h⟩ := takeString_quoted text rest (offset + '"'.utf8Size)
  refine ⟨.string text stop, stop, ?_, .string text stop⟩
  simp [quoted, Cursor.skipSpaces_cons, Cursor.isSpace, Cursor.next, scalar, h]

theorem array {items : List Json} (h : ReadsItems fuel levels true text rest items) :
    Reads (fuel + 1) (levels + 1) ('[' :: text) rest (.array items) := by
  intro offset
  obtain ⟨nodes, stop, hr, hs⟩ := h (offset + '['.utf8Size)
  refine ⟨.array offset nodes, stop, ?_, .array offset hs⟩
  simp [Cursor.skipSpaces_cons, Cursor.isSpace, Cursor.next, hr]

theorem object {entries : List (String × Json)}
    (h : ReadsMembers fuel levels true text rest entries) :
    Reads (fuel + 1) (levels + 1) ('\x7b' :: text) rest (.object entries) := by
  intro offset
  obtain ⟨nodes, stop, hr, hs⟩ := h (offset + '\x7b'.utf8Size)
  refine ⟨.object offset nodes, stop, ?_, .object offset hs⟩
  simp [Cursor.skipSpaces_cons, Cursor.isSpace, Cursor.next, hr]

/-- A value opens with a character that closes no list. -/
theorem opens (h : Reads fuel levels text rest value) (offset : Nat) :
    ∃ c tail, (Cursor.skipSpaces ⟨text, offset⟩).rest = c :: tail ∧ c ≠ ']' := by
  obtain ⟨node, stop, hr, _⟩ := h offset
  cases fuel with
  | zero => simp at hr
  | succ fuel =>
    rcases Cursor.skipSpaces_cases ⟨text, offset⟩ with hs | ⟨c, tail, hs, _⟩
    · simp [hs] at hr
    · refine ⟨c, tail, hs, ?_⟩
      rintro rfl
      simp [hs] at hr

end Reads

namespace ReadsItems

variable {fuel levels : Nat} {text middle rest : List Char} {value : Json} {values : List Json}

theorem done {spaces : List Char} (h : Spaces spaces) (first : Bool) :
    ReadsItems (fuel + 1) levels first (spaces ++ ']' :: rest) rest [] := by
  intro offset
  refine ⟨.done, offset + spaces.length + ']'.utf8Size, ?_, .done⟩
  simp [readItems, Cursor.skipSpaces_append h, Cursor.skipSpaces_cons, Cursor.isSpace, Cursor.next]

/-- An item and the items behind it are the items from the first one on. -/
theorem first (hv : Reads fuel levels text middle value)
    (hr : ReadsItems fuel levels false middle rest values) :
    ReadsItems (fuel + 1) levels true text rest (value :: values) := by
  intro offset
  obtain ⟨c, tail, hopen, hc⟩ := hv.opens offset
  obtain ⟨node, place, hnode, hspells⟩ := hv offset
  obtain ⟨items, stop, hitems, hall⟩ := hr place
  refine ⟨.item node items, stop, ?_, .item hspells hall⟩
  cases fuel with
  | zero => simp [readValue] at hnode
  | succ fuel =>
    rw [← readValue_skipSpaces] at hnode
    rw [readItems]
    simp only [hopen, hc, hnode, hitems, if_false, if_true]

/-- A comma and an item continue the items. -/
theorem next (hv : Reads fuel levels text middle value)
    (hr : ReadsItems fuel levels false middle rest values) :
    ReadsItems (fuel + 1) levels false (',' :: text) rest (value :: values) := by
  intro offset
  obtain ⟨c, tail, hopen, hc⟩ := hv.opens (offset + ','.utf8Size)
  obtain ⟨node, place, hnode, hspells⟩ := hv (offset + ','.utf8Size)
  obtain ⟨items, stop, hitems, hall⟩ := hr place
  refine ⟨.item node items, stop, ?_, .item hspells hall⟩
  cases fuel with
  | zero => simp [readValue] at hnode
  | succ fuel =>
    rw [← readValue_skipSpaces] at hnode
    have hcomma : Cursor.skipSpaces ⟨',' :: text, offset⟩ = ⟨',' :: text, offset⟩ :=
      Cursor.skipSpaces_cons (by decide) text offset
    rw [readItems]
    simp [hcomma, Cursor.next, hopen, hc, hnode, hitems]

end ReadsItems

namespace ReadsMembers

variable {fuel levels : Nat} {layout : Layout} {key : String} {text middle rest : List Char}
  {value : Json} {entries : List (String × Json)}

theorem done {spaces : List Char} (h : Spaces spaces) (first : Bool) :
    ReadsMembers (fuel + 1) levels first (spaces ++ '\x7d' :: rest) rest [] := by
  intro offset
  refine ⟨.done, offset + spaces.length + '\x7d'.utf8Size, ?_, .done⟩
  simp [readMembers, Cursor.skipSpaces_append h, Cursor.skipSpaces_cons, Cursor.isSpace,
    Cursor.next]

/-- What stands between a key and its value is read as its colon. -/
theorem colon (layout : Layout) : ∃ blanks, layout.colon = ':' :: blanks ∧ Spaces blanks := by
  cases layout with
  | compact => exact ⟨[], rfl, by simp [Spaces]⟩
  | indented width => exact ⟨[' '], rfl, by simp [Spaces, Cursor.isSpace]⟩

/-- A member and the members behind it are the members from the first one on. -/
theorem first (hv : Reads fuel levels text middle value)
    (hr : ReadsMembers fuel levels false middle rest entries) {spaces : List Char}
    (hs : Spaces spaces) (layout : Layout) (key : String) :
    ReadsMembers (fuel + 1) levels true (spaces ++ (quoted key ++ (layout.colon ++ text))) rest
      ((key, value) :: entries) := by
  intro offset
  obtain ⟨blanks, hcolon, hblanks⟩ := colon layout
  obtain ⟨behind, hkey⟩ := takeString_quoted key (':' :: (blanks ++ text))
    (offset + spaces.length + '"'.utf8Size)
  obtain ⟨node, place, hnode, hspells⟩ := hv.spaces hblanks (behind + ':'.utf8Size)
  obtain ⟨members, stop, hmembers, hall⟩ := hr place
  refine ⟨.member key (Cursor.settled ⟨':' :: (blanks ++ text), behind⟩) node
    (Cursor.settled ⟨middle, place⟩) members, stop, ?_, .member key _ _ hspells hall⟩
  rw [readMembers]
  simp [quoted, hcolon, Cursor.skipSpaces_append hs, Cursor.skipSpaces_cons, Cursor.isSpace,
    Cursor.next, hkey, hnode, hmembers]

/-- A comma and a member continue the members. -/
theorem next (hv : Reads fuel levels text middle value)
    (hr : ReadsMembers fuel levels false middle rest entries) {spaces : List Char}
    (hs : Spaces spaces) (layout : Layout) (key : String) :
    ReadsMembers (fuel + 1) levels false
      (',' :: (spaces ++ (quoted key ++ (layout.colon ++ text)))) rest
      ((key, value) :: entries) := by
  intro offset
  obtain ⟨blanks, hcolon, hblanks⟩ := colon layout
  obtain ⟨behind, hkey⟩ := takeString_quoted key (':' :: (blanks ++ text))
    (offset + ','.utf8Size + spaces.length + '"'.utf8Size)
  obtain ⟨node, place, hnode, hspells⟩ := hv.spaces hblanks (behind + ':'.utf8Size)
  obtain ⟨members, stop, hmembers, hall⟩ := hr place
  refine ⟨.member key (Cursor.settled ⟨':' :: (blanks ++ text), behind⟩) node
    (Cursor.settled ⟨middle, place⟩) members, stop, ?_, .member key _ _ hspells hall⟩
  rw [readMembers]
  simp [quoted, hcolon, Cursor.skipSpaces_append hs, Cursor.skipSpaces_cons, Cursor.isSpace,
    Cursor.next, hkey, hnode, hmembers]

end ReadsMembers

theorem spaces_break (layout : Layout) (depth : Nat) : Spaces (layout.break depth) := by
  cases layout with
  | compact => simp [Spaces, Layout.break]
  | indented width =>
    intro c hc
    rcases List.mem_cons.mp hc with rfl | hc
    · rfl
    · rw [(List.mem_replicate.mp hc).2]
      rfl

theorem ends_cons {c : Char} (h : c ∈ [',', ']', '\x7d', '\n']) (rest : List Char) :
    Ends (c :: rest) := by
  intro d hd
  simp only [List.head?_cons, Option.mem_some_iff] at hd
  subst hd
  simp only [List.mem_cons, List.not_mem_nil, or_false] at h
  rcases h with rfl | rfl | rfl | rfl <;> decide

theorem ends_break (layout : Layout) (depth : Nat) {rest : List Char} (h : Ends rest) :
    Ends (layout.break depth ++ rest) := by
  cases layout with
  | compact => exact h
  | indented width => exact ends_cons (by simp) _

theorem ends_writeItems (layout : Layout) (depth : Nat) (values : List Json) {rest : List Char}
    (h : Ends rest) : Ends (writeItems layout depth values ++ rest) := by
  cases values with
  | nil => simpa [writeItems] using h
  | cons value values => simpa [writeItems] using ends_cons (by simp) _

theorem ends_writeMembers (layout : Layout) (depth : Nat) (entries : List (String × Json))
    {rest : List Char} (h : Ends rest) : Ends (writeMembers layout depth entries ++ rest) := by
  cases entries with
  | nil => simpa [writeMembers] using h
  | cons entry entries => simpa [writeMembers] using ends_cons (by simp) _

theorem size_pos (value : Json) : 0 < value.size := by
  unfold size
  split <;> omega

theorem itemsSize_pos (values : List Json) : 0 < itemsSize values := by
  cases values with
  | nil => simp [itemsSize]
  | cons value values =>
    have := size_pos value
    simp only [itemsSize]
    omega

theorem membersSize_pos (entries : List (String × Json)) : 0 < membersSize entries := by
  cases entries with
  | nil => simp [membersSize]
  | cons entry entries =>
    have := size_pos entry.2
    simp only [membersSize]
    omega

mutual

/-- The printed value is read back, whatever stands behind it that does not continue a number. -/
theorem reads_write (layout : Layout) : ∀ (value : Json) (depth : Nat) {fuel levels : Nat}
    {rest : List Char}, value.NumbersReadBack → value.size ≤ fuel → value.brackets ≤ levels →
    Ends rest → Reads fuel levels (write layout depth value ++ rest) rest value
  | value, _, 0, _, _, _, hfuel, _, _ => by
    have hpos := size_pos value
    omega
  | .null, _, _ + 1, _, _, _, _, _, _ => .null
  | .bool b, _, _ + 1, _, _, _, _, _, _ => .bool b
  | .number _, _, _ + 1, _, _, hn, _, _, hrest => .number hn hrest
  | .string text, _, _ + 1, _, _, _, _, _, _ => .string text
  | .array values, depth, fuel + 1, 0, rest, _, _, hlevels, _ => by
    simp [brackets] at hlevels
  | .object entries, depth, fuel + 1, 0, rest, _, _, hlevels, _ => by
    simp [brackets] at hlevels
  | .array [], depth, 1, levels + 1, rest, _, hfuel, _, _ => by
    simp [size, itemsSize] at hfuel
  | .array [], depth, fuel + 2, levels + 1, rest, _, _, _, _ =>
    .array (@ReadsItems.done _ _ _ [] (by simp [Spaces]) true)
  | .array (value :: values), depth, fuel + 1, levels + 1, rest, hn, hfuel, hlevels, hrest => by
    have hpos := size_pos value
    have hposs := itemsSize_pos values
    simp only [size, itemsSize, brackets, itemBrackets] at hfuel hlevels
    have hends := ends_writeItems layout (depth + 1) values
      (ends_break layout depth (@ends_cons ']' (by simp) rest))
    cases fuel with
    | zero => omega
    | succ fuel =>
      have hitems := @reads_writeItems layout values (depth + 1) depth fuel levels rest hn.2
        (by omega) (by omega)
      have hvalue := @reads_write layout value (depth + 1) fuel levels _ hn.1 (by omega)
        (by omega) hends
      have h := Reads.array (ReadsItems.first
        (hvalue.spaces (spaces_break layout (depth + 1))) hitems)
      simpa [write] using h
  | .object [], depth, 1, levels + 1, rest, _, hfuel, _, _ => by
    simp [size, membersSize] at hfuel
  | .object [], depth, fuel + 2, levels + 1, rest, _, _, _, _ =>
    .object (@ReadsMembers.done _ _ _ [] (by simp [Spaces]) true)
  | .object ((key, value) :: entries), depth, fuel + 1, levels + 1, rest, hn, hfuel, hlevels,
      hrest => by
    have hpos := size_pos value
    have hposs := membersSize_pos entries
    simp only [size, membersSize, brackets, memberBrackets] at hfuel hlevels
    have hends := ends_writeMembers layout (depth + 1) entries
      (ends_break layout depth (@ends_cons '\x7d' (by simp) rest))
    cases fuel with
    | zero => omega
    | succ fuel =>
      have hmembers := @reads_writeMembers layout entries (depth + 1) depth fuel levels rest hn.2
        (by omega) (by omega)
      have hvalue := @reads_write layout value (depth + 1) fuel levels _ hn.1 (by omega)
        (by omega) hends
      have h := Reads.object (ReadsMembers.first hvalue hmembers
        (spaces_break layout (depth + 1)) layout key)
      simpa [write] using h

theorem reads_writeItems (layout : Layout) : ∀ (values : List Json) (depth close : Nat)
    {fuel levels : Nat} {rest : List Char}, ItemsReadBack values → itemsSize values ≤ fuel →
    itemBrackets values ≤ levels →
    ReadsItems fuel levels false
      (writeItems layout depth values ++ (layout.break close ++ ']' :: rest)) rest values
  | values, _, _, 0, _, _, _, hfuel, _ => by
    have hpos := itemsSize_pos values
    omega
  | [], depth, close, fuel + 1, levels, rest, _, hfuel, _ => by
    rw [writeItems, List.nil_append]
    exact .done (spaces_break layout close) false
  | value :: values, depth, close, fuel + 1, levels, rest, hn, hfuel, hlevels => by
    have hpos := size_pos value
    have hposs := itemsSize_pos values
    simp only [itemsSize, itemBrackets] at hfuel hlevels
    have hitems := @reads_writeItems layout values depth close fuel levels rest hn.2 (by omega)
      (by omega)
    have hends := ends_writeItems layout depth values
      (ends_break layout close (@ends_cons ']' (by simp) rest))
    have hvalue := @reads_write layout value depth fuel levels _ hn.1 (by omega) (by omega) hends
    have h := ReadsItems.next (hvalue.spaces (spaces_break layout depth)) hitems
    simpa [writeItems] using h

theorem reads_writeMembers (layout : Layout) : ∀ (entries : List (String × Json))
    (depth close : Nat) {fuel levels : Nat} {rest : List Char}, MembersReadBack entries →
    membersSize entries ≤ fuel → memberBrackets entries ≤ levels →
    ReadsMembers fuel levels false
      (writeMembers layout depth entries ++ (layout.break close ++ '\x7d' :: rest)) rest entries
  | entries, _, _, 0, _, _, _, hfuel, _ => by
    have hpos := membersSize_pos entries
    omega
  | [], depth, close, fuel + 1, levels, rest, _, hfuel, _ => by
    rw [writeMembers, List.nil_append]
    exact .done (spaces_break layout close) false
  | (key, value) :: entries, depth, close, fuel + 1, levels, rest, hn, hfuel, hlevels => by
    have hpos := size_pos value
    have hposs := membersSize_pos entries
    simp only [membersSize, memberBrackets] at hfuel hlevels
    have hmembers := @reads_writeMembers layout entries depth close fuel levels rest hn.2
      (by omega) (by omega)
    have hends := ends_writeMembers layout depth entries
      (ends_break layout close (@ends_cons '\x7d' (by simp) rest))
    have hvalue := @reads_write layout value depth fuel levels _ hn.1 (by omega) (by omega) hends
    have h := ReadsMembers.next hvalue hmembers (spaces_break layout depth) layout key
    simpa [writeMembers] using h

end

mutual

theorem size_le_length (layout : Layout) : ∀ (value : Json) (depth : Nat), value.NumbersReadBack →
    value.size ≤ (write layout depth value).length
  | .null, _, _ => by simp [size, write]
  | .bool true, _, _ => by simp [size, write]
  | .bool false, _, _ => by simp [size, write]
  | .number n, _, hn => by
    obtain ⟨spaces, c, tail, htext, _⟩ := number_parts hn
    simp only [size, write, htext, List.length_append, List.length_cons]
    omega
  | .string text, _, _ => by simp [size, write, quoted]
  | .array [], _, _ => by simp [size, itemsSize, write]
  | .array (value :: values), depth, hn => by
    have hvalue := size_le_length layout value (depth + 1) hn.1
    have hitems := itemsSize_le_length layout values (depth + 1) hn.2
    simp only [size, itemsSize, write, List.length_cons, List.length_append]
    omega
  | .object [], _, _ => by simp [size, membersSize, write]
  | .object ((key, value) :: entries), depth, hn => by
    have hvalue := size_le_length layout value (depth + 1) hn.1
    have hmembers := membersSize_le_length layout entries (depth + 1) hn.2
    simp only [size, membersSize, write, List.length_cons, List.length_append]
    omega

theorem itemsSize_le_length (layout : Layout) : ∀ (values : List Json) (depth : Nat),
    ItemsReadBack values → itemsSize values ≤ (writeItems layout depth values).length + 1
  | [], _, _ => by simp [itemsSize]
  | value :: values, depth, hn => by
    have hvalue := size_le_length layout value depth hn.1
    have hitems := itemsSize_le_length layout values depth hn.2
    simp only [itemsSize, writeItems, List.length_cons, List.length_append]
    omega

theorem membersSize_le_length (layout : Layout) : ∀ (entries : List (String × Json)) (depth : Nat),
    MembersReadBack entries → membersSize entries ≤ (writeMembers layout depth entries).length + 1
  | [], _, _ => by simp [membersSize]
  | (_, value) :: entries, depth, hn => by
    have hvalue := size_le_length layout value depth hn.1
    have hmembers := membersSize_le_length layout entries depth hn.2
    simp only [membersSize, writeMembers, List.length_cons, List.length_append]
    omega

end

/-- The reader takes the whole printed text as one value and finds nothing behind it. -/
theorem read_write (layout : Layout) {value : Json} (h : value.ReadsBack) :
    ∃ node, Node.read (String.ofList (write layout 0 value)) = (node, none) ∧
      node.Spells value := by
  have hsize := size_le_length layout value 0 h.1
  have hread := @reads_write layout value 0 (2 * (write layout 0 value).length + 2) maxLevels []
    h.1 (by omega) h.2 (by simp [Ends])
  rw [List.append_nil] at hread
  obtain ⟨node, stop, hnode, hspells⟩ := hread 0
  refine ⟨node, ?_, hspells⟩
  simp [Node.read, hnode, Cursor.skipSpaces]

end SignalCatalog.Json
