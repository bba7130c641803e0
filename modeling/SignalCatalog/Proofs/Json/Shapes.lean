import SignalCatalog.Json.Shape
import SignalCatalog.Proofs.Json.Reading
import SignalCatalog.Proofs.OrderedMap

/-!
# Documents of a shape

A well-formed value that has a shape is read back from its printed text by the reader of that shape,
which checks the shape on the tree of nodes while it reads.
-/

namespace SignalCatalog.Json

variable {K : Type} {records : Records K}

theorem membersWellFormed_iff {members : List (String × Json)} :
    MembersWellFormed members ↔ ∀ entry ∈ members, entry.2.WellFormed := by
  induction members with
  | nil => simp [MembersWellFormed]
  | cons entry rest ih => simp [MembersWellFormed, ih]

theorem allWellFormed_iff {values : List Json} :
    AllWellFormed values ↔ ∀ value ∈ values, value.WellFormed := by
  induction values with
  | nil => simp [AllWellFormed]
  | cons value rest ih => simp [AllWellFormed, ih]

theorem membersFit_iff {shape : MemberShape K} {members : List (String × Json)} :
    MembersFit records shape members ↔
      ∀ entry ∈ members, Fits records (shape.of records entry.1) entry.2 := by
  induction members with
  | nil => simp [MembersFit]
  | cons entry rest ih => simp [MembersFit, ih]

theorem allFit_iff {shape : Shape K} {values : List Json} :
    AllFit records shape values ↔ ∀ value ∈ values, Fits records shape value := by
  induction values with
  | nil => simp [AllFit]
  | cons value rest ih => simp [AllFit, ih]

theorem fits_anything (value : Json) : Fits records .anything value := by
  cases value <;> trivial

mutual

theorem Node.Spells.firstFault? {node : Node} {value : Json} :
    node.Spells value → node.firstFault? = none
  | .null _ => rfl
  | .bool .. => rfl
  | .number .. => rfl
  | .string .. => rfl
  | .array _ h => h.firstFault?
  | .object _ h => h.firstFault?

theorem NodeItems.Spells.firstFault? {items : NodeItems} {values : List Json} :
    items.Spells values → items.firstFault? = none
  | .done => rfl
  | .item h hrest => by simp [NodeItems.firstFault?, h.firstFault?, hrest.firstFault?]

theorem NodeMembers.Spells.firstFault? {members : NodeMembers} {entries : List (String × Json)} :
    members.Spells entries → members.firstFault? = none
  | .done => rfl
  | .member _ _ _ h hrest => by
    simp [NodeMembers.firstFault?, h.firstFault?, hrest.firstFault?]

end

mutual

theorem Node.Spells.value_eq {node : Node} {value : Json} :
    node.Spells value → value.WellFormed → node.value = value
  | .null _, _ => rfl
  | .bool .., _ => rfl
  | .number .., _ => rfl
  | .string .., _ => rfl
  | .array _ h, hw => congrArg Json.array (h.values_eq hw)
  | .object _ h, hw => by
    rw [Node.value, h.pairs_eq hw.2, Entries.ofPairs_of_nodup hw.1]

theorem NodeItems.Spells.values_eq {items : NodeItems} {values : List Json} :
    items.Spells values → AllWellFormed values → items.values = values
  | .done, _ => rfl
  | .item h hrest, hw => by rw [NodeItems.values, h.value_eq hw.1, hrest.values_eq hw.2]

theorem NodeMembers.Spells.pairs_eq {members : NodeMembers} {entries : List (String × Json)} :
    members.Spells entries → MembersWellFormed entries → members.pairs = entries
  | .done, _ => rfl
  | .member _ _ _ h hrest, hw => by
    rw [NodeMembers.pairs, h.value_eq hw.1, hrest.pairs_eq hw.2]

end

mutual

/-- The check of a shape finds no fault in the tree of a value that has the shape. -/
theorem Node.Spells.fault? (records : Records K) {shape : Shape K} {node : Node} {value : Json} :
    node.Spells value → value.WellFormed → Fits records shape value →
    node.fault? records shape = none
  | .null _, _, hf => by
    unfold Fits at hf
    split at hf
    all_goals simp_all [Node.fault?]
  | .bool .., _, hf => by
    unfold Fits at hf
    split at hf
    all_goals simp_all [Node.fault?]
  | .number .., _, hf => by
    unfold Fits at hf
    split at hf
    all_goals simp_all [Node.fault?]
  | .string .., _, hf => by
    unfold Fits at hf
    split at hf
    all_goals simp_all [Node.fault?]
  | .array _ h, hw, hf => by
    cases shape with
    | anything => exact h.firstFault?
    | list item => exact h.fault? records hw hf
    | _ => exact False.elim hf
  | @Node.Spells.object _ members _ h, hw, hf => by
    cases shape with
    | anything => exact h.firstFault?
    | dictionary value => exact h.fault? records hw.2 hf hw.1 (by simp)
    | record kind orNull => exact h.fault? records hw.2 hf hw.1 (by simp)
    | recordOrString kind name =>
      have hmembers : members.fault? records (.fields kind) [] = none :=
        h.fault? records hw.2 hf hw.1 (by simp)
      simp [Node.fault?, h.firstFault?, hmembers]
    | _ => exact False.elim hf

theorem NodeItems.Spells.fault? (records : Records K) {shape : Shape K} {items : NodeItems}
    {values : List Json} : items.Spells values → AllWellFormed values →
    AllFit records shape values → items.fault? records shape = none
  | .done, _, _ => rfl
  | .item h hrest, hw, hf => by
    simp [NodeItems.fault?, h.fault? records hw.1 hf.1, hrest.fault? records hw.2 hf.2]

theorem NodeMembers.Spells.fault? (records : Records K) {shape : MemberShape K}
    {members : NodeMembers} {entries : List (String × Json)} {seen : List String} :
    members.Spells entries → MembersWellFormed entries → MembersFit records shape entries →
    (Entries.keys entries).Nodup → (∀ key ∈ seen, key ∉ Entries.keys entries) →
    members.fault? records shape seen = none
  | .done, _, _, _, _ => rfl
  | .member key _ _ h hrest, hw, hf, hn, hseen => by
    obtain ⟨hfresh, hnrest⟩ := List.nodup_cons.mp hn
    have hnew : shape.repeats records seen key = false := by
      have hk : key ∉ seen := fun hk => hseen key hk List.mem_cons_self
      cases shape <;> simp [MemberShape.repeats, hk]
    rw [NodeMembers.fault?, hnew, h.fault? records hw.1 hf.1]
    apply hrest.fault? records hw.2 hf.2 hnrest
    intro other ho
    rcases List.mem_cons.mp ho with rfl | ho
    · exact hfresh
    · exact fun hmem => hseen other ho (List.mem_cons_of_mem _ hmem)

end

/-- A text that spells a well-formed value of a shape is read as the value. -/
theorem readAs_of_spells (records : Records K) {shape : Shape K} {text : String} {node : Node}
    {value : Json} (hread : Node.read text = (node, none)) (hspells : node.Spells value)
    (hw : value.WellFormed) (hf : Fits records shape value) :
    readAs records shape text = .ok value := by
  simp [readAs, hread, hspells.fault? records hw hf, hspells.value_eq hw]

mutual

/-- Whatever was read, the keys of its objects are distinct. -/
theorem Node.wellFormed_value : ∀ node : Node, node.value.WellFormed
  | .fault _ => trivial
  | .null _ => trivial
  | .bool .. => trivial
  | .number .. => trivial
  | .string .. => trivial
  | .array _ items => items.allWellFormed_values
  | .object _ members => by
    refine ⟨Entries.nodup_keys_ofPairs _, membersWellFormed_iff.mpr ?_⟩
    intro entry he
    exact membersWellFormed_iff.mp members.membersWellFormed_pairs entry (Entries.mem_ofPairs he)

theorem NodeItems.allWellFormed_values : ∀ items : NodeItems, AllWellFormed items.values
  | .done => trivial
  | .fault _ => trivial
  | .item value rest => ⟨value.wellFormed_value, rest.allWellFormed_values⟩

theorem NodeMembers.membersWellFormed_pairs : ∀ members : NodeMembers,
    MembersWellFormed members.pairs
  | .done => trivial
  | .fault _ => trivial
  | .member _ _ value _ rest => ⟨value.wellFormed_value, rest.membersWellFormed_pairs⟩

end

/-- What a reader of a shape returns is the value of the tree of the text. -/
theorem value_of_readAs {shape : Shape K} {text : String} {value : Json}
    (h : readAs records shape text = .ok value) : (Node.read text).1.value = value := by
  unfold readAs at h
  cases hfault : ((Node.read text).1.fault? records shape <|> (Node.read text).2) with
  | some fault => simp [hfault] at h
  | none => simpa [hfault] using h

theorem wellFormed_of_readAs {shape : Shape K} {text : String} {value : Json}
    (h : readAs records shape text = .ok value) : value.WellFormed := by
  rw [← value_of_readAs h]
  exact Node.wellFormed_value _

end SignalCatalog.Json
