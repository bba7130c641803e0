import SignalCatalog.Proofs.Json.Shapes

/-!
# Places in a document

A path of keys leads to a value of a document. In the tree of a text it takes the last member of a
repeated key, and this is the one that the value of the tree keeps. The shape of a document says
where its records stand. `Preserves` compares two values of one shape: what stands in a record of
the first one under a key that is no field of the record stands at the same place in the second one.
For this a record has to keep such members itself, and what is under its fields, or under the keys
of a dictionary, has to do the same.
-/

namespace SignalCatalog.Json

/-- The value at the end of a path of keys. -/
def at? : List String → Json → Option Json
  | [], value => some value
  | key :: path, value => (value.member? key).bind (at? path)

/-- The value of the last member of a key. -/
def NodeMembers.last? (key : String) : NodeMembers → Option Node
  | .done => none
  | .fault _ => none
  | .member k _ value _ rest => (rest.last? key).or (if k = key then some value else none)

def Node.last? (key : String) : Node → Option Node
  | .object _ members => members.last? key
  | _ => none

/-- The tree at the end of a path of keys; of a repeated key the last value counts. -/
def Node.at? : List String → Node → Option Node
  | [], node => some node
  | key :: path, node => (node.last? key).bind (Node.at? path)

theorem at?_cons (key : String) (path : List String) (value : Json) :
    value.at? (key :: path) = (value.member? key).bind (at? path) := rfl

theorem at?_singleton (key : String) (value : Json) : value.at? [key] = value.member? key := by
  rw [at?_cons]
  cases value.member? key <;> rfl

/-- A path that goes on leads nowhere from a value without members. -/
theorem at?_append_of_members_nil {value : Json} (h : value.members = []) (path : List String)
    (key : String) : value.at? (path ++ [key]) = none := by
  cases path <;> simp [at?_cons, member?, h, Entries.get?]

theorem NodeMembers.get?_reverse_pairs (key : String) (members : NodeMembers) :
    Entries.get? key members.pairs.reverse = (members.last? key).map Node.value := by
  fun_induction NodeMembers.last? key members with
  | case1 => rfl
  | case2 => rfl
  | case3 k afterKey value afterValue rest ih =>
    rw [pairs, List.reverse_cons, Entries.get?_append, ih]
    by_cases hk : k = key <;> cases rest.last? key <;> simp [Entries.get?, hk]

theorem Node.member?_value (key : String) (node : Node) :
    node.value.member? key = (node.last? key).map Node.value := by
  cases node with
  | object _ members => exact (Entries.get?_ofPairs _).trans (members.get?_reverse_pairs key)
  | _ => rfl

/-- The value of a tree has at every place the value of what the tree has there. -/
theorem Node.at?_value (path : List String) (node : Node) :
    node.value.at? path = (node.at? path).map Node.value := by
  induction path generalizing node with
  | nil => rfl
  | cons key path ih =>
    rw [at?_cons, member?_value, Node.at?]
    cases node.last? key with
    | none => rfl
    | some inner => exact ih inner

/-- A well-formed value is parsed from its printed text. -/
theorem parse_indented {value : Json} (hw : value.WellFormed) (hr : value.ReadsBack) :
    parse value.indented = .ok value := by
  obtain ⟨node, hread, hspells⟩ := read_write (.indented 4) hr
  simp [parse, indented, hread, hspells.firstFault?, hspells.value_eq hw]

variable {K : Type} {records : Records K}

/-- The kind of the record that a place accepts. -/
def Shape.kind? : Shape K → Option K
  | record kind _ => some kind
  | recordOrString kind _ => some kind
  | _ => none

/-- The shape of what stands under a key. -/
def Shape.under? (records : Records K) (key : String) : Shape K → Option (Shape K)
  | dictionary value => some value
  | record kind _ => Entries.get? key (records.fields kind)
  | recordOrString kind _ => Entries.get? key (records.fields kind)
  | _ => none

/-- The kind of the record at the end of a path of keys. -/
def Shape.recordAt? (records : Records K) : List String → Shape K → Option K
  | [], shape => shape.kind?
  | key :: path, shape => (shape.under? records key).bind (recordAt? records path)

theorem Shape.recordAt?_append {shape : Shape K} {path : List String} {kind : K}
    (h : shape.recordAt? records path = some kind) (key : String) (rest : List String) :
    shape.recordAt? records (path ++ key :: rest) =
      (Entries.get? key (records.fields kind)).bind (Shape.recordAt? records rest) := by
  induction path generalizing shape with
  | nil => cases shape <;> cases h <;> rfl
  | cons first path ih =>
    obtain ⟨inner, hinner, hkind⟩ := Option.bind_eq_some_iff.mp h
    rw [List.cons_append, recordAt?, hinner]
    exact ih hkind

/-- Whether there are records in values of the shape. -/
def Shape.holdsRecords : Shape K → Bool
  | dictionary value => value.holdsRecords
  | record .. => true
  | recordOrString .. => true
  | _ => false

theorem Shape.recordAt?_eq_none {shape : Shape K} (h : shape.holdsRecords = false)
    (path : List String) : shape.recordAt? records path = none := by
  induction path generalizing shape with
  | nil => cases shape <;> first | rfl | simp [holdsRecords] at h
  | cons key path ih =>
    cases shape with
    | dictionary value => exact ih h
    | record => simp [holdsRecords] at h
    | recordOrString => simp [holdsRecords] at h
    | _ => rfl

/-- Every member of a record in the first value that is no field of the record is in the second
value at the same place. -/
def Preserves (records : Records K) (shape : Shape K) (read written : Json) : Prop :=
  ∀ path kind key value, shape.recordAt? records path = some kind →
    key ∉ Entries.keys (records.fields kind) → read.at? (path ++ [key]) = some value →
    written.at? (path ++ [key]) = some value

section Preserves

variable {shape : Shape K} {read written : Json}

theorem preserves_of_members_nil (h : read.members = []) :
    Preserves records shape read written := by
  intro path kind key value _ _ hvalue
  rw [at?_append_of_members_nil h] at hvalue
  exact nomatch hvalue

theorem preserves_of_holdsNone (h : shape.holdsRecords = false) :
    Preserves records shape read written := by
  intro path kind key value hkind _ _
  rw [Shape.recordAt?_eq_none h] at hkind
  exact nomatch hkind

/-- One level of a document: the members that are no fields stay, and all others preserve what is
under them. A member that is not written must have had nothing under it. -/
theorem preserves_of_members
    (hrest : ∀ kind, shape.kind? = some kind → ∀ key, key ∉ Entries.keys (records.fields kind) →
      ∀ value, read.member? key = some value → written.member? key = some value)
    (hunder : ∀ key inner, shape.under? records key = some inner → ∀ value,
      read.member? key = some value →
      Preserves records inner value ((written.member? key).getD .null)) :
    Preserves records shape read written := by
  intro path kind key value hkind hkey hvalue
  cases path with
  | nil =>
    rw [List.nil_append, at?_singleton] at hvalue ⊢
    exact hrest kind hkind key hkey value hvalue
  | cons first path =>
    obtain ⟨inner, hinner, hkind⟩ := Option.bind_eq_some_iff.mp hkind
    obtain ⟨middle, hmiddle, hvalue⟩ := Option.bind_eq_some_iff.mp hvalue
    have hwritten := hunder first inner hinner middle hmiddle path kind key value hkind hkey hvalue
    rw [List.cons_append, at?_cons]
    cases hmember : written.member? first with
    | some other => simpa [hmember] using hwritten
    | none => simp [hmember, @at?_append_of_members_nil .null rfl] at hwritten

/-- A dictionary preserves what the values under its keys do. -/
theorem preserves_dictionary {f : String → Json → Json}
    (hmembers : written.members = read.members.map fun entry => (entry.1, f entry.1 entry.2))
    (h : ∀ entry ∈ read.members, Preserves records shape entry.2 (f entry.1 entry.2)) :
    Preserves records (.dictionary shape) read written := by
  apply preserves_of_members
  · exact fun _ hkind => nomatch hkind
  · intro key inner hinner value hvalue
    have hwritten : written.member? key = some (f key value) := by
      rw [member?, hmembers, Entries.get?_map, ← member?, hvalue, Option.map_some]
    rw [hwritten, Option.getD_some, ← Option.some.inj hinner]
    exact h (key, value) (Entries.mem_of_get? hvalue)

end Preserves

end SignalCatalog.Json
