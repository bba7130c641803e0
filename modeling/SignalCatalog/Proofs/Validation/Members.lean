import SignalCatalog.Proofs.Validation.Validity

/-!
# Members of valid projects

A struct has members and no other signal has, and members nest at most three levels deep: this holds
of every signal of a project in which validation finds no error. It does not hold of the members
below: validation does not look at their types, so that a member that is no struct may have members,
and a struct below the first level may have none. The main statement says both.
-/

namespace SignalCatalog

namespace StructField

/-- Names of members that lead down, each among the members of the one before. -/
inductive Chain : List (String × StructField) → List String → Prop
  | nil {fields : List (String × StructField)} : Chain fields []
  | cons {fields : List (String × StructField)} {name : String} {field : StructField}
    {rest : List String} (h : (name, field) ∈ fields) (hrest : Chain field.fields rest) :
    Chain fields (name :: rest)

/-- A member at any level. -/
inductive Within (field : StructField) : List (String × StructField) → Prop
  | here {fields : List (String × StructField)} {name : String} (h : (name, field) ∈ fields) :
    Within field fields
  | deeper {fields : List (String × StructField)} {name : String} {outer : StructField}
    (h : (name, outer) ∈ fields) (hwithin : Within field outer.fields) : Within field fields

theorem depth_eq (field : StructField) : field.depth = depths field.fields := by
  cases field
  rfl

theorem depths_cons (name : String) (field : StructField) (rest : List (String × StructField)) :
    depths ((name, field) :: rest) = max (depths field.fields + 1) (depths rest) := by
  rw [depths, depth_eq]

theorem depths_lt_of_mem {fields : List (String × StructField)} {name : String}
    {field : StructField} (h : (name, field) ∈ fields) : depths field.fields < depths fields := by
  induction fields with
  | nil => cases h
  | cons first rest ih =>
    obtain ⟨key, first⟩ := first
    rw [depths_cons]
    rcases List.mem_cons.mp h with hfirst | hrest
    · cases hfirst
      omega
    · have hdepth := ih hrest
      omega

theorem Chain.mono {fields more : List (String × StructField)} (h : fields ⊆ more)
    {chain : List String} (hchain : Chain fields chain) : Chain more chain := by
  cases hchain with
  | nil => exact .nil
  | cons hmem hrest => exact .cons (h hmem) hrest

theorem Chain.length_le {fields : List (String × StructField)} {chain : List String}
    (h : Chain fields chain) : chain.length ≤ depths fields := by
  induction h with
  | nil => exact Nat.zero_le _
  | cons hmem _ ih =>
    have hdepth := depths_lt_of_mem hmem
    rw [List.length_cons]
    omega

mutual

/-- The levels are those of a longest chain. -/
theorem exists_chain_below :
    ∀ field : StructField, ∃ chain, Chain field.fields chain ∧ chain.length = field.depth
  | ⟨_, _, fields, _⟩ => exists_chain fields

theorem exists_chain : ∀ fields : List (String × StructField),
    ∃ chain, Chain fields chain ∧ chain.length = depths fields
  | [] => ⟨[], .nil, rfl⟩
  | (name, field) :: rest => by
    rw [depths]
    rcases Nat.le_total (depths rest) (field.depth + 1) with hle | hle
    · obtain ⟨chain, hchain, hlength⟩ := exists_chain_below field
      exact ⟨name :: chain, .cons List.mem_cons_self hchain,
        by rw [List.length_cons, hlength, Nat.max_eq_left hle]⟩
    · obtain ⟨chain, hchain, hlength⟩ := exists_chain rest
      exact ⟨chain, hchain.mono (List.subset_cons_self _ _),
        by rw [hlength, Nat.max_eq_right hle]⟩

end

theorem depths_le_iff {fields : List (String × StructField)} {n : Nat} :
    depths fields ≤ n ↔ ∀ chain, Chain fields chain → chain.length ≤ n := by
  constructor
  · intro h chain hchain
    exact Nat.le_trans hchain.length_le h
  · intro h
    obtain ⟨chain, hchain, hlength⟩ := exists_chain fields
    exact hlength ▸ h chain hchain

/-! ## Other types -/

mutual

/-- The member with other types at every level, given by the names that lead to a member. -/
def retyped (types : List String → DataType) (path : List String) : StructField → StructField
  | ⟨_, description, fields, extra⟩ => ⟨types path, description, retypedAll types path fields, extra⟩

def retypedAll (types : List String → DataType) (path : List String) :
    List (String × StructField) → List (String × StructField)
  | [] => []
  | (name, field) :: rest => (name, retyped types (path ++ [name]) field) :: retypedAll types path rest

end

mutual

theorem depth_retyped (types : List String → DataType) (path : List String) :
    ∀ field : StructField, (field.retyped types path).depth = field.depth
  | ⟨_, _, fields, _⟩ => depths_retypedAll types path fields

theorem depths_retypedAll (types : List String → DataType) (path : List String) :
    ∀ fields : List (String × StructField), depths (retypedAll types path fields) = depths fields
  | [] => rfl
  | (name, field) :: rest => by
    rw [retypedAll, depths, depths, depth_retyped types (path ++ [name]) field,
      depths_retypedAll types path rest]

end

end StructField

namespace Signal

/-- The signal with other types of its members. -/
def retyped (types : List String → DataType) (signal : Signal) : Signal :=
  { signal with fields := StructField.retypedAll types [] signal.fields }

variable (types : List String → DataType) (signal : Signal)

theorem structViolations_retyped (name : String) :
    (signal.retyped types).structViolations name = signal.structViolations name := by
  have hdepth : (signal.retyped types).depth = signal.depth :=
    StructField.depths_retypedAll types [] signal.fields
  have hempty : (signal.retyped types).fields.isEmpty = signal.fields.isEmpty := by
    cases hfields : signal.fields <;> simp [retyped, hfields, StructField.retypedAll]
  rw [structViolations, structViolations, hdepth, hempty]
  rfl

end Signal

namespace Project

/-- The project with other types of all members, by the name of the signal and those that lead to
the member. -/
def retyped (types : String → List String → DataType) (project : Project) : Project :=
  { project with
    signals := project.signals.mapValues fun name signal => signal.retyped (types name) }

/-- Validation does not look at the types of members. -/
theorem issues_retyped (types : String → List String → DataType) (project : Project) (today : Date)
    (baseline : Option String) :
    (project.retyped types).issues today baseline = project.issues today baseline := by
  have hsignal : ∀ name signal, (project.retyped types).signalViolations name
      (signal.retyped (types name)) = project.signalViolations name signal := by
    intro name signal
    rw [signalViolations, signalViolations, Signal.structViolations_retyped]
    rfl
  have hentries : (project.retyped types).signals.entries =
      project.signals.entries.map fun entry => (entry.1, entry.2.retyped (types entry.1)) := rfl
  have hviolations : (project.retyped types).violations = project.violations := by
    rw [violations, violations, hentries, List.flatMap_map]
    simp only [hsignal]
    rfl
  have hunreadable : (project.retyped types).unreadable = project.unreadable := by
    rw [unreadable, unreadable, hentries, List.flatMap_map]
    rfl
  rw [issues, issues, hviolations, unreadableAdvice, hunreadable]
  rfl

/-- In a project without errors every signal has members exactly if it is a struct, and no chain of
members is longer than three. Beyond that members are free: validation gives the same issues whatever
their types are. -/
theorem structs_of_valid (project : Project) (today : Date) (baseline : Option String) :
    (Issue.errors (project.issues today baseline) = [] → ∀ entry ∈ project.signals.entries,
      (entry.2.dataType = .struct ↔ entry.2.fields ≠ []) ∧
      ∀ chain, StructField.Chain entry.2.fields chain → chain.length ≤ 3) ∧
    ∀ types, (project.retyped types).issues today baseline = project.issues today baseline := by
  refine ⟨fun h entry hentry => ?_, fun types => issues_retyped types project today baseline⟩
  have hvalid := (errors_eq_nil_iff project today baseline).mp h
  have hshape := (hvalid.sound.signals entry hentry).shape
  exact ⟨hshape.members, StructField.depths_le_iff.mp hshape.depth⟩

/-- A new project with one struct. -/
def ofStruct (fields : List (String × StructField)) : Project :=
  let project := template .epoch
  let signal := Signal.new "pose"
  { project with
    metadata := { project.metadata with editor := "A" }
    signals := .ofPairs [("pose", { signal with dataType := .struct, fields := fields })] }

/-- Three levels are allowed. -/
theorem structs_of_valid_threeLevels :
    let leaf : StructField := ⟨.base .int8, "", [], .empty⟩
    let middle : StructField := ⟨.struct, "", [("x", leaf)], .empty⟩
    let outer : StructField := ⟨.struct, "", [("origin", middle), ("id", leaf)], .empty⟩
    let project := ofStruct [("frame", outer)]
    Issue.errors (project.issues .epoch none) = [] ∧
      ∀ entry ∈ project.signals.entries, ∀ chain, StructField.Chain entry.2.fields chain →
        chain.length ≤ 3 := by
  intro leaf middle outer project
  have hvalid : Issue.errors (project.issues .epoch none) = [] := by decide +kernel
  exact ⟨hvalid, fun entry hentry =>
    ((structs_of_valid project .epoch none).1 hvalid entry hentry).2⟩

/-- A member that is no struct has members and a struct among the members has none, and validation
finds no error. -/
theorem misshapen_members_valid :
    let whole : StructField := ⟨.base .int32, "", [("y", ⟨.base .int8, "", [], .empty⟩)], .empty⟩
    let hollow : StructField := ⟨.struct, "", [], .empty⟩
    let project := ofStruct [("x", whole), ("z", hollow)]
    Issue.errors (project.issues .epoch none) = [] ∧
      ∃ entry ∈ project.signals.entries,
        (StructField.Within whole entry.2.fields ∧ whole.type ≠ .struct ∧ whole.fields ≠ []) ∧
        StructField.Within hollow entry.2.fields ∧ hollow.type = .struct ∧ hollow.fields = [] := by
  intro whole hollow project
  refine ⟨by decide +kernel, _, List.mem_singleton_self _, ⟨.here List.mem_cons_self, ?_, ?_⟩,
    .here (List.mem_cons_of_mem _ List.mem_cons_self), rfl, rfl⟩
  · decide
  · simp [whole]

end Project

end SignalCatalog
