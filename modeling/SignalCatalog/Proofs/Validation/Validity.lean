import SignalCatalog.Proofs.Project.Faults
import SignalCatalog.Proofs.Validation.Version
import SignalCatalog.Validation.Validator

/-!
# Valid projects

What validation accepts, said without its checks: sound projects whose editor is named, whose version
is a decimal that is not below the one to compare with, and whose date has not passed. The main
statement is that validation finds an error exactly in the other projects, and which errors these are.
The two kinds of advice are no errors.
-/

namespace SignalCatalog

namespace Metadata

/-- What is wrong with metadata, as the code that reports it. -/
inductive Fault (metadata : Metadata) (today : Date) (baseline : Option String) : IssueCode → Prop
  | editorEmpty (h : Text.trimmed metadata.editor = "") :
    Fault metadata today baseline .editorEmpty
  | editorPlaceholder
      (h : Text.sameIgnoringCase (Text.trimmed metadata.editor) editorPlaceholder = true) :
    Fault metadata today baseline .editorPlaceholder
  | versionInvalid (h : Version.number? metadata.version = none) :
    Fault metadata today baseline .versionInvalid
  | versionRegression {text : String} {number stored : ℚ} (hbaseline : baseline = some text)
      (hversion : Version.number? metadata.version = some number)
      (hstored : Version.number? text = some stored) (h : number < stored) :
    Fault metadata today baseline .versionRegression
  | dateInPast (h : metadata.date.before today = true) :
    Fault metadata today baseline .dateInPast

def issues (metadata : Metadata) (today : Date) (baseline : Option String) : List Issue :=
  metadata.editorIssues ++ metadata.versionIssues baseline ++ metadata.dateIssues today

variable {metadata : Metadata} {today : Date} {baseline : Option String} {code : IssueCode}

theorem codes_editorIssues (metadata : Metadata) : metadata.editorIssues.map Issue.code =
    if Text.trimmed metadata.editor = "" then [.editorEmpty]
    else if Text.sameIgnoringCase (Text.trimmed metadata.editor) editorPlaceholder then
      [.editorPlaceholder]
    else [] := by
  unfold editorIssues
  simp only [String.isEmpty_iff]
  split
  · rfl
  · split <;> rfl

theorem codes_dateIssues (metadata : Metadata) (today : Date) :
    (metadata.dateIssues today).map Issue.code =
      if metadata.date.before today then [.dateInPast] else [] := by
  unfold dateIssues
  split <;> rfl

/-- A version is reported unless it is a decimal, or if it is below the one to compare with. -/
theorem codes_versionIssues (metadata : Metadata) (baseline : Option String) :
    (metadata.versionIssues baseline).map Issue.code =
      match Version.number? metadata.version, baseline.bind Version.number? with
      | none, _ => [.versionInvalid]
      | some number, some stored => if number < stored then [.versionRegression] else []
      | some _, none => [] := by
  unfold versionIssues
  cases hv : Version.ofText? metadata.version with
  | none =>
    rw [Version.ofText?_eq_none_iff.mp hv]
    rfl
  | some version =>
    obtain ⟨hcanonical, hnumber⟩ := Version.of_ofText? hv
    rw [hnumber]
    cases baseline with
    | none => rfl
    | some text =>
      rw [Option.bind_some]
      cases hs : Version.ofText? text with
      | none =>
        rw [Version.ofText?_eq_none_iff.mp hs]
        simp only [hs, List.map_nil]
      | some stored =>
        obtain ⟨hstored, hvalue⟩ := Version.of_ofText? hs
        rw [hvalue]
        simp only [hs, ← Version.below_iff hcanonical hstored]
        split <;> rfl

/-- The issues of metadata are exactly its faults. -/
theorem mem_codes_iff :
    code ∈ (metadata.issues today baseline).map Issue.code ↔ metadata.Fault today baseline code := by
  have hempty : Text.sameIgnoringCase "" editorPlaceholder = false := by decide
  rw [issues, List.map_append, List.map_append, List.mem_append, List.mem_append,
    codes_editorIssues, codes_versionIssues, codes_dateIssues]
  constructor
  · rintro ((h | h) | h)
    · split at h
      · rename_i heditor
        rw [List.mem_singleton.mp h]
        exact .editorEmpty heditor
      · split at h
        · rename_i heditor
          rw [List.mem_singleton.mp h]
          exact .editorPlaceholder heditor
        · simp at h
    · split at h
      · rename_i hversion
        rw [List.mem_singleton.mp h]
        exact .versionInvalid hversion
      · rename_i number stored hversion hstored
        obtain ⟨text, hbaseline, htext⟩ := Option.bind_eq_some_iff.mp hstored
        split at h
        · rename_i hless
          rw [List.mem_singleton.mp h]
          exact .versionRegression hbaseline hversion htext hless
        · simp at h
      · simp at h
    · split at h
      · rename_i hdate
        rw [List.mem_singleton.mp h]
        exact .dateInPast hdate
      · simp at h
  · intro h
    cases h with
    | editorEmpty h => simp [h]
    | editorPlaceholder h =>
      have hne : Text.trimmed metadata.editor ≠ "" := by
        intro he
        rw [he, hempty] at h
        cases h
      simp [h, hne]
    | versionInvalid h => simp [h]
    | versionRegression hbaseline hversion hstored h => simp [hbaseline, hversion, hstored, h]
    | dateInPast h => simp [h]

theorem Fault.isError (h : metadata.Fault today baseline code) : code.severity = .error := by
  cases h <;> rfl

end Metadata

namespace Project

/-- What makes a project fit to be saved, exported and turned into code. -/
structure Valid (project : Project) (today : Date) (baseline : Option String) : Prop where
  editor : Text.trimmed project.metadata.editor ≠ ""
  named : Text.sameIgnoringCase (Text.trimmed project.metadata.editor) editorPlaceholder = false
  version : ∃ number, Version.number? project.metadata.version = some number ∧
    ∀ text stored, baseline = some text → Version.number? text = some stored → stored ≤ number
  date : project.metadata.date.before today = false
  sound : project.Sound

variable {project : Project} {today : Date} {baseline : Option String}

theorem valid_iff : project.Valid today baseline ↔
    (∀ code, ¬ project.metadata.Fault today baseline code) ∧ project.Sound := by
  constructor
  · intro h
    refine ⟨?_, h.sound⟩
    obtain ⟨number, hnumber, hleast⟩ := h.version
    intro code hfault
    cases hfault with
    | editorEmpty he => exact h.editor he
    | editorPlaceholder he => simp [h.named] at he
    | versionInvalid hv => simp [hnumber] at hv
    | versionRegression hb hv hs hless =>
      rw [hnumber, Option.some.injEq] at hv
      exact absurd hless (not_lt.mpr (hv ▸ hleast _ _ hb hs))
    | dateInPast hd => simp [h.date] at hd
  · rintro ⟨hnone, hsound⟩
    obtain ⟨number, hnumber⟩ := Option.ne_none_iff_exists'.mp fun h => hnone _ (.versionInvalid h)
    exact ⟨fun h => hnone _ (.editorEmpty h),
      Bool.eq_false_iff.mpr fun h => hnone _ (.editorPlaceholder h),
      ⟨number, hnumber, fun text stored hb hs =>
        not_lt.mp fun h => hnone _ (.versionRegression hb hnumber hs h)⟩,
      Bool.eq_false_iff.mpr fun h => hnone _ (.dateInPast h), hsound⟩

end Project

/-! ## Errors and advice -/

namespace Issue

theorem errors_append (front back : List Issue) : errors (front ++ back) = errors front ++ errors back :=
  List.filter_append ..

theorem errors_of_forall {issues : List Issue} (h : ∀ issue ∈ issues, issue.isError = true) :
    errors issues = issues ∧ warnings issues = [] :=
  ⟨List.filter_eq_self.mpr h, List.filter_eq_nil_iff.mpr fun issue hi => by simp [h issue hi]⟩

theorem warnings_of_forall {issues : List Issue} (h : ∀ issue ∈ issues, issue.isError = false) :
    errors issues = [] ∧ warnings issues = issues :=
  ⟨List.filter_eq_nil_iff.mpr fun issue hi => by simp [h issue hi],
    List.filter_eq_self.mpr fun issue hi => by simp [h issue hi]⟩

end Issue

theorem Violation.isError_toIssue (violation : Violation) : violation.toIssue.isError = true := by
  cases violation <;> rfl

namespace Metadata

theorem isError_of_mem {metadata : Metadata} {today : Date} {baseline : Option String} :
    ∀ issue ∈ metadata.issues today baseline, issue.isError = true := by
  intro issue hi
  have hfault := mem_codes_iff.mp (List.mem_map_of_mem hi)
  exact decide_eq_true hfault.isError

end Metadata

namespace Project

variable (project : Project) (today : Date) (baseline : Option String)

theorem issues_eq : project.issues today baseline =
    project.metadata.issues today baseline ++ project.violations.map Violation.toIssue ++
      (project.coreAdvice ++ project.unreadableAdvice) := by
  simp [issues, Metadata.issues]

theorem isError_of_mem_advice :
    ∀ issue ∈ project.coreAdvice ++ project.unreadableAdvice, issue.isError = false := by
  intro issue hi
  rcases List.mem_append.mp hi with hi | hi
  · rw [coreAdvice, List.mem_ite_nil_left] at hi
    rw [List.mem_singleton.mp hi.2]
    rfl
  · obtain ⟨value, _, rfl⟩ := List.mem_map.mp hi
    rfl

theorem isError_of_mem_faults : ∀ issue ∈ project.metadata.issues today baseline ++
    project.violations.map Violation.toIssue, issue.isError = true := by
  intro issue hi
  rcases List.mem_append.mp hi with hi | hi
  · exact Metadata.isError_of_mem issue hi
  · obtain ⟨violation, _, rfl⟩ := List.mem_map.mp hi
    exact violation.isError_toIssue

/-- The errors are the faults of the metadata and the violations. -/
theorem errors_issues : Issue.errors (project.issues today baseline) =
    project.metadata.issues today baseline ++ project.violations.map Violation.toIssue := by
  rw [issues_eq, Issue.errors_append,
    (Issue.errors_of_forall (isError_of_mem_faults project today baseline)).1,
    (Issue.warnings_of_forall (isError_of_mem_advice project)).1, List.append_nil]

theorem errors_eq_nil_iff :
    Issue.errors (project.issues today baseline) = [] ↔ project.Valid today baseline := by
  have hmetadata : project.metadata.issues today baseline = [] ↔
      ∀ code, ¬ project.metadata.Fault today baseline code := by
    rw [← List.map_eq_nil_iff, List.eq_nil_iff_forall_not_mem]
    exact forall_congr' fun code => not_congr Metadata.mem_codes_iff
  rw [errors_issues, List.append_eq_nil_iff, List.map_eq_nil_iff, hmetadata,
    violations_eq_nil_iff, valid_iff]

end Project

/-- A new project lacks nothing but the name of its editor. -/
example : (Issue.errors ((Project.template .epoch).issues .epoch none)).map Issue.code =
    [.editorEmpty] := by
  decide +kernel

end SignalCatalog
