import SignalCatalog.Proofs.Editing.Storable
import SignalCatalog.Proofs.Exchange.Storable

/-!
# Saved projects are loaded as they were

Loading the text of a project with repaired lists gives the project back, without the texts of values
that could not be read, and saving that gives the same text. Every project that the program comes by
is of this kind: a loaded one, an imported one and any that an editor holds.
-/

namespace SignalCatalog.Project

open Json Exchange

theorem storable_of_ofText {today : Date} {text : String} {project : Project}
    (h : ofText today text = .ok project) : project.Storable := by
  unfold ofText RecordKind.readText at h
  cases hread : readAs RecordKind.rules (.record .project false) text with
  | error fault => simp [hread, Except.map] at h
  | ok value =>
    simp only [hread, Except.map, Except.ok.injEq] at h
    rw [← h]
    exact storable_ofMembers (wellFormed_of_readAs hread).members

theorem Storable.normalize {project : Project} (h : project.Storable) :
    project.normalize.Storable :=
  ⟨h.metadata, h.cores, h.signals, h.deployment, h.extra⟩

theorem storable_of_load {today : Date} {text : String} {project : Project}
    (h : load today text = .ok project) : project.Storable ∧ project.Repaired := by
  unfold load at h
  cases hread : ofText today text with
  | error fault => simp [hread, Except.map] at h
  | ok before =>
    simp only [hread, Except.map, Except.ok.injEq] at h
    rw [← h]
    exact ⟨(storable_of_ofText hread).normalize, before.repaired_normalize⟩

theorem Repaired.forgetUnreadable {project : Project} (h : project.Repaired) :
    project.forgetUnreadable.Repaired :=
  ⟨h.socs, h.builds, h.soc, h.build, h.cores⟩

end SignalCatalog.Project
