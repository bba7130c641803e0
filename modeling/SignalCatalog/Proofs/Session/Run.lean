import SignalCatalog.Session.Exchanging
import SignalCatalog.Session.Storing

/-!
# Operations of a session

What can be asked of a session as one type, with one answer for all: the operation has an outcome or
it has failed, and the desk is what it left behind. A refused command and a step beyond the end of the
history leave the desk as it was.
-/

namespace SignalCatalog

inductive Operation
  | newProject
  | closeProject
  | openProject (path : String)
  | openChosen
  | saveProject (path : String)
  | save
  | saveAs
  | importBook (path : String)
  | exportBook (path : String)
  | command (command : Command)
  | step (direction : Direction)
  | generate (kind : GeneratorKind) (folder : String) (asked : Option String)

/-- Why an operation has failed. -/
inductive Failure
  | session (error : SessionError)
  | refused (cause : EditError)
  | exhausted (direction : Direction)

inductive Outcome
  | done
  /-- Whether there was a file to go on with. -/
  | chosen (chose : Bool)
  | imported (project : Project) (findings : List Finding)
  | generated (paths : List String)

/-- The answer of one operation among those of all. -/
def Answer.as {α : Type} (answer : Answer α) (outcome : α → Outcome) :
    Except Failure Outcome × Desk :=
  ((answer.1.map outcome).mapError .session, answer.2)

namespace Desk

def perform (desk : Desk) (world : World) : Operation → Except Failure Outcome × Desk
  | .newProject => (.ok .done, desk.newProject world)
  | .closeProject => (.ok .done, desk.closeProject world)
  | .openProject path => (desk.openProject world path).as fun () => .done
  | .openChosen => (desk.openChosen world).as .chosen
  | .saveProject path => (desk.saveProject world path).as fun () => .done
  | .save => (desk.save world).as .chosen
  | .saveAs => (desk.saveAs world).as .chosen
  | .importBook path =>
    (desk.importBook world path).as fun (project, findings) => .imported project findings
  | .exportBook path => (desk.exportBook world path).as fun () => .done
  | .command command =>
    match desk.apply command with
    | .ok after => (.ok .done, after)
    | .error cause => (.error (.refused cause), desk)
  | .step direction =>
    match desk.step direction with
    | some after => (.ok .done, after)
    | none => (.error (.exhausted direction), desk)
  | .generate kind folder asked => (desk.generate world kind folder asked).as .generated

section Answers

variable {α : Type} {answer : Answer α} {outcome : α → Outcome}

theorem fst_as_ok {value : α} (h : answer.1 = .ok value) :
    (answer.as outcome).1 = .ok (outcome value) := by
  rw [Answer.as, h]
  rfl

theorem fst_as_error {error : SessionError} (h : answer.1 = .error error) :
    (answer.as outcome).1 = .error (.session error) := by
  rw [Answer.as, h]
  rfl

theorem snd_as (answer : Answer α) (outcome : α → Outcome) :
    (answer.as outcome).2 = answer.2 := rfl

/-- What a failing operation leaves behind is left behind by it as one of all operations. -/
theorem of_as_error {failure : Failure} (P : Desk → Prop)
    (h : (answer.as outcome).1 = .error failure)
    (hanswer : ∀ error, answer.1 = .error error → P answer.2) : P (answer.as outcome).2 := by
  cases ha : answer.1 with
  | error error => exact hanswer error ha
  | ok value =>
    rw [fst_as_ok ha] at h
    cases h

/-- An operation that succeeds as one of all operations has succeeded. -/
theorem of_as_ok {result : Outcome} (h : (answer.as outcome).1 = .ok result) :
    ∃ value, answer.1 = .ok value ∧ outcome value = result := by
  cases ha : answer.1 with
  | error error =>
    rw [fst_as_error ha] at h
    cases h
  | ok value =>
    rw [fst_as_ok ha] at h
    exact ⟨value, rfl, Except.ok.inj h⟩

end Answers

end Desk

end SignalCatalog
