import SignalCatalog.Session.Desk

/-!
# Editing in a session

Commands and steps in the history go to the editor; the host hears of the mark of unsaved changes
whenever it flips.
-/

namespace SignalCatalog.Desk

/-- Runs a command; a refused one changes nothing. -/
def apply (desk : Desk) (command : Command) : Except EditError Desk :=
  (desk.session.editor.apply command).map fun (flipped, editor) =>
    (desk.report [editor.event command]).change (flipped, editor)

/-- Moves in the history, unless it ends there. -/
def step (desk : Desk) (direction : Direction) : Option Desk :=
  (desk.session.editor.step direction).map fun (flipped, editor) =>
    (desk.report [editor.stepEvent direction]).change (flipped, editor)

/-- The issues of the project, with the event of the validation. -/
def validate (desk : Desk) (world : World) : List Issue × Desk :=
  let issues := desk.session.issues world
  (issues, desk.report [Issue.summary issues])

/-- Fixes the date that counts as today, or goes back to the clock. -/
def pin (desk : Desk) (date : Option Date) : Desk :=
  { desk with session := { desk.session with pinned := date } }

end SignalCatalog.Desk
