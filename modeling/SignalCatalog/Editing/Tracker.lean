/-!
# Unsaved changes

Whether there are unsaved changes and whether a save is under way. The transitions that can change
the first also say whether they did, so that observers hear of changes only.
-/

namespace SignalCatalog

structure Tracker where
  dirty : Bool
  saving : Bool
deriving DecidableEq, Repr

namespace Tracker

def clean : Tracker := ⟨false, false⟩

/-- A change was made. -/
def markDirty (tracker : Tracker) : Bool × Tracker :=
  (!tracker.dirty, { tracker with dirty := true })

/-- All changes are forgotten. -/
def reset (tracker : Tracker) : Bool × Tracker :=
  (tracker.dirty, { tracker with dirty := false })

def startSave (tracker : Tracker) : Tracker := { tracker with saving := true }

/-- A save has succeeded. -/
def saved (tracker : Tracker) : Bool × Tracker := reset { tracker with saving := false }

/-- A save has failed; the changes are still unsaved. -/
def saveFailed (tracker : Tracker) : Tracker := { tracker with saving := false }

end Tracker

end SignalCatalog
