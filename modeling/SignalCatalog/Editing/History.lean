/-!
# Linear histories

A history is a current value with the values before it and those that were undone. A commit forgets
what was undone; undoing and redoing only move the current place in one list.
-/

namespace SignalCatalog

universe u

structure History (α : Type u) where
  /-- The latest first. -/
  past : List α
  current : α
  /-- The next one first. -/
  future : List α

namespace History

variable {α : Type u}

def start (value : α) : History α := ⟨[], value, []⟩

/-- All values in the order of their commits. -/
def toList (history : History α) : List α :=
  history.past.reverse ++ history.current :: history.future

def undoDepth (history : History α) : Nat := history.past.length

def redoDepth (history : History α) : Nat := history.future.length

def commit (history : History α) (value : α) : History α :=
  ⟨history.current :: history.past, value, []⟩

def undo? (history : History α) : Option (History α) :=
  match history.past with
  | [] => none
  | value :: past => some ⟨past, value, history.current :: history.future⟩

def redo? (history : History α) : Option (History α) :=
  match history.future with
  | [] => none
  | value :: future => some ⟨history.current :: history.past, value, future⟩

theorem toList_undo? {history before : History α} (h : history.undo? = some before) :
    before.toList = history.toList := by
  obtain ⟨past, current, future⟩ := history
  cases past with
  | nil => simp [undo?] at h
  | cons value past =>
    simp only [undo?, Option.some.injEq] at h
    subst h
    simp [toList]

theorem toList_redo? {history after : History α} (h : history.redo? = some after) :
    after.toList = history.toList := by
  obtain ⟨past, current, future⟩ := history
  cases future with
  | nil => simp [redo?] at h
  | cons value future =>
    simp only [redo?, Option.some.injEq] at h
    subst h
    simp [toList]

end History

end SignalCatalog
