import SignalCatalog.Proofs.Editing.Run

/-!
# The timeline of an editor

A timeline is one list of values with a cursor. Recording a value forgets what is behind the cursor
and appends the value, moving back and forward keep the list. The main statement is a simulation: the
past, the current project and the future of an editor form such a timeline, whatever was asked of the
editor and whatever was refused.
-/

namespace SignalCatalog

universe u

structure Timeline (α : Type u) where
  values : List α
  cursor : Nat
deriving DecidableEq

namespace Timeline

variable {α : Type u}

inductive Move (α : Type u)
  | stay
  | record (value : α)
  | back
  | forward
  | restart (value : α)

def start (value : α) : Timeline α := ⟨[value], 0⟩

def current? (timeline : Timeline α) : Option α := timeline.values[timeline.cursor]?

/-- Forgets what is behind the cursor and appends a value. -/
def record (timeline : Timeline α) (value : α) : Timeline α :=
  ⟨timeline.values.take (timeline.cursor + 1) ++ [value], timeline.cursor + 1⟩

def atStart (timeline : Timeline α) : Prop := timeline.cursor = 0

def atEnd (timeline : Timeline α) : Prop := timeline.cursor + 1 = timeline.values.length

/-- Moves the cursor back, unless it is at the start. -/
def back (timeline : Timeline α) : Timeline α := { timeline with cursor := timeline.cursor - 1 }

/-- Moves the cursor forward, unless it is at the end. -/
def forward (timeline : Timeline α) : Timeline α :=
  { timeline with cursor := min (timeline.cursor + 1) (timeline.values.length - 1) }

def after (timeline : Timeline α) : Move α → Timeline α
  | .stay => timeline
  | .record value => timeline.record value
  | .back => timeline.back
  | .forward => timeline.forward
  | .restart value => start value

end Timeline

namespace History

variable {α : Type u}

def timeline (history : History α) : Timeline α := ⟨history.toList, history.undoDepth⟩

/-- The cursor splits the list into the past, the current value and the future. -/
theorem timeline_injective {a b : History α} (h : a.timeline = b.timeline) : a = b := by
  obtain ⟨past, current, future⟩ := a
  obtain ⟨past', current', future'⟩ := b
  simp only [timeline, toList, undoDepth, Timeline.mk.injEq] at h
  obtain ⟨hp, hf⟩ := List.append_inj h.1 (by simp [h.2])
  simp only [List.cons.injEq] at hf
  rw [List.reverse_inj.mp hp, hf.1, hf.2]

@[simp] theorem timeline_start (value : α) : (start value).timeline = .start value := rfl

theorem timeline_current? (history : History α) :
    history.timeline.current? = some history.current := by
  have hl : history.undoDepth = history.past.reverse.length := by simp [undoDepth]
  simp [timeline, Timeline.current?, toList, hl]

theorem timeline_commit (history : History α) (value : α) :
    (history.commit value).timeline = history.timeline.record value := by
  have hl : history.past.length + 1 = (history.past.reverse ++ [history.current]).length := by simp
  have hs : history.past.reverse ++ history.current :: history.future =
      (history.past.reverse ++ [history.current]) ++ history.future := by simp
  simp only [timeline, Timeline.record, commit, toList, undoDepth, List.reverse_cons,
    List.length_cons]
  rw [hs, hl, List.take_left]

theorem undo?_eq_none_iff {history : History α} :
    history.undo? = none ↔ history.timeline.atStart := by
  obtain ⟨past, current, future⟩ := history
  cases past <;> simp [undo?, timeline, Timeline.atStart, undoDepth]

theorem redo?_eq_none_iff {history : History α} :
    history.redo? = none ↔ history.timeline.atEnd := by
  obtain ⟨past, current, future⟩ := history
  cases future <;> simp [redo?, timeline, Timeline.atEnd, undoDepth, toList]

theorem timeline_undo? {history before : History α} (h : history.undo? = some before) :
    before.timeline = history.timeline.back := by
  have hl := toList_undo? h
  obtain ⟨past, current, future⟩ := history
  cases past with
  | nil => simp [undo?] at h
  | cons value past =>
    simp only [undo?, Option.some.injEq] at h
    subst h
    simp only [timeline, Timeline.back, hl]
    simp [undoDepth]

theorem timeline_redo? {history later : History α} (h : history.redo? = some later) :
    later.timeline = history.timeline.forward := by
  have hl := toList_redo? h
  obtain ⟨past, current, future⟩ := history
  cases future with
  | nil => simp [redo?] at h
  | cons value future =>
    simp only [redo?, Option.some.injEq] at h
    subst h
    simp only [timeline, Timeline.forward, hl]
    simp [undoDepth, toList]

/-- A step that there is not would not move the cursor either. -/
theorem back_of_undo?_none {history : History α} (h : history.undo? = none) :
    history.timeline.back = history.timeline := by
  have hs : history.timeline.cursor = 0 := undo?_eq_none_iff.mp h
  have hc : history.timeline.cursor - 1 = history.timeline.cursor := by omega
  simp only [Timeline.back, hc]

theorem forward_of_redo?_none {history : History α} (h : history.redo? = none) :
    history.timeline.forward = history.timeline := by
  have he : history.timeline.cursor + 1 = history.timeline.values.length :=
    redo?_eq_none_iff.mp h
  have hc : min (history.timeline.cursor + 1) (history.timeline.values.length - 1) =
      history.timeline.cursor := by omega
  simp only [Timeline.forward, hc]

/-- Redoing what was undone gives the history back, both stacks included. -/
theorem redo?_of_undo? {history before : History α} (h : history.undo? = some before) :
    before.redo? = some history := by
  obtain ⟨past, current, future⟩ := history
  cases past with
  | nil => simp [undo?] at h
  | cons value past =>
    simp only [undo?, Option.some.injEq] at h
    subst h
    rfl

end History

namespace Editor

def timeline (editor : Editor) : Timeline Project := editor.history.timeline

/-- The move of the timeline that a request makes: an accepted command that changes the project
records the new one, copying and refused commands record nothing. -/
def move (editor : Editor) : Request → Timeline.Move Project
  | .command command =>
    match editor.apply command with
    | .ok (_, edited) => if command.isMutating then .record edited.project else .stay
    | .error _ => .stay
  | .step .undo => .back
  | .step .redo => .forward
  | .reset project => .restart project

def moves (editor : Editor) : List Request → List (Timeline.Move Project)
  | [] => []
  | request :: rest => editor.move request :: (editor.handle request).moves rest

/-- The editor after a number of steps in one direction, if there are so many. -/
def steps? (editor : Editor) (direction : Direction) : Nat → Option Editor
  | 0 => some editor
  | n + 1 => (editor.steps? direction n).bind fun editor =>
    (editor.step direction).map Prod.snd

theorem timeline_handle_command (editor : Editor) (command : Command) :
    (editor.handle (.command command)).timeline =
      editor.timeline.after (editor.move (.command command)) := by
  cases h : editor.apply command with
  | error cause => simp [handle, move, h, Timeline.after]
  | ok outcome =>
    obtain ⟨flipped, edited⟩ := outcome
    rcases apply_cases h with ⟨edit, project, hm, _, _, he⟩ | ⟨name, signal, hc, _, he⟩
    · subst he
      simp only [handle, move, h, hm, if_true, Timeline.after]
      exact History.timeline_commit editor.history project
    · subst hc
      simp [handle, move, h, he, Command.isMutating, Timeline.after, timeline]

theorem timeline_handle_step (editor : Editor) (direction : Direction) :
    (editor.handle (.step direction)).timeline =
      editor.timeline.after (editor.move (.step direction)) := by
  cases h : editor.step direction with
  | none =>
    have hn := step_eq_none_iff.mp h
    have hs : editor.handle (.step direction) = editor := by simp [handle, h]
    rw [hs]
    cases direction with
    | undo => exact (History.back_of_undo?_none hn).symm
    | redo => exact (History.forward_of_redo?_none hn).symm
  | some outcome =>
    obtain ⟨flipped, moved⟩ := outcome
    have hh := (step_cases h).1
    have hs : editor.handle (.step direction) = moved := by simp [handle, h]
    rw [hs]
    cases direction with
    | undo => exact History.timeline_undo? hh
    | redo => exact History.timeline_redo? hh

theorem timeline_handle (editor : Editor) (request : Request) :
    (editor.handle request).timeline = editor.timeline.after (editor.move request) := by
  cases request with
  | command command => exact timeline_handle_command editor command
  | step direction => exact timeline_handle_step editor direction
  | reset project => rfl

theorem timeline_handleAll (editor : Editor) (requests : List Request) :
    (editor.handleAll requests).timeline =
      (editor.moves requests).foldl Timeline.after editor.timeline := by
  induction requests generalizing editor with
  | nil => rfl
  | cons request rest ih =>
    simp only [moves, List.foldl_cons, ← timeline_handle]
    exact ih (editor.handle request)

theorem step_undo (editor : Editor) (h : editor.timeline.cursor ≠ 0) :
    ∃ flipped earlier, editor.step .undo = some (flipped, earlier) ∧
      editor.history.undo? = some earlier.history ∧ earlier.clipboard = editor.clipboard := by
  cases hs : editor.step .undo with
  | none => exact False.elim (h (History.undo?_eq_none_iff.mp (step_eq_none_iff.mp hs)))
  | some outcome =>
    obtain ⟨flipped, earlier⟩ := outcome
    exact ⟨flipped, earlier, rfl, step_cases hs⟩

theorem step_redo {editor : Editor} {later : History Project}
    (h : editor.history.redo? = some later) :
    ∃ flipped edited, editor.step .redo = some (flipped, edited) ∧ edited.history = later ∧
      edited.clipboard = editor.clipboard := by
  cases hs : editor.step .redo with
  | none =>
    have hn : editor.history.redo? = none := step_eq_none_iff.mp hs
    simp [hn] at h
  | some outcome =>
    obtain ⟨flipped, edited⟩ := outcome
    have hc := step_cases hs
    have hr : editor.history.redo? = some edited.history := hc.1
    rw [h] at hr
    exact ⟨flipped, edited, rfl, (Option.some.inj hr).symm, hc.2⟩

/-- As many undos as the cursor says go back through the recorded values. -/
theorem steps?_undo (editor : Editor) {k : Nat} (h : k ≤ editor.timeline.cursor) :
    ∃ earlier, editor.steps? .undo k = some earlier ∧
      earlier.timeline = ⟨editor.timeline.values, editor.timeline.cursor - k⟩ ∧
      earlier.clipboard = editor.clipboard := by
  induction k with
  | zero => exact ⟨editor, rfl, rfl, rfl⟩
  | succ k ih =>
    obtain ⟨between, hb, ht, hc⟩ := ih (by omega)
    have hcursor : between.timeline.cursor = editor.timeline.cursor - k := by rw [ht]
    obtain ⟨flipped, earlier, hs, hu, hclip⟩ := step_undo between (by omega)
    refine ⟨earlier, by simp [steps?, hb, hs], ?_, hclip.trans hc⟩
    have hback : earlier.timeline = between.timeline.back := History.timeline_undo? hu
    rw [hback, ht, Timeline.back]
    simp only [Timeline.mk.injEq, true_and]
    omega

/-- Redoing retraces the undos: after `j` of them the history is that of `j` undos less. -/
theorem steps?_redo {editor earlier : Editor} {k : Nat}
    (h : editor.steps? .undo k = some earlier) {j : Nat} (hj : j ≤ k) :
    ∃ later between, earlier.steps? .redo j = some later ∧
      editor.steps? .undo (k - j) = some between ∧ later.history = between.history ∧
      later.clipboard = earlier.clipboard := by
  induction j with
  | zero => exact ⟨earlier, earlier, rfl, h, rfl, rfl⟩
  | succ j ih =>
    obtain ⟨later, between, hl, hb, hh, hc⟩ := ih (by omega)
    have hk : k - j = (k - (j + 1)) + 1 := by omega
    rw [hk, steps?] at hb
    obtain ⟨before, hbefore, hstep⟩ := Option.bind_eq_some_iff.mp hb
    obtain ⟨outcome, hs, rfl⟩ := Option.map_eq_some_iff.mp hstep
    have hundo : before.history.undo? = some outcome.2.history := (step_cases hs).1
    have hredo : later.history.redo? = some before.history := by
      rw [hh]
      exact History.redo?_of_undo? hundo
    obtain ⟨flipped, edited, hr, heq, hclip⟩ := step_redo hredo
    exact ⟨edited, before, by simp [steps?, hl, hr], hbefore, heq, hclip.trans hc⟩

/-- Undo and redo are a linear history. From every start and for every list of requests the editor's
projects with its undo depth are the timeline of the requests; undo and redo are refused exactly at
its ends; nothing but copying changes the clipboard; and `k` undos pass the recorded projects in
reverse order, from where redos return through the same histories. -/
theorem linear_history (project : Project) (requests : List Request) :
    let editor := (Editor.start project).handleAll requests
    let timeline := editor.timeline
    timeline = ((Editor.start project).moves requests).foldl .after (.start project) ∧
    timeline.current? = some editor.project ∧
    (editor.step .undo = none ↔ timeline.atStart) ∧
    (editor.step .redo = none ↔ timeline.atEnd) ∧
    (∀ command cause, editor.apply command = .error cause →
      editor.handle (.command command) = editor) ∧
    (∀ request, (∀ name, request ≠ .command (.copySignal name)) →
      (editor.handle request).clipboard = editor.clipboard) ∧
    ∀ k ≤ timeline.cursor, ∃ earlier,
      editor.steps? .undo k = some earlier ∧
      earlier.timeline = ⟨timeline.values, timeline.cursor - k⟩ ∧
      timeline.values[timeline.cursor - k]? = some earlier.project ∧
      earlier.clipboard = editor.clipboard ∧
      ∀ j ≤ k, ∃ later between, earlier.steps? .redo j = some later ∧
        editor.steps? .undo (k - j) = some between ∧ later.history = between.history ∧
        later.clipboard = editor.clipboard := by
  intro editor timeline
  refine ⟨timeline_handleAll _ requests, History.timeline_current? editor.history,
    step_eq_none_iff.trans History.undo?_eq_none_iff,
    step_eq_none_iff.trans History.redo?_eq_none_iff,
    fun _ _ h => handle_command_error h, fun _ h => clipboard_handle h, ?_⟩
  intro k hk
  obtain ⟨earlier, hs, ht, hc⟩ := steps?_undo editor hk
  have hvalue : earlier.timeline.current? = some earlier.project :=
    History.timeline_current? earlier.history
  refine ⟨earlier, hs, ht, by rwa [ht] at hvalue, hc, ?_⟩
  intro j hj
  obtain ⟨later, between, hl, hb, hh, hclip⟩ := steps?_redo hs hj
  exact ⟨later, between, hl, hb, hh, hclip.trans hc⟩

end Editor

end SignalCatalog
