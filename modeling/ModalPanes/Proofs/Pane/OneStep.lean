import ModalPanes.Proofs.Pane.Handling
import ModalPanes.Proofs.Pane.UndoRedo

/-!
# What is typed in a row is one step

From the first edit on, a step of the history is under way until the pane settles outside of typing.  Of the whole
history only this step matters here: it leads from the text at its start to the present one.  Once it is committed,
going back a single step comes to the text at its start.
-/

namespace ModalPanes

namespace History

/-- The history as if there were no other step than the one under way. -/
def latest (history : History) : History := { current := history.current }

theorem latest_start {history : History} (closed : history.isOpen = false) (cursor : Position) :
    (history.start cursor).latest = history.latest.start cursor := by
  have closed : history.current = none := by simpa [isOpen] using closed
  simp only [start, latest, commit, closed]

theorem latest_record (history : History) (edit : Edit) :
    (history.record edit).latest = history.latest.record edit := by
  unfold record
  split <;> rfl

end History

namespace Pane

variable {pane : Pane} {before text : List Char}

/-- The step under way, if there is one, leads from a text to that of the pane; otherwise they are the same. -/
def Alters (before : List Char) (pane : Pane) : Prop :=
  Recorded (fun _ => before) before { pane with history := pane.history.latest }

theorem Alters.start (closed : pane.history.isOpen = false) (plain : Plain pane.buffer.text) :
    pane.Alters pane.buffer.text where
  done := .nil plain
  undone := .nil
  closed := fun _ => rfl
  underWay := by
    have closed : pane.history.current = none := by simpa [History.isOpen] using closed
    intro step current
    rw [show pane.history.latest.current = none from closed] at current
    contradiction
  numbered := nofun
  ascending := List.pairwise_singleton _ _

theorem beginChange_latest (pane : Pane) :
    beginChange { pane with history := pane.history.latest } =
      { pane.beginChange with history := pane.beginChange.history.latest } := by
  unfold beginChange
  dsimp only
  rw [show pane.history.latest.isOpen = pane.history.isOpen from rfl]
  split
  · rfl
  · rename_i closed
    rw [← History.latest_start (Bool.eq_false_iff.2 closed)]
    rfl

theorem Alters.insertText (alters : pane.Alters before) (pos : Position) (plain : Plain text) :
    (pane.insertText pos text).Alters before := by
  have inserted := (Recorded.insertText alters pos plain).1
  have same : Pane.insertText { pane with history := pane.history.latest } pos text =
      { pane.insertText pos text with history := (pane.insertText pos text).history.latest } := by
    unfold Pane.insertText
    dsimp only
    split
    · rfl
    · rw [beginChange_latest, History.latest_record]
      rfl
  rwa [same] at inserted

theorem Alters.congr {next : Pane} (alters : pane.Alters before) (history : next.history = pane.history)
    (same : next.buffer.text = pane.buffer.text) : next.Alters before := by
  unfold Alters Recorded at alters ⊢
  dsimp only at alters ⊢
  rwa [history, same]

/-- While text is typed, the step goes on. -/
theorem Alters.settle (alters : pane.Alters before) (typing : pane.mode.cursorPastEnd = true) :
    pane.settle.Alters before := by
  obtain ⟨recorder, view, eq, -⟩ := settle_eq pane
  have goesOn : pane.settledHistory = pane.history := by
    unfold settledHistory
    rw [typing]
    rfl
  rw [eq, goesOn]
  exact alters.congr rfl rfl

theorem Alters.committed (alters : pane.Alters before) (rests : pane.mode.cursorPastEnd = false)
    (changed : pane.buffer.text ≠ before) :
    ∃ step, pane.settle.history.current = none ∧ pane.settle.history.done = step :: pane.history.done ∧
      Transaction.Leads step.edits before pane.settle.buffer.text := by
  obtain ⟨recorder, view, eq, -⟩ := settle_eq pane
  rw [eq]
  cases current : pane.history.current with
  | none => exact absurd (History.Tracks.closed alters current).symm changed
  | some step =>
      have leads : Transaction.Leads step.edits before pane.buffer.text :=
        History.Tracks.underWay alters step current
      have edited : step.edits.isEmpty = false := by
        rw [List.isEmpty_eq_false_iff]
        intro none
        rw [none] at leads
        exact changed leads.eq_of_nil.symm
      have settled : pane.settledHistory = (pane.history.commit pane.cursor.pos).1 := by
        unfold settledHistory History.isOpen
        rw [rests, current]
        rfl
      dsimp only
      rw [settled]
      unfold History.commit
      rw [current]
      dsimp only
      rw [edited]
      exact ⟨_, rfl, rfl, leads⟩

theorem text_undo {step : Transaction} {rest : List Transaction} (closed : pane.history.current = none)
    (newest : pane.history.done = step :: rest) (leads : Transaction.Leads step.edits before pane.buffer.text) :
    (pane.undo 1).buffer.text = before := by
  have back : History.undo pane.history pane.buffer =
      (some step.before, { pane.history with done := rest, undone := step :: pane.history.undone },
        step.undo pane.buffer) := by
    unfold History.undo
    rw [closed]
    dsimp only
    rw [newest]
  have reached : travel History.undo (max 1 1) (none, pane.history, pane.buffer) =
      (some step.before, { pane.history with done := rest, undone := step :: pane.history.undone },
        step.undo pane.buffer) := by
    simp only [Nat.max_self, travel, back]
  unfold undo revisit
  dsimp only
  rw [reached]
  dsimp only
  rw [syncModified_eq]
  exact Transaction.text_undo leads

theorem Alters.handles_undo (alters : pane.Alters before) (takes : pane.TakesCommands)
    (waits : pane.pending = none) (uncounted : pane.count = none) (changed : pane.buffer.text ≠ before) :
    ∃ undone, Handles pane.settle [.char 'u'] undone ∧ undone.buffer.text = before := by
  obtain ⟨step, closed, newest, leads⟩ := alters.committed (by rw [takes.mode]; rfl) changed
  have same := Alike.settle pane
  have waits : pane.settle.pending = none := (same.same (·.pending) fun _ => rfl).trans waits
  have uncounted : pane.settle.count = none := (same.same (·.count) fun _ => rfl).trans uncounted
  have takes := (takes.of_alike same).record (.char 'u')
  generalize pane.settle = settled at closed newest leads waits uncounted takes ⊢
  have digit := Keymap.countDigit?_of_findOrMotion? undo_steps.found nofun
  have handed := dispatchWith_command takes waits (digit _) undo_steps.found undo_steps.ordinary
  refine ⟨_, .one handed, ?_⟩
  have undone : ((settled.record (.char 'u')).dropCount.undo 1).buffer.text = before :=
    text_undo closed newest leads
  obtain ⟨recorder, view, eq, -⟩ := settle_eq ((settled.record (.char 'u')).runNormal .undo)
  rw [eq, undo_steps.runs, show (settled.record (.char 'u')).count = none from uncounted]
  exact undone

end Pane

end ModalPanes
