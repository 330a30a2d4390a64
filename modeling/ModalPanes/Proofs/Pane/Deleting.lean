import ModalPanes.Proofs.Pane.Editing
import ModalPanes.Proofs.Text.WholeLines

/-!
# What deleting leaves

Deleting takes a piece out of the text and keeps it in a register; the cursor goes to where the piece started.
The rest of the pane is as it was, but for the records of the change.
-/

namespace ModalPanes

namespace Buffer

/-- A range holds something where its end comes behind its start. -/
theorem slice_ne_nil_iff {buf : Buffer} {range : Range} :
    buf.slice range ≠ [] ↔ buf.index range.start < buf.index range.stop := by
  have inside := buf.index_le_length range.stop
  unfold length at inside
  unfold slice
  rw [Ne, List.drop_eq_nil_iff, List.length_take, Nat.min_eq_left inside, Nat.not_le]

end Buffer

namespace Pane

variable {pane : Pane} {range : Range} {span : Span}

theorem reportFewer_eq (pane : Pane) (before : Nat) :
    ∃ message, pane.reportFewer before = { pane with message := message } := by
  unfold reportFewer
  dsimp only
  split
  · exact ⟨_, rfl⟩
  · exact ⟨pane.message, rfl⟩

/-- After deleting lines, only a message is added. -/
theorem tells_fewer (pane : Pane) (before : Nat) :
    ∃ message, (if pane.buffer.text.isEmpty then pane.say "--No lines in buffer--".toList
      else pane.reportFewer before) = { pane with message := message } := by
  split
  · exact ⟨_, rfl⟩
  · exact reportFewer_eq pane before

theorem operate_delete_chars (some : pane.buffer.slice range ≠ []) :
    ∃ history recorder message, pane.operate .delete (.chars range) =
      { pane with
        buffer := pane.buffer.erase range
        cursor := pane.cursor.jump (pane.buffer.erase range) false range.start
        registers := pane.registers.store pane.register (.of .char (pane.buffer.slice range))
        register := none
        history := history
        recorder := recorder
        message := message } := by
  have more : (pane.buffer.slice range).isEmpty = false := by
    rwa [← Bool.not_eq_true, List.isEmpty_iff]
  obtain ⟨history, recorder, erased⟩ := eraseRange_eq
    ({ pane with register := none } |>.store pane.register .char (pane.buffer.slice range)) range
  obtain ⟨message, reported⟩ := reportFewer_eq
    ((({ pane with register := none } |>.store pane.register .char (pane.buffer.slice range)).eraseRange
      range).jump false range.start) pane.buffer.lineCount
  refine ⟨history, recorder, message, ?_⟩
  show Pane.operateOnChars { pane with register := none } .delete range pane.register = _
  unfold operateOnChars
  dsimp only
  rw [more]
  refine reported.trans ?_
  rw [erased]
  rfl

theorem operate_delete_lines (pane : Pane) (linewise : span.linewise = true) :
    ∃ history recorder message, pane.operate .delete span =
      let last := min span.lastLine pane.buffer.lastLine
      let buffer := pane.buffer.erase (wholeLines pane.buffer span.firstLine last)
      { pane with
        buffer := buffer
        cursor := pane.cursor.toLine buffer false span.firstLine
        registers :=
          pane.registers.store pane.register (.of .line (pane.buffer.linesText span.firstLine last))
        register := none
        history := history
        recorder := recorder
        message := message } := by
  have prepared : ∀ last, ∃ history recorder,
      (({ pane with register := none } |>.store pane.register .line
          (pane.buffer.linesText span.firstLine last)).eraseRange
        (wholeLines pane.buffer span.firstLine last)).jumpToLine false span.firstLine =
          { pane with
            buffer := pane.buffer.erase (wholeLines pane.buffer span.firstLine last)
            cursor := pane.cursor.toLine (pane.buffer.erase (wholeLines pane.buffer span.firstLine last)) false
              span.firstLine
            registers :=
              pane.registers.store pane.register (.of .line (pane.buffer.linesText span.firstLine last))
            register := none
            history := history
            recorder := recorder } := by
    intro last
    obtain ⟨history, recorder, erased⟩ := eraseRange_eq
      ({ pane with register := none } |>.store pane.register .line
        (pane.buffer.linesText span.firstLine last)) (wholeLines pane.buffer span.firstLine last)
    rw [erased]
    exact ⟨history, recorder, rfl⟩
  obtain ⟨history, recorder, erased⟩ := prepared (min span.lastLine pane.buffer.lastLine)
  obtain ⟨message, told⟩ := tells_fewer
    ((({ pane with register := none } |>.store pane.register .line
        (pane.buffer.linesText span.firstLine (min span.lastLine pane.buffer.lastLine))).eraseRange
      (wholeLines pane.buffer span.firstLine (min span.lastLine pane.buffer.lastLine))).jumpToLine false
        span.firstLine) pane.buffer.lineCount
  refine ⟨history, recorder, message, ?_⟩
  rw [erased] at told
  unfold operate
  dsimp only
  rw [if_pos linewise, ← told, ← erased]
  rfl

end Pane

end ModalPanes
