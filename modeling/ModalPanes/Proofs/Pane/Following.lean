import ModalPanes.Proofs.Pane.Repeating
import ModalPanes.Proofs.View.Fitting

/-!
# The view follows the cursor

Every key and every change of size ends with the view following the cursor.  The cursor line is shown then:
it is not above the first line, and everything down to it fits in the rows for text, or it is the first line
itself.  Where the lines that are kept around the cursor line are so high that they do not fit together
with it, they push it off the screen.
-/

namespace ModalPanes

theorem TextArea.heightOf_pos (area : TextArea) (line : List Char) : 0 < area.heightOf line := by
  unfold heightOf Glyph.wrap
  split <;> simp

/-- A line that does not exist is measured like an empty one. -/
theorem TextArea.heightAt_heights (area : TextArea) (buf : Buffer) (line : Nat) :
    heightAt (area.heights buf).toArray line = area.heightOf (buf.line line) := by
  have empty : area.heightOf [] = 1 := by
    unfold heightOf
    split <;> rfl
  simp only [heightAt, heights, Buffer.lines, Buffer.line, Buffer.line?, Array.getD_eq_getD_getElem?,
    List.getElem?_toArray, List.map_map, List.getElem?_map]
  cases buf.pieces[line]? with
  | none => exact empty.symm
  | some piece => rfl

namespace Pane

variable {pane next : Pane}

/-- The rows that a line takes. -/
def lineRows (pane : Pane) (line : Nat) : Nat := pane.textArea.heightOf (pane.buffer.line line)

/-- The cursor line is on the screen, down to its last row unless it is the first line. -/
structure ShowsCursorLine (pane : Pane) : Prop where
  top_le : pane.view.top ≤ pane.cursor.pos.line
  fits : ∑ line ∈ Finset.Icc pane.view.top pane.cursor.pos.line, pane.lineRows line ≤
      pane.textArea.rows ∨ pane.view.top = pane.cursor.pos.line

/-- The first and the last of the lines that are kept around the cursor line. -/
def contextTop (pane : Pane) : Nat :=
  pane.cursor.pos.line - View.contextFor pane.textArea.rows pane.options.scrollOff

def contextBottom (pane : Pane) : Nat :=
  min (pane.cursor.pos.line + View.contextFor pane.textArea.rows pane.options.scrollOff)
    pane.buffer.lastLine

/-- The lines that are kept above the cursor line fit on the screen with it, and so do those below. -/
structure RoomAround (pane : Pane) : Prop where
  above : pane.contextTop < pane.cursor.pos.line →
    ∑ line ∈ Finset.Icc pane.contextTop pane.cursor.pos.line, pane.lineRows line ≤ pane.textArea.rows
  below : pane.cursor.pos.line < pane.contextBottom →
    ∑ line ∈ Finset.Icc pane.cursor.pos.line pane.contextBottom, pane.lineRows line ≤
      pane.textArea.rows

instance (pane : Pane) : Decidable pane.RoomAround :=
  decidable_of_iff (_ ∧ _) ⟨fun ⟨above, below⟩ => ⟨above, below⟩, fun room => ⟨room.above, room.below⟩⟩

instance (pane : Pane) : Decidable pane.ShowsCursorLine :=
  decidable_of_iff (_ ∧ _) ⟨fun ⟨top, fits⟩ => ⟨top, fits⟩, fun shows => ⟨shows.top_le, shows.fits⟩⟩

theorem extent_lineRows (pane : Pane) (first last : Nat) :
    Scroll.extent pane.lineRows first (last + 1) = ∑ line ∈ Finset.Icc first last, pane.lineRows line :=
  rfl

theorem textArea_rows_pos (pane : Pane) : 0 < pane.textArea.rows := by
  show 0 < max (pane.height - 1) 1
  omega

/-- Nothing is kept around the cursor line where the option asks for nothing. -/
theorem roomAround_of_scrollOff (pane : Pane) (none : pane.options.scrollOff = 0) : pane.RoomAround := by
  have context : View.contextFor pane.textArea.rows pane.options.scrollOff = 0 := by
    simp [View.contextFor, none]
  constructor
  · simp [contextTop, context]
  · simp only [contextBottom, context]
    omega

theorem lineRows_of_wrap (unwrapped : pane.options.wrap = false) (line : Nat) :
    pane.lineRows line = 1 := by
  unfold lineRows TextArea.heightOf
  rw [show pane.textArea.wrap = false from unwrapped]
  rfl

/-- Lines that are not wrapped take one row each, and no more of them are kept than there is room for. -/
theorem roomAround_of_wrap (pane : Pane) (unwrapped : pane.options.wrap = false) : pane.RoomAround := by
  have one := lineRows_of_wrap unwrapped
  have rows := pane.textArea_rows_pos
  have context : View.contextFor pane.textArea.rows pane.options.scrollOff ≤
      (pane.textArea.rows - 1) / 2 := Nat.min_le_right _ _
  constructor
  · intro _
    simp only [one, ← Finset.card_eq_sum_ones, Nat.card_Icc, contextTop]
    omega
  · intro _
    simp only [one, ← Finset.card_eq_sum_ones, Nat.card_Icc, contextBottom]
    omega

theorem heightAt_lineRows (pane : Pane) : TextArea.heightAt pane.heights = pane.lineRows :=
  funext fun line => pane.textArea.heightAt_heights pane.buffer line

theorem follow_top (line : pane.cursor.pos.line < pane.buffer.lineCount) :
    pane.follow.view.top = pane.view.topFor pane.lineRows pane.buffer.lineCount pane.textArea.rows
      pane.cursor.pos.line (View.contextFor pane.textArea.rows pane.options.scrollOff) := by
  have inside : min pane.cursor.pos.line (pane.buffer.lineCount - 1) = pane.cursor.pos.line := by omega
  show (pane.view.scrollTo pane.buffer pane.textArea pane.options.scrollOff pane.cursor.pos).top = _
  rw [← heightAt_lineRows]
  unfold View.scrollTo
  dsimp only
  rw [inside]
  rfl

theorem RoomAround.follow (room : pane.RoomAround)
    (line : pane.cursor.pos.line < pane.buffer.lineCount) : pane.follow.ShowsCursorLine := by
  have around : View.RoomAround pane.lineRows pane.buffer.lineCount pane.textArea.rows
      pane.cursor.pos.line (View.contextFor pane.textArea.rows pane.options.scrollOff) :=
    ⟨room.above, room.below⟩
  have drawn : ∀ line, 0 < pane.lineRows line := fun _ => TextArea.heightOf_pos _ _
  have shows := View.shows_topFor pane.view drawn line around
  rw [← follow_top line] at shows
  exact ⟨shows.1, shows.2⟩

/-- A pane that a key or a change of size leads to. -/
inductive Follows (pane : Pane) : Pane → Prop where
  | key {next : Pane} {depth : Nat} {key : Key} (handled : handleKeyWithin depth key pane = some next) :
      Follows pane next
  | resize {width height : Nat} (other : ¬ (width = pane.width ∧ height = pane.height)) :
      Follows pane (pane.resize width height)

/-- Whatever else it does, a key or a change of size ends with the view following the cursor. -/
theorem Follows.eq_follow (follows : pane.Follows next) : ∃ before : Pane, next = before.follow := by
  cases follows with
  | key handled =>
      obtain ⟨last, -, rfl⟩ := Option.map_eq_some_iff.1 handled
      exact ⟨_, rfl⟩
  | resize other => exact ⟨_, if_neg other⟩

theorem Follows.reached (follows : pane.Follows next) (reached : Reached pane) : Reached next := by
  cases follows with
  | key handled => exact reached.key handled
  | resize other => exact reached.resize _ _

/-- After every key and every change of size the cursor line is shown, at any size and with any options, as
long as nothing is kept around it, lines are not wrapped, or what is kept around it fits with it. -/
theorem Reached.shows_cursor_line (reached : Reached pane) (follows : pane.Follows next)
    (room : next.options.scrollOff = 0 ∨ next.options.wrap = false ∨ next.RoomAround) :
    next.ShowsCursorLine := by
  have settled := (follows.reached reached).settled
  obtain ⟨before, rfl⟩ := follows.eq_follow
  have around : before.RoomAround := by
    rcases room with none | unwrapped | around
    · exact before.roomAround_of_scrollOff none
    · exact before.roomAround_of_wrap unwrapped
    · exact { around with }
  exact around.follow settled.line

/-- The last line is reached, and the one above it takes two rows. -/
theorem cursor_line_shown_wrapped :
    let pane := showing (.ofText "a\nb\nc\nddddd\nee".toList) { scrollOff := 1 } 4 5
    ∃ next, pane.Follows next ∧ next.options.wrap = true ∧ next.RoomAround ∧
      next.view.top = 2 ∧ next.cursor.pos.line = 4 ∧ next.ShowsCursorLine := by
  intro pane
  let next := (handleKeyWithin 0 (.char 'G') pane).get (by decide +kernel)
  have follows : pane.Follows next := .key (Option.some_get _).symm
  have room : next.RoomAround := by decide +kernel
  exact ⟨next, follows, by decide +kernel, room, by decide +kernel, by decide +kernel,
    (Reached.start _ _ _ _).shows_cursor_line follows (.inr (.inr room))⟩

/-- A line that is kept below the cursor line pushes it off the top where that line takes too many rows, and
one that is kept above it pushes it off the bottom. -/
theorem cursor_line_pushed_off :
    (∃ pane next : Pane, Reached pane ∧ pane.Follows next ∧ ¬ next.ShowsCursorLine ∧
      next.cursor.pos.line < next.view.top) ∧
    ∃ pane next : Pane, Reached pane ∧ pane.Follows next ∧ ¬ next.ShowsCursorLine ∧
      next.view.top < next.cursor.pos.line := by
  constructor
  · let pane := showing (.ofText "a\nxxxxxxxxxxxxxxxxxxxx".toList) { scrollOff := 1 } 4 5
    let next := (handleKeyWithin 0 (.char 'l') pane).get (by decide +kernel)
    have follows : pane.Follows next := .key (Option.some_get _).symm
    exact ⟨pane, next, .start _ _ _ _, follows, by decide +kernel, by decide +kernel⟩
  · let start := showing (.ofText "xxxxxxxxxxxxxxxxxxxx\nb\nc\nd".toList) { scrollOff := 1 } 4 5
    let pane := start.handleKeys [.char 'G', .char 'k']
    let next := (handleKeyWithin 0 (.char 'k') pane).get (by decide +kernel)
    have follows : pane.Follows next := .key (Option.some_get _).symm
    have reached : Reached pane := (Reached.start _ _ _ _).handleKeys _
    exact ⟨pane, next, reached, follows, by decide +kernel, by decide +kernel⟩

end Pane

end ModalPanes
