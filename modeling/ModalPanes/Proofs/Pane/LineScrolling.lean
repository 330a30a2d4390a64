import ModalPanes.Proofs.Pane.Following
import ModalPanes.Proofs.Pane.Handling
import ModalPanes.Proofs.View.Keeping

/-!
# Scrolling by lines

Scrolling by lines moves the view, and takes the cursor along as far as the lines around it would leave the screen.
Then the view follows the cursor.  Both agree on the lines that are kept around the cursor line where the option asks
for no more of them than are kept: the cursor stays as close as it can to where it was, and the view stays where it has
been scrolled to.  Where the option asks for more, the cursor may be taken further than it has to be.
-/

namespace ModalPanes

namespace Pane

variable {pane : Pane}

/-- The number of lines that are kept around the cursor line. -/
def context (pane : Pane) : Nat := View.contextFor pane.textArea.rows pane.options.scrollOff

/-- The lines that are kept around the cursor line are on the screen, if lines take one row each. -/
def KeepsContext (pane : Pane) : Prop :=
  View.KeepsAround pane.buffer.lineCount pane.textArea.rows pane.view.top pane.cursor.pos.line pane.context

theorem context_le (pane : Pane) : 2 * pane.context < pane.textArea.rows := by
  have rows := pane.textArea_rows_pos
  have half : pane.context ≤ (pane.textArea.rows - 1) / 2 := Nat.min_le_right _ _
  omega

theorem KeepsContext.follow (unwrapped : pane.options.wrap = false)
    (line : pane.cursor.pos.line < pane.buffer.lineCount) : pane.follow.KeepsContext := by
  have kept := View.keepsAround_topFor (lineRows_of_wrap unwrapped) pane.view line pane.context_le
  unfold KeepsContext
  rw [follow_top line]
  exact kept

/-- A pane that does not wrap its lines has those around its cursor on the screen. -/
theorem Reached.keepsContext (reached : Reached pane) (unwrapped : pane.options.wrap = false) :
    pane.KeepsContext := by
  have line := reached.settled.line
  induction reached with
  | start buffer options width height =>
      have half := context_le (showing buffer options width height)
      refine ⟨Nat.zero_le _, ?_⟩
      show min (0 + context _) _ < 0 + _
      omega
  | key reached handled ih =>
      obtain ⟨last, -, rfl⟩ := Option.map_eq_some_iff.1 handled
      exact .follow unwrapped line
  | @resize pane reached width height ih =>
      unfold Pane.resize at line unwrapped ⊢
      by_cases same : width = pane.width ∧ height = pane.height
      · rw [if_pos same] at line unwrapped ⊢
        exact ih unwrapped line
      · rw [if_neg same] at line unwrapped ⊢
        exact .follow unwrapped line

/-- Settling ends with the view following the cursor, which stays where it is. -/
theorem settle_top (line : pane.cursor.pos.line < pane.buffer.lineCount) :
    pane.settle.cursor = pane.cursor ∧
      pane.settle.view.top = pane.view.topFor pane.lineRows pane.buffer.lineCount pane.textArea.rows
        pane.cursor.pos.line pane.context := by
  constructor
  · obtain ⟨recorder, view, eq, -⟩ := settle_eq pane
    rw [eq]
  · have same : pane.settle.view = pane.follow.view := by
      unfold settle syncModified
      dsimp only
      split <;> split <;> split <;> rfl
    rw [same, follow_top line]
    rfl

section Scroll

variable {count : Option Nat} {newTop bottom : Nat}

/-- Scrolling down takes the cursor along if it would be too close to the first line. -/
theorem scroll_lineDown (top : newTop = min (pane.view.top + count.getD 1) pane.buffer.lastLine) :
    ∃ cursor : Cursor, pane.scroll .lineDown count = { pane.setTop newTop with cursor := cursor } ∧
      cursor.pos.line = max pane.cursor.pos.line (min (newTop + pane.options.scrollOff) pane.buffer.lastLine) := by
  subst top
  unfold scroll
  dsimp only [setTop]
  split
  · refine ⟨_, rfl, ?_⟩
    dsimp only [Cursor.down, Cursor.onLine]
    omega
  · refine ⟨_, rfl, ?_⟩
    omega

/-- Scrolling up takes the cursor along if it would be too close to the last line that is shown. -/
theorem scroll_lineUp (unwrapped : pane.options.wrap = false) (inside : pane.view.top < pane.buffer.lineCount)
    (top : newTop = pane.view.top - count.getD 1)
    (lowest : bottom = min (newTop + (pane.textArea.rows - 1)) pane.buffer.lastLine) :
    ∃ cursor : Cursor, pane.scroll .lineUp count = { pane.setTop newTop with cursor := cursor } ∧
      cursor.pos.line = min pane.cursor.pos.line
        (if bottom = pane.buffer.lastLine then bottom else bottom - pane.options.scrollOff) := by
  subst top
  have higher : (pane.setTop (pane.view.top - count.getD 1)).view.top < pane.buffer.lineCount :=
    Nat.lt_of_le_of_lt (Nat.sub_le _ _) inside
  have shown : (pane.setTop (pane.view.top - count.getD 1)).bottomLine = bottom := by
    show View.bottomLine _ (TextArea.heightAt pane.heights) pane.buffer.lineCount pane.textArea.rows = _
    rw [heightAt_lineRows, View.bottomLine_single (lineRows_of_wrap unwrapped) pane.textArea_rows_pos higher]
    exact lowest.symm
  unfold scroll
  dsimp only
  rw [shown]
  dsimp only [setTop]
  split <;> split
  · refine ⟨_, rfl, ?_⟩
    dsimp only [Cursor.up, Cursor.onLine]
    omega
  · refine ⟨_, rfl, ?_⟩
    omega
  · refine ⟨_, rfl, ?_⟩
    dsimp only [Cursor.up, Cursor.onLine]
    omega
  · refine ⟨_, rfl, ?_⟩
    omega

end Scroll

theorem Reached.takesCommands (reached : Reached pane) (mode : pane.mode = .normal) : pane.TakesCommands := by
  refine ⟨?_, mode⟩
  rw [← Option.not_isSome_iff_eq_none, reached.settled.prompt, mode]
  nofun

/-- In Normal mode a key that scrolls does so at once.  Then the view stays where it has been scrolled to if the lines
around the cursor are on the screen there. -/
theorem TakesCommands.handleKey_scroll (takes : pane.TakesCommands) (waits : pane.pending = none)
    (unwrapped : pane.options.wrap = false) {key : Key} {way : ModalPanes.Scroll}
    (found : Keymap.findOrMotion? Keymap.normal key = some (.scroll way)) {newTop : Nat} {cursor : Cursor}
    (scrolled : (pane.record key).dropCount.scroll way pane.count =
      { (pane.record key).dropCount.setTop newTop with cursor := cursor })
    (line : cursor.pos.line < pane.buffer.lineCount) :
    (pane.handleKey key).cursor = cursor ∧
      (View.KeepsAround pane.buffer.lineCount pane.textArea.rows newTop cursor.pos.line pane.context →
        (pane.handleKey key).view.top = newTop) := by
  have digit := Keymap.countDigit?_of_findOrMotion? found nofun
  have handles : Handles pane [key] ((pane.record key).dropCount.scroll way pane.count).settle :=
    .one (dispatchWith_command (takes.record key) waits (digit _) found nofun)
  have handled : pane.handleKey key = _ := handles.handleKeys
  rw [handled, scrolled]
  let moved : Pane := { (pane.record key).dropCount.setTop newTop with cursor := cursor }
  obtain ⟨same, top⟩ := @settle_top moved line
  refine ⟨same, fun keeps => top.trans ?_⟩
  exact View.topFor_of_keepsAround (@lineRows_of_wrap moved unwrapped) line keeps

section Keys

variable (reached : Reached pane) (mode : pane.mode = .normal) (waits : pane.pending = none)
  (unwrapped : pane.options.wrap = false) {newTop bottom : Nat}
include reached mode waits unwrapped

theorem handleKey_lineDown (top : newTop = min (pane.view.top + pane.count.getD 1) pane.buffer.lastLine) :
    (pane.handleKey (.ctrl 'e')).cursor.pos.line =
        max pane.cursor.pos.line (min (newTop + pane.options.scrollOff) pane.buffer.lastLine) ∧
      (View.KeepsAround pane.buffer.lineCount pane.textArea.rows newTop (pane.handleKey (.ctrl 'e')).cursor.pos.line
        pane.context → (pane.handleKey (.ctrl 'e')).view.top = newTop) := by
  have line := reached.settled.line
  have last : pane.buffer.lastLine = pane.buffer.lineCount - 1 := rfl
  obtain ⟨cursor, scrolled, place⟩ := @scroll_lineDown (pane.record (.ctrl 'e')).dropCount _ _ top
  have place : cursor.pos.line =
      max pane.cursor.pos.line (min (newTop + pane.options.scrollOff) pane.buffer.lastLine) := place
  obtain ⟨same, stays⟩ := (reached.takesCommands mode).handleKey_scroll waits unwrapped rfl scrolled (by omega)
  rw [same]
  exact ⟨place, stays⟩

theorem handleKey_lineUp (top : newTop = pane.view.top - pane.count.getD 1)
    (lowest : bottom = min (newTop + (pane.textArea.rows - 1)) pane.buffer.lastLine) :
    (pane.handleKey (.ctrl 'y')).cursor.pos.line = min pane.cursor.pos.line
        (if bottom = pane.buffer.lastLine then bottom else bottom - pane.options.scrollOff) ∧
      (View.KeepsAround pane.buffer.lineCount pane.textArea.rows newTop (pane.handleKey (.ctrl 'y')).cursor.pos.line
        pane.context → (pane.handleKey (.ctrl 'y')).view.top = newTop) := by
  have line := reached.settled.line
  have inside := reached.invariant.2.2
  obtain ⟨cursor, scrolled, place⟩ := @scroll_lineUp (pane.record (.ctrl 'y')).dropCount _ _ _ unwrapped inside top lowest
  have place : cursor.pos.line = min pane.cursor.pos.line
      (if bottom = pane.buffer.lastLine then bottom else bottom - pane.options.scrollOff) := place
  obtain ⟨same, stays⟩ := (reached.takesCommands mode).handleKey_scroll waits unwrapped rfl scrolled (by omega)
  rw [same]
  exact ⟨place, stays⟩

end Keys

/-- Scrolling by lines takes the cursor along as far as it has to, exactly if the option asks for no more lines around it
than are kept, or the lines that it asks for make no difference.  The view stays where it has been scrolled to.  On the
way down, the count and the lines that are asked for are added to lines, and the sums are numbers of a machine word. -/
theorem Reached.drags_cursor_as_needed (reached : Reached pane) (mode : pane.mode = .normal)
    (waits : pane.pending = none) (unwrapped : pane.options.wrap = false) :
    let last := pane.buffer.lastLine
    let line := pane.cursor.pos.line
    let asked := pane.options.scrollOff
    (let top := min (pane.view.top + pane.count.getD 1) last
      let down := pane.handleKey (.ctrl 'e')
      pane.view.top + pane.count.getD 1 < 2 ^ 64 → top + asked < 2 ^ 64 →
        (down.cursor.pos.line = max line (min (top + pane.context) last) ↔
          asked = pane.context ∨ last ≤ top + pane.context ∨ min (top + asked) last ≤ line) ∧
        (asked = pane.context → top + pane.context ≤ last → down.view.top = top)) ∧
      let top := pane.view.top - pane.count.getD 1
      let bottom := min (top + (pane.textArea.rows - 1)) last
      let up := pane.handleKey (.ctrl 'y')
      (up.cursor.pos.line = min line (if bottom = last then bottom else bottom - pane.context) ↔
          asked = pane.context ∨ bottom = last ∨ bottom = 0 ∨ line ≤ bottom - asked) ∧
        (asked = pane.context → up.view.top = top) := by
  intro last line asked
  have inside := reached.settled.line
  have half := pane.context_le
  have fewer : pane.context ≤ asked := Nat.min_le_left _ _
  have count : last = pane.buffer.lineCount - 1 := rfl
  obtain ⟨above, below⟩ := reached.keepsContext unwrapped
  refine ⟨?_, ?_⟩
  · intro top down _ _
    obtain ⟨place, stays⟩ := handleKey_lineDown reached mode waits unwrapped (show top = _ from rfl)
    have dragged : down.cursor.pos.line = max line (min (top + asked) last) := place
    refine ⟨by omega, fun kept room => stays ⟨?_, ?_⟩⟩
    · show top ≤ down.cursor.pos.line - _
      omega
    · show min (down.cursor.pos.line + _) _ < _
      omega
  · intro top bottom up
    obtain ⟨place, stays⟩ := handleKey_lineUp reached mode waits unwrapped (show top = _ from rfl)
      (show bottom = _ from rfl)
    have dragged : up.cursor.pos.line = min line (if bottom = last then bottom else bottom - asked) := place
    refine ⟨?_, fun kept => stays ⟨?_, ?_⟩⟩
    · rw [dragged]
      split <;> omega
    · show top ≤ up.cursor.pos.line - _
      rw [dragged]
      split <;> omega
    · show min (up.cursor.pos.line + _) _ < _
      rw [dragged]
      split <;> omega

/-- A count on the way down and up, with the cursor taken along. -/
theorem drags_cursor_counted :
    let pane := (showing (.ofText "0\n1\n2\n3\n4\n5\n6\n7\n8\n9".toList) { wrap := false, scrollOff := 1 } 20 6).handleKeys
      [.char '7', .char 'j', .char '3']
    Reached pane ∧ pane.mode = .normal ∧ pane.pending = none ∧ pane.options.wrap = false ∧
      (pane.view.top = 4 ∧ pane.cursor.pos.line = 7 ∧ pane.count = some 3 ∧ pane.options.scrollOff = pane.context) ∧
        (pane.view.top + pane.count.getD 1 < 2 ^ 64 ∧
          min (pane.view.top + pane.count.getD 1) pane.buffer.lastLine + pane.options.scrollOff < 2 ^ 64) ∧
        ((pane.handleKey (.ctrl 'e')).cursor.pos.line = 8 ∧ (pane.handleKey (.ctrl 'e')).view.top = 7) ∧
          (pane.handleKey (.ctrl 'y')).cursor.pos.line = 4 ∧ (pane.handleKey (.ctrl 'y')).view.top = 1 := by
  intro pane
  have reached : Reached pane := (Reached.start _ _ _ _).handleKeys _
  have mode : pane.mode = .normal := by decide +kernel
  have waits : pane.pending = none := by decide +kernel
  have kept : pane.options.scrollOff = pane.context := by decide +kernel
  have counted : pane.view.top + pane.count.getD 1 < 2 ^ 64 := by decide +kernel
  have spare : min (pane.view.top + pane.count.getD 1) pane.buffer.lastLine + pane.options.scrollOff < 2 ^ 64 := by
    decide +kernel
  obtain ⟨lower, up, above⟩ := reached.drags_cursor_as_needed mode waits (by decide +kernel)
  obtain ⟨down, below⟩ := lower counted spare
  refine ⟨reached, mode, waits, by decide +kernel, ⟨by decide +kernel, by decide +kernel, by decide +kernel, kept⟩,
    ⟨counted, spare⟩, ⟨?_, ?_⟩, ?_, ?_⟩
  · exact (down.2 (.inl kept)).trans (by decide +kernel)
  · exact (below kept (by decide +kernel)).trans (by decide +kernel)
  · exact (up.2 (.inl kept)).trans (by decide +kernel)
  · exact (above kept).trans (by decide +kernel)

/-- Where the option asks for more lines than are kept, the cursor goes to the other end of the buffer. -/
theorem drags_cursor_too_far :
    let pane := showing (.ofText "0\n1\n2\n3\n4\n5\n6\n7\n8\n9".toList) { wrap := false, scrollOff := 999 } 20 6
    let lower := pane.handleKey (.char 'G')
    (Reached pane ∧ pane.context = 2 ∧ pane.view.top = 0 ∧ pane.cursor.pos.line = 0 ∧
      (pane.handleKey (.ctrl 'e')).cursor.pos.line = 9 ∧ max 0 (min (min (0 + 1) 9 + 2) 9) = 3) ∧
    Reached lower ∧ lower.context = 2 ∧ lower.view.top = 5 ∧ lower.cursor.pos.line = 9 ∧ lower.mode = .normal ∧
      (lower.handleKey (.ctrl 'y')).cursor.pos.line = 0 ∧
        (let bottom := min (5 - 1 + (5 - 1)) 9
        min 9 (if bottom = 9 then bottom else bottom - 2)) = 6 := by
  intro pane lower
  have reached : Reached pane := .start _ _ _ _
  exact ⟨⟨reached, by decide +kernel⟩, reached.handleKey _, by decide +kernel⟩

end Pane

end ModalPanes
