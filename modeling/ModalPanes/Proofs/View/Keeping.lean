import ModalPanes.Proofs.View.Fitting

/-!
# Views of lines that take one row each

Where every line takes one row, the lines that are kept around the cursor line are on the screen after scrolling, as far
as there are such lines.  While they are, scrolling again changes nothing.
-/

namespace ModalPanes

namespace Scroll

variable {height : Nat → Nat} {lineCount line top bottom rows above below count : Nat}

section Single

variable (single : ∀ line, height line = 1)
include single

theorem extent_single (first stop : Nat) : extent height first stop = stop - first := by
  simp only [extent, single, ← Finset.card_eq_sum_ones, Nat.card_Ico]

theorem shownFrom_single (line rows count : Nat) : shownFrom height line rows count = min rows count := by
  induction count generalizing line rows with
  | zero => simp [shownFrom]
  | succ count ih =>
      unfold shownFrom
      rw [single, ih]
      split <;> omega

theorem climb_single (rows line : Nat) : climb height rows line = line - rows := by
  induction line generalizing rows with
  | zero => simp [climb]
  | succ line ih =>
      unfold climb
      rw [single, ih]
      split <;> omega

theorem topForBottom_single (room : 0 < rows) (bottom : Nat) :
    topForBottom height rows bottom = bottom + 1 - rows := by
  unfold topForBottom
  rw [single, climb_single single]
  omega

/-- Lines come from above as long as they are half of those that come. -/
theorem spread_single_le (turns : below ≤ above + 1) (half : 2 * (above + count) ≤ above + below + rows) :
    spread height lineCount top bottom rows above below ≤ top - count := by
  fun_induction spread height lineCount top bottom rows above below generalizing count with
  | case1 top bottom rows above below lower taken room =>
      rename_i ih
      have one : taken = 1 := single _
      rcases lower.2 with turn | none
      · exact ih (by omega) (by omega)
      · have none := spread_le height lineCount top (bottom + 1) (rows - taken) above (below + taken)
        omega
  | case2 top bottom rows above below lower taken =>
      have one : taken = 1 := single _
      omega
  | case3 top bottom rows above below lower upper taken room =>
      rename_i ih
      have one : taken = 1 := single _
      cases count with
      | zero =>
          have upTo := spread_le height lineCount (top - 1) bottom (rows - taken) (above + taken) below
          omega
      | succ count =>
          have higher := @ih count (by omega) (by omega)
          omega
  | case4 top bottom rows above below lower upper taken =>
      have one : taken = 1 := single _
      omega
  | case5 top bottom rows above below lower upper => omega

/-- Lines that come from below leave fewer rows to those above, as long as they are half of those that come. -/
theorem le_spread_single (turns : above ≤ below + 1) (half : 2 * (below + count) ≤ above + below + rows)
    (lines : bottom + count < lineCount) :
    top + count ≤ spread height lineCount top bottom rows above below + rows := by
  fun_induction spread height lineCount top bottom rows above below generalizing count with
  | case1 top bottom rows above below lower taken room =>
      rename_i ih
      have one : taken = 1 := single _
      cases count with
      | zero =>
          have spent := extent_spread height lineCount top (bottom + 1) (rows - taken) above (below + taken)
          rw [extent_single single] at spent
          omega
      | succ count =>
          have higher := @ih count (by omega) (by omega) (by omega)
          omega
  | case2 top bottom rows above below lower taken =>
      have one : taken = 1 := single _
      omega
  | case3 top bottom rows above below lower upper taken room =>
      rename_i ih
      have one : taken = 1 := single _
      cases count with
      | zero =>
          have spent := extent_spread height lineCount (top - 1) bottom (rows - taken) (above + taken) below
          rw [extent_single single] at spent
          omega
      | succ count =>
          have higher := @ih (count + 1) (by omega) (by omega) lines
          omega
  | case4 top bottom rows above below lower upper taken =>
      have one : taken = 1 := single _
      omega
  | case5 top bottom rows above below lower upper => omega

end Single

end Scroll

namespace View

open Scroll

variable {height : Nat → Nat} {lineCount line rows context : Nat} {view : View}

/-- Up to `context` lines above and below a line are among the rows from a first line on. -/
structure KeepsAround (lineCount rows top line context : Nat) : Prop where
  above : top ≤ line - context
  below : min (line + context) (lineCount - 1) < top + rows

section Single

variable (single : ∀ line, height line = 1)
include single

theorem bottomLine_single (room : 0 < rows) (inside : view.top < lineCount) :
    view.bottomLine height lineCount rows = min (view.top + (rows - 1)) (lineCount - 1) := by
  unfold bottomLine visibleLines
  rw [shownFrom_single single]
  omega

theorem keepsAround_centerTop (lt : line < lineCount) (half : 2 * context < rows) :
    KeepsAround lineCount rows (centerTop height lineCount rows line) line context := by
  unfold centerTop
  rw [single, if_neg (by omega)]
  constructor
  · exact spread_single_le single (by omega) (by omega)
  · have kept := @le_spread_single _ lineCount line line (rows - 1) 0 0 (min context (lineCount - 1 - line)) single
      (by omega) (by omega) (by omega)
    omega

theorem keepsAround_topFor (view : View) (lt : line < lineCount) (half : 2 * context < rows) :
    KeepsAround lineCount rows (view.topFor height lineCount rows line context) line context := by
  have centered := keepsAround_centerTop single lt half
  unfold topFor
  dsimp only
  split
  · split
    · exact centered
    · exact ⟨Nat.le_refl _, by omega⟩
  · rename_i lower
    split
    · rename_i shown
      rw [fits_iff, extent_single single] at shown
      exact ⟨by omega, by omega⟩
    · split
      · exact centered
      · rename_i beyond near
        rw [fits_iff, extent_single single] at beyond
        rw [topForBottom_single single (by omega)]
        exact ⟨by omega, by omega⟩

theorem topFor_of_keepsAround (lt : line < lineCount) (keeps : KeepsAround lineCount rows view.top line context) :
    view.topFor height lineCount rows line context = view.top := by
  obtain ⟨above, below⟩ := keeps
  have inside : min view.top (lineCount - 1) = view.top := by omega
  unfold topFor
  dsimp only
  rw [inside, if_neg (by omega), if_pos]
  rw [fits_iff, extent_single single]
  omega

end Single

end View

end ModalPanes
