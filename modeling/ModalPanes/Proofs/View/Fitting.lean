import Mathlib.Algebra.BigOperators.Intervals
import Mathlib.Algebra.Order.BigOperators.Group.Finset
import ModalPanes.Proofs.View.Scrolling

/-!
# The line scrolled to is shown

Scrolling measures lines in rows, but decides by line numbers how far to go.  Wherever it ends, the lines
from the first one down to the cursor line fit on the screen, or the cursor line is the first one, as long
as the lines that are kept around the cursor line fit on the screen together with it.
-/

namespace ModalPanes

namespace Scroll

variable (height : Nat → Nat)

/-- The rows of the lines from one on and in front of another. -/
def extent (first stop : Nat) : Nat := ∑ line ∈ Finset.Ico first stop, height line

variable {height} {first line stop : Nat}

@[simp] theorem extent_self (line : Nat) : extent height line line = 0 := by simp [extent]

theorem extent_succ (height : Nat → Nat) (le : first ≤ line) :
    extent height first (line + 1) = extent height first line + height line :=
  Finset.sum_Ico_succ_top le height

theorem extent_cons (height : Nat → Nat) (lt : first < stop) :
    extent height first stop = height first + extent height (first + 1) stop :=
  Finset.sum_eq_sum_Ico_succ_bot lt height

theorem extent_mono (height : Nat → Nat) {first' stop' : Nat} (first_le : first ≤ first')
    (stop_le : stop' ≤ stop) :
    extent height first' stop' ≤ extent height first stop :=
  Finset.sum_le_sum_of_subset (Finset.Ico_subset_Ico first_le stop_le)

theorem fits_iff (line rows count : Nat) :
    fits height line rows count = true ↔ extent height line (line + count) ≤ rows := by
  induction count generalizing line rows with
  | zero => simp [fits]
  | succ count ih =>
      have next := ih (line + 1) (rows - height line)
      rw [extent_cons _ (by omega), show line + (count + 1) = line + 1 + count by omega]
      simp only [fits, Bool.and_eq_true, decide_eq_true_eq, next]
      omega

/-- Going up stops before the lines get too high. -/
theorem extent_climb (height : Nat → Nat) (rows line : Nat) :
    extent height (climb height rows line) line ≤ rows := by
  induction line generalizing rows with
  | zero => simp [climb]
  | succ line ih =>
      unfold climb
      split
      · rename_i room
        rw [extent_succ _ (climb_le height _ line)]
        have above := ih (rows - height line)
        omega
      · simp

/-- Going up does not stop as long as the lines fit. -/
theorem climb_le_of_extent {line bottom rows : Nat} (le : line ≤ bottom)
    (room : extent height line bottom ≤ rows) : climb height rows bottom ≤ line := by
  induction bottom generalizing rows with
  | zero => exact climb_le height rows 0 |>.trans (Nat.zero_le line)
  | succ bottom ih =>
      rcases Nat.eq_or_lt_of_le le with rfl | lt
      · exact climb_le height rows _
      · have le : line ≤ bottom := Nat.le_of_lt_succ lt
        rw [extent_succ _ le] at room
        unfold climb
        rw [if_pos (by omega)]
        exact ih le (by omega)

theorem extent_spread (height : Nat → Nat) (lineCount top bottom rows above below : Nat) :
    extent height (spread height lineCount top bottom rows above below) top ≤ rows := by
  fun_induction spread height lineCount top bottom rows above below with
  | case1 top bottom rows above below lower taken room ih => omega
  | case2 => simp
  | case3 top bottom rows above below lower upper taken room ih =>
      have le := spread_le height lineCount (top - 1) bottom (rows - taken) (above + taken) below
      have last := extent_succ height le
      rw [Nat.sub_add_cancel upper] at last
      omega
  | case4 => simp
  | case5 => simp

variable (height) in
/-- A first line shows another line if that is not above it, and all lines in between fit, unless it is
the first one itself. -/
def Shows (rows top line : Nat) : Prop :=
  top ≤ line ∧ (extent height top (line + 1) ≤ rows ∨ top = line)

theorem shows_centerTop (lineCount rows line : Nat) :
    Shows height rows (centerTop height lineCount rows line) line := by
  refine ⟨centerTop_le height lineCount rows line, ?_⟩
  unfold centerTop
  split
  · exact .inr rfl
  · rename_i room
    left
    rw [extent_succ _ (spread_le _ _ _ _ _ _ _)]
    have above := extent_spread height lineCount line line (rows - height line) 0 0
    omega

/-- With a lower line at the bottom, a line is shown if the lines between the two fit. -/
theorem shows_topForBottom (drawn : ∀ line, 0 < height line) {line bottom rows : Nat}
    (le : line ≤ bottom) (room : line < bottom → extent height line (bottom + 1) ≤ rows) :
    Shows height rows (topForBottom height rows bottom) line := by
  have above := extent_climb height (rows - height bottom) bottom
  unfold Shows topForBottom
  rcases Nat.eq_or_lt_of_le le with rfl | lt
  · refine ⟨climb_le height _ line, ?_⟩
    by_cases fits : height line ≤ rows
    · left
      rw [extent_succ _ (climb_le height _ line)]
      omega
    · right
      by_contra other
      have lt := Nat.lt_of_le_of_ne (climb_le height (rows - height line) line) other
      have cons := extent_cons height lt
      have row := drawn (climb height (rows - height line) line)
      omega
  · have room := room lt
    rw [extent_succ _ le] at room
    have upTo := climb_le_of_extent le (show extent height line bottom ≤ rows - height bottom by omega)
    refine ⟨upTo, .inl ?_⟩
    have part := extent_mono height
      (Nat.le_refl (climb height (rows - height bottom) bottom)) (show line + 1 ≤ bottom by omega)
    omega

end Scroll

namespace View

open Scroll

variable {height : Nat → Nat} {lineCount line rows context : Nat}

/-- The lines around a line fit on the screen with it: those above, and those below. -/
structure RoomAround (height : Nat → Nat) (lineCount rows line context : Nat) : Prop where
  above : line - context < line → extent height (line - context) (line + 1) ≤ rows
  below : line < min (line + context) (lineCount - 1) →
    extent height line (min (line + context) (lineCount - 1) + 1) ≤ rows

theorem shows_topFor (view : View) (drawn : ∀ line, 0 < height line) (lt : line < lineCount)
    (room : RoomAround height lineCount rows line context) :
    Shows height rows (view.topFor height lineCount rows line context) line := by
  unfold topFor
  dsimp only
  split
  · split
    · exact shows_centerTop lineCount rows line
    · refine ⟨Nat.sub_le line context, ?_⟩
      by_cases here : line - context < line
      · exact .inl (room.above here)
      · exact .inr (by omega)
  · split
    · rename_i still fits
      rw [fits_iff] at fits
      refine ⟨by omega, .inl ?_⟩
      exact (extent_mono _ (Nat.le_refl _) (by omega)).trans fits
    · split
      · exact shows_centerTop lineCount rows line
      · exact shows_topForBottom drawn (by omega) room.below

end View

end ModalPanes
