import ModalPanes.View.Scroll

/-!
# The view starts on a line of the buffer

Wherever a view scrolls, from whatever place, its first line is at most the line that it is to show.
-/

namespace ModalPanes

namespace Scroll

variable (height : Nat → Nat)

theorem climb_le (rows line : Nat) : climb height rows line ≤ line := by
  induction line generalizing rows with
  | zero => exact Nat.le_refl _
  | succ line ih =>
      unfold climb
      split
      · exact Nat.le_succ_of_le (ih _)
      · exact Nat.le_refl _

theorem spread_le (lineCount top bottom rows above below : Nat) :
    spread height lineCount top bottom rows above below ≤ top := by
  fun_induction spread height lineCount top bottom rows above below with
  | case1 top bottom rows above below lower taken fits ih => exact ih
  | case2 => exact Nat.le_refl _
  | case3 top bottom rows above below lower upper taken fits ih =>
      exact Nat.le_trans ih (Nat.sub_le _ _)
  | case4 => exact Nat.le_refl _
  | case5 => exact Nat.le_refl _

theorem centerTop_le (lineCount rows line : Nat) : centerTop height lineCount rows line ≤ line := by
  unfold centerTop
  split
  · exact Nat.le_refl _
  · exact spread_le _ _ _ _ _ _ _

end Scroll

namespace View

theorem topFor_lt (view : View) (height : Nat → Nat) {lineCount line : Nat} (rows context : Nat)
    (lt : line < lineCount) : view.topFor height lineCount rows line context < lineCount := by
  have center := Scroll.centerTop_le height lineCount rows line
  have climbed := Scroll.climb_le height
    (rows - height (min (line + context) (lineCount - 1))) (min (line + context) (lineCount - 1))
  unfold topFor
  dsimp only
  split
  · split <;> omega
  · split
    · omega
    · split
      · omega
      · unfold Scroll.topForBottom
        omega

theorem scrollTo_lt (view : View) (buf : Buffer) (area : TextArea) (scrollOff : Nat)
    (pos : Position) : (view.scrollTo buf area scrollOff pos).top < buf.lineCount := by
  have lines := buf.lineCount_pos
  exact topFor_lt _ _ _ _ (by omega)

end View

end ModalPanes
