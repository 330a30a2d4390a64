import ModalPanes.Motion
import ModalPanes.Search.Find

/-!
# Texts with and without the mark of a change

Where a motion, a search or a text object leads does not depend on whether the buffer counts as changed.
Most of these functions read the text directly; for those that go through it step by step, the fact is an
induction on the steps.
-/

namespace ModalPanes

/-- Motions to a row of the screen. -/
def Motion.isOnScreen : Motion → Bool
  | .screenTop | .screenMiddle | .screenBottom => true
  | _ => false

namespace Buffer

/-- A buffer that does not count as changed. -/
def unmarked (buf : Buffer) : Buffer := { buf with modified := false }

variable (buf : Buffer)

theorem wordsForward_unmarked (operator big : Bool) (count : Nat) (pos : Position) :
    buf.unmarked.wordsForward operator big count pos = buf.wordsForward operator big count pos := by
  induction count generalizing pos with
  | zero => rfl
  | succ count ih =>
      unfold wordsForward
      dsimp only
      rw [ih]
      rfl

theorem downWhile_unmarked (empty : Bool) (room line : Nat) :
    buf.unmarked.downWhile empty room line = buf.downWhile empty room line := by
  induction room generalizing line with
  | zero => rfl
  | succ room ih =>
      unfold downWhile
      rw [ih]
      rfl

theorem upWhile_unmarked (empty : Bool) (line : Nat) :
    buf.unmarked.upWhile empty line = buf.upWhile empty line := by
  induction line with
  | zero => rfl
  | succ line ih =>
      unfold upWhile
      rw [ih]
      rfl

theorem paragraphDown_unmarked : buf.unmarked.paragraphDown = buf.paragraphDown := by
  funext line
  unfold paragraphDown
  rw [downWhile_unmarked]
  dsimp only
  rw [downWhile_unmarked]
  rfl

theorem paragraphUp_unmarked : buf.unmarked.paragraphUp = buf.paragraphUp := by
  funext line
  unfold paragraphUp
  rw [upWhile_unmarked, upWhile_unmarked]

theorem searchDown_unmarked (pattern : Pattern) (pos : Position) (steps : List Nat) :
    buf.unmarked.searchDown pattern pos steps = buf.searchDown pattern pos steps := by
  induction steps with
  | nil => rfl
  | cons step steps ih =>
      unfold searchDown
      rw [ih]
      rfl

theorem searchUp_unmarked (pattern : Pattern) (pos : Position) (steps : List Nat) :
    buf.unmarked.searchUp pattern pos steps = buf.searchUp pattern pos steps := by
  induction steps with
  | nil => rfl
  | cons step steps ih =>
      unfold searchUp
      rw [ih]
      rfl

theorem search_unmarked (pattern : Pattern) (pos : Position) (direction : Direction) :
    buf.unmarked.search pattern pos direction = buf.search pattern pos direction := by
  unfold search
  dsimp only
  rw [searchDown_unmarked, searchUp_unmarked]
  rfl

end Buffer

/-- A motion that does not go to a row of the screen does not look at the screen. -/
theorem MotionContext.resolve_unmarked (context : MotionContext) (top rows : Nat) {motion : Motion}
    (other : motion.isOnScreen = false) :
    MotionContext.resolve
        { context with buf := context.buf.unmarked, viewTop := top, viewRows := rows } motion =
      context.resolve motion := by
  cases motion with
  | word step big =>
      cases step with
      | forward =>
          unfold resolve
          dsimp only
          rw [Buffer.wordsForward_unmarked]
          rfl
      | backward => rfl
      | endForward => rfl
      | endBackward => rfl
  | paragraph direction =>
      unfold resolve
      cases direction with
      | forward =>
          dsimp only
          unfold Buffer.paragraphForward
          rw [Buffer.paragraphDown_unmarked]
          rfl
      | backward =>
          dsimp only
          unfold Buffer.paragraphBackward
          rw [Buffer.paragraphUp_unmarked]
          rfl
  | screenTop => contradiction
  | screenMiddle => contradiction
  | screenBottom => contradiction
  | _ => rfl

theorem TextObject.span?_unmarked (object : TextObject) (buf : Buffer) (pos : Position) :
    object.span? buf.unmarked pos = object.span? buf pos := by
  obtain ⟨kind, around⟩ := object
  cases kind <;> rfl

end ModalPanes
