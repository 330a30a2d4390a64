import ModalPanes.Proofs.History.Tracking
import Mathlib.Data.List.Basic

/-!
# Back and forth in the history

Undoing moves the newest step done to the steps undone, and redoing moves it back.  Both are a way through
the history: it is said where some steps lead, a step that is taken leads there and keeps track of the text,
and one that cannot be taken changes nothing.  Going back and as far forth again comes to the same history.
-/

namespace ModalPanes

namespace History

variable {history : History} {buf : Buffer}

/-- The history some steps back. -/
def back (history : History) (count : Nat) : History :=
  { history with
    done := history.done.drop count
    undone := (history.done.take count).reverse ++ history.undone }

/-- The history some steps forth. -/
def forth (history : History) (count : Nat) : History :=
  { history with
    done := (history.undone.take count).reverse ++ history.done
    undone := history.undone.drop count }

/-- Going back and as far forth again changes nothing. -/
theorem forth_back {count : Nat} (le : count ≤ history.done.length) :
    (history.back count).forth count = history := by
  have length : (history.done.take count).reverse.length = count := by
    rw [List.length_reverse, List.length_take, Nat.min_eq_left le]
  simp [back, forth, length]

theorem back_of_done (start : history.done = []) (count : Nat) : history.back count = history := by
  cases history
  simp_all [back]

theorem forth_of_undone (newest : history.undone = []) (count : Nat) :
    history.forth count = history := by
  cases history
  simp_all [forth]

/-- A way through the history: `step` takes one step of it, and `move` says where some steps lead. -/
structure Way (step : History → Buffer → Option Position × History × Buffer)
    (move : History → Nat → History) : Prop where
  zero (history : History) : move history 0 = history
  add (history : History) (first second : Nat) :
    move (move history first) second = move history (first + second)
  current (history : History) (count : Nat) : (move history count).current = history.current
  lastId (history : History) (count : Nat) : (move history count).lastId = history.lastId
  /-- A step that is taken leads where it should. -/
  taken {history : History} (buf : Buffer) (closed : history.current = none) :
    (step history buf).2.1 = move history 1
  /-- A step that cannot be taken changes nothing. -/
  stuck {history : History} (buf : Buffer) (closed : history.current = none)
    (refused : (step history buf).1 = none) :
    step history buf = (none, history, buf) ∧ ∀ count, move history count = history
  tracks {texts : Nat → List Char} {history : History} {buf : Buffer}
    (closed : history.current = none) (tracks : Tracks texts history buf.text buf.text) :
    Tracks texts (step history buf).2.1 (step history buf).2.2.text (step history buf).2.2.text

theorem undo_way : Way undo back where
  zero history := by simp [back]
  add history first second := by
    simp only [back, List.drop_drop, List.take_add, List.reverse_append, List.append_assoc]
  current history count := rfl
  lastId history count := rfl
  taken {history} buf closed := by
    unfold undo
    simp only [closed]
    cases newest : history.done with
    | nil => exact (back_of_done newest 1).symm
    | cons step rest => simp [back, newest, closed]
  stuck {history} buf closed refused := by
    unfold undo at refused ⊢
    simp only [closed] at refused ⊢
    cases newest : history.done with
    | nil => exact ⟨rfl, back_of_done newest⟩
    | cons step rest => simp [newest] at refused
  tracks closed tracks := tracks.undo closed

theorem redo_way : Way redo forth where
  zero history := by simp [forth]
  add history first second := by
    simp only [forth, List.drop_drop, List.take_add, List.reverse_append, List.append_assoc]
  current history count := rfl
  lastId history count := rfl
  taken {history} buf closed := by
    unfold redo
    cases next : history.undone with
    | nil => exact (forth_of_undone next 1).symm
    | cons step rest => simp [forth, next]
  stuck {history} buf closed refused := by
    unfold redo at refused ⊢
    cases next : history.undone with
    | nil => exact ⟨rfl, forth_of_undone next⟩
    | cons step rest => simp [next] at refused
  tracks closed tracks := tracks.redo closed

theorem undo_of_done (closed : history.current = none) (start : history.done = []) (buf : Buffer) :
    history.undo buf = (none, history, buf) := by
  unfold undo
  simp only [closed, start]

theorem redo_of_undone (newest : history.undone = []) (buf : Buffer) :
    history.redo buf = (none, history, buf) := by
  unfold redo
  simp only [newest]

end History

end ModalPanes
