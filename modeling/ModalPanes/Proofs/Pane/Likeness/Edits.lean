import ModalPanes.Proofs.Pane.Editing
import ModalPanes.Proofs.Text.Unmarked

/-!
# Edits of panes that are alike

What a command does to the text, the registers and the cursor does not depend on the history, on what is
shown of the text, or on what is recorded; only undo, redo, scrolling and the motions to a row of the screen
look there.  So panes that differ in nothing else are told apart by no other command.  Every helper of the
commands is taken in turn: its tests come out the same, and so do its steps.
-/

namespace ModalPanes

namespace Pane

/-- A pane without what most commands do not look at. -/
def core (pane : Pane) : Pane :=
  { pane with
    buffer := pane.buffer.unmarked
    history := {}
    view := {}
    message := none
    recorder := {}
    savedId := 0
    closing := false }

/-- Two panes that most commands cannot tell apart. -/
structure Alike (a b : Pane) : Prop where
  core : a.core = b.core

variable {a b c d pane : Pane}

theorem alike_core (pane : Pane) : pane.Alike pane.core := ⟨rfl⟩

namespace Alike

theorem refl (pane : Pane) : pane.Alike pane := ⟨rfl⟩

theorem symm (alike : a.Alike b) : b.Alike a := ⟨alike.core.symm⟩

theorem trans (first : a.Alike b) (second : b.Alike c) : a.Alike c := ⟨first.core.trans second.core⟩

/-- What does the same to every pane and to its core does the same to panes that are alike. -/
theorem through (f : Pane → Pane) (alike : a.Alike b) (reads : ∀ pane, (f pane).Alike (f pane.core)) :
    (f a).Alike (f b) := by
  have first := reads a
  rw [alike.core] at first
  exact first.trans (reads b).symm

theorem ite {p q : Prop} [Decidable p] [Decidable q] (same : p ↔ q) (yes : a.Alike b)
    (no : c.Alike d) : (if p then a else c).Alike (if q then b else d) := by
  by_cases here : p
  · rw [if_pos here, if_pos (same.1 here)]
    exact yes
  · rw [if_neg here, if_neg (fun there => here (same.2 there))]
    exact no

/-- A fold over the same list. -/
theorem foldl {α : Type} {f : Pane → α → Pane}
    (steps : ∀ {a b : Pane}, a.Alike b → ∀ x, (f a x).Alike (f b x)) (alike : a.Alike b)
    (xs : List α) : (xs.foldl f a).Alike (xs.foldl f b) := by
  induction xs generalizing a b with
  | nil => exact alike
  | cons x xs ih => exact ih (steps alike x)

variable (alike : a.Alike b)
include alike

theorem same {α : Type} (read : Pane → α) (reads : ∀ pane : Pane, read pane = read pane.core) :
    read a = read b := by
  rw [reads a, reads b, alike.core]

section Small

theorem say (text : List Char) : (a.say text).Alike (b.say text) :=
  alike.through (·.say text) fun _ => ⟨rfl⟩

theorem fail (text : List Char) : (a.fail text).Alike (b.fail text) :=
  alike.through (·.fail text) fun _ => ⟨rfl⟩

theorem jump (pastEnd : Bool) (pos : Position) : (a.jump pastEnd pos).Alike (b.jump pastEnd pos) :=
  alike.through (·.jump pastEnd pos) fun _ => ⟨rfl⟩

theorem jumpToLine (pastEnd : Bool) (line : Nat) :
    (a.jumpToLine pastEnd line).Alike (b.jumpToLine pastEnd line) :=
  alike.through (·.jumpToLine pastEnd line) fun _ => ⟨rfl⟩

theorem moveCursor (move : Cursor → Cursor) : (a.moveCursor move).Alike (b.moveCursor move) :=
  alike.through (·.moveCursor move) fun _ => ⟨rfl⟩

theorem cancelCommand : a.cancelCommand.Alike b.cancelCommand :=
  alike.through (·.cancelCommand) fun _ => ⟨rfl⟩

theorem dropCount : a.dropCount.Alike b.dropCount := alike.through (·.dropCount) fun _ => ⟨rfl⟩

theorem await (pending : Pending) : (a.await pending).Alike (b.await pending) :=
  alike.through (·.await pending) fun _ => ⟨rfl⟩

theorem markChange : a.markChange.Alike b.markChange := alike.through (·.markChange) fun _ => ⟨rfl⟩

theorem beginTyping (mode : Mode) (kind : InsertKind) (count : Nat) :
    (a.beginTyping mode kind count).Alike (b.beginTyping mode kind count) :=
  alike.through (·.beginTyping mode kind count) fun _ => ⟨rfl⟩

theorem startInsert (kind : InsertKind) (count : Nat) :
    (a.startInsert kind count).Alike (b.startInsert kind count) :=
  alike.beginTyping .insert kind count

theorem dropRegister : Alike { a with register := none } { b with register := none } :=
  alike.through (fun pane => { pane with register := none }) fun _ => ⟨rfl⟩

theorem revise (change : InsertSession → InsertSession) : (a.revise change).Alike (b.revise change) :=
  alike.through (·.revise change) fun _ => ⟨rfl⟩

end Small

section Edits

theorem insertText (pos : Position) (text : List Char) :
    (a.insertText pos text).Alike (b.insertText pos text) := by
  refine alike.through (·.insertText pos text) fun pane => ?_
  obtain ⟨history, recorder, eq⟩ := insertText_eq pane pos text
  obtain ⟨other, otherRecorder, eqCore⟩ := insertText_eq pane.core pos text
  rw [eq, eqCore]
  refine ⟨?_⟩
  unfold Pane.core Buffer.unmarked Buffer.insert
  dsimp only
  split <;> rfl

theorem eraseRange (range : Range) : (a.eraseRange range).Alike (b.eraseRange range) := by
  refine alike.through (·.eraseRange range) fun pane => ?_
  obtain ⟨history, recorder, eq⟩ := eraseRange_eq pane range
  obtain ⟨other, otherRecorder, eqCore⟩ := eraseRange_eq pane.core range
  rw [eq, eqCore]
  refine ⟨?_⟩
  unfold Pane.core Buffer.unmarked Buffer.erase
  dsimp only
  by_cases empty : pane.buffer.index range.stop ≤ pane.buffer.index range.start
  · rw [if_pos empty, if_pos (show Buffer.index { pane.buffer with modified := false } range.stop ≤
      Buffer.index { pane.buffer with modified := false } range.start from empty)]
  · rw [if_neg empty, if_neg (show ¬ Buffer.index { pane.buffer with modified := false } range.stop ≤
      Buffer.index { pane.buffer with modified := false } range.start from empty)]
    rfl

theorem replaceText (range : Range) (text : List Char) :
    (a.replaceText range text).Alike (b.replaceText range text) := by
  refine alike.through (·.replaceText range text) fun pane => ?_
  have same := pane.alike_core
  unfold Pane.replaceText
  exact .ite .rfl same ((same.eraseRange range).insertText range.start text)

theorem store (name : Option Char) (kind : RegisterKind) (text : List Char) :
    (a.store name kind text).Alike (b.store name kind text) :=
  alike.through (·.store name kind text) fun _ => ⟨rfl⟩

theorem reportFewer (before : Nat) : (a.reportFewer before).Alike (b.reportFewer before) := by
  refine alike.through (·.reportFewer before) fun pane => ?_
  have same := pane.alike_core
  unfold Pane.reportFewer
  exact .ite .rfl (same.say _) same

theorem reportMore (added : Nat) : (a.reportMore added).Alike (b.reportMore added) := by
  unfold Pane.reportMore
  exact .ite .rfl (alike.say _) alike

theorem reportYanked (lines : Nat) : (a.reportYanked lines).Alike (b.reportYanked lines) := by
  unfold Pane.reportYanked
  exact .ite .rfl (alike.say _) alike

theorem operateOnChars (op : Operator) (range : Range) (register : Option Char) :
    (a.operateOnChars op range register).Alike (b.operateOnChars op range register) := by
  refine alike.through (·.operateOnChars op range register) fun pane => ?_
  have same := pane.alike_core
  have stored : Alike
      (if (pane.buffer.slice range).isEmpty then pane
        else pane.store register .char (pane.buffer.slice range))
      (if (pane.core.buffer.slice range).isEmpty then pane.core
        else pane.core.store register .char (pane.core.buffer.slice range)) :=
    .ite .rfl same (same.store register .char _)
  unfold Pane.operateOnChars
  cases op with
  | yank => exact (stored.jump false range.start).reportYanked _
  | delete =>
      dsimp only at stored ⊢
      refine .ite .rfl stored ?_
      rw [stored.same (·.buffer.lineCount) fun _ => rfl]
      exact ((stored.eraseRange range).jump false range.start).reportFewer _
  | change => exact ((stored.eraseRange range).jump true range.start).startInsert .plain 1

theorem operateOnLines (op : Operator) (first last : Nat) (register : Option Char) :
    (a.operateOnLines op first last register).Alike (b.operateOnLines op first last register) := by
  refine alike.through (·.operateOnLines op first last register) fun pane => ?_
  have stored := fun text => pane.alike_core.store register .line text
  unfold Pane.operateOnLines
  cases op with
  | yank => exact Alike.reportYanked (.ite .rfl ((stored _).jump false _) (stored _)) _
  | delete =>
      have erased := ((stored ((linesBetween first (min last pane.buffer.lastLine)).flatMap
        fun line => pane.buffer.line line ++ ['\n'])).eraseRange
          (wholeLines pane.buffer first (min last pane.buffer.lastLine))).jumpToLine false first
      have empty := erased.same (·.buffer.text.isEmpty = true) fun _ => rfl
      exact .ite (iff_of_eq empty) (erased.say _) (erased.reportFewer _)
  | change => exact (((stored _).eraseRange _).jump true _).startInsert .plain 1

theorem operate (op : Operator) (span : Span) : (a.operate op span).Alike (b.operate op span) := by
  refine alike.through (·.operate op span) fun pane => ?_
  have dropped := pane.alike_core.dropRegister
  unfold Pane.operate
  exact .ite .rfl (dropped.operateOnLines op _ _ _) (dropped.operateOnChars op _ _)

theorem putChars (reg : Register) (after : Bool) (count : Nat) :
    (a.putChars reg after count).Alike (b.putChars reg after count) := by
  refine alike.through (·.putChars reg after count) fun pane => ?_
  have put := fun pos => pane.alike_core.insertText pos (repeatText count reg.text)
  unfold Pane.putChars
  exact Alike.reportMore (.ite .rfl ((put _).jump false _) ((put _).jump false _)) _

theorem putLines (reg : Register) (after : Bool) (count : Nat) :
    (a.putLines reg after count).Alike (b.putLines reg after count) := by
  refine alike.through (·.putLines reg after count) fun pane => ?_
  have same := pane.alike_core
  unfold Pane.putLines
  refine Alike.reportMore (Alike.jumpToLine ?_ false _) _
  exact .ite .rfl (same.insertText _ _) (.ite .rfl (same.insertText _ _) (same.insertText _ _))

theorem putRow (col width count line : Nat) (row : List Char) :
    (a.putRow col width count line row).Alike (b.putRow col width count line row) := by
  refine alike.through (·.putRow col width count line row) fun pane => ?_
  have same := pane.alike_core
  have added : Alike
      (if pane.buffer.lineCount ≤ line then
        pane.insertText ⟨pane.buffer.lastLine, pane.buffer.lineLength pane.buffer.lastLine⟩ ['\n']
      else pane)
      (if pane.core.buffer.lineCount ≤ line then
        pane.core.insertText
          ⟨pane.core.buffer.lastLine, pane.core.buffer.lineLength pane.core.buffer.lastLine⟩ ['\n']
      else pane.core) :=
    .ite .rfl (same.insertText _ _) same
  have length := added.same (·.buffer.lineLength line) fun _ => rfl
  unfold Pane.putRow
  dsimp only at added length ⊢
  rw [length]
  exact (added.insertText _ _).insertText _ _

theorem putBlock (reg : Register) (after : Bool) (count : Nat) :
    (a.putBlock reg after count).Alike (b.putBlock reg after count) := by
  have rows : ∀ {a b : Pane}, a.Alike b → ∀ col width line (rows : List (List Char)),
      (putRows col width count a line rows).Alike (putRows col width count b line rows) := by
    intro a b alike col width line rows
    induction rows generalizing a b line with
    | nil => exact alike
    | cons row rows ih => exact ih (alike.putRow col width count line row) _
  refine alike.through (·.putBlock reg after count) fun pane => ?_
  exact (rows pane.alike_core _ _ _ _).jump false _

theorem put (after : Bool) (count : Nat) : (a.put after count).Alike (b.put after count) := by
  refine alike.through (·.put after count) fun pane => ?_
  have dropped := pane.alike_core.dropRegister
  unfold Pane.put
  refine .ite .rfl (dropped.fail _) (.ite .rfl (dropped.fail _) ?_)
  dsimp only [Pane.core]
  split
  · exact dropped.putChars _ after _
  · exact dropped.putLines _ after _
  · exact dropped.putBlock _ after _

theorem openLine (below : Bool) : (a.openLine below).Alike (b.openLine below) := by
  refine alike.through (·.openLine below) fun pane => ?_
  have same := pane.alike_core
  unfold Pane.openLine
  exact .ite .rfl ((same.insertText _ _).jump true _) ((same.insertText _ _).jump true _)

theorem joinNext (first : Nat) :
    (a.joinNext first).1.Alike (b.joinNext first).1 ∧ (a.joinNext first).2 = (b.joinNext first).2 := by
  unfold Pane.joinNext
  dsimp only
  rw [alike.same (·.buffer.line first) fun _ => rfl, alike.same (·.buffer.line (first + 1)) fun _ => rfl]
  exact ⟨(alike.eraseRange _).insertText _ _, rfl⟩

theorem joinTimes (first count col : Nat) :
    (Pane.joinTimes first count a col).1.Alike (Pane.joinTimes first count b col).1 ∧
      (Pane.joinTimes first count a col).2 = (Pane.joinTimes first count b col).2 := by
  induction count generalizing a b col with
  | zero => exact ⟨alike, rfl⟩
  | succ count ih =>
      obtain ⟨joined, same⟩ := alike.joinNext first
      unfold Pane.joinTimes
      dsimp only
      rw [same]
      exact ih joined _

theorem joinLines (first count : Nat) : (a.joinLines first count).Alike (b.joinLines first count) := by
  refine alike.through (·.joinLines first count) fun pane => ?_
  have same := pane.alike_core
  unfold Pane.joinLines
  refine .ite .rfl same ?_
  obtain ⟨joined, col⟩ := same.joinTimes first
    (min (max count 2 - 1) (pane.buffer.lastLine - first)) 0
  dsimp only
  rw [col]
  exact joined.jump false _

theorem toggleCase (count : Nat) : (a.toggleCase count).Alike (b.toggleCase count) := by
  refine alike.through (·.toggleCase count) fun pane => ?_
  have same := pane.alike_core
  unfold Pane.toggleCase
  exact .ite .rfl same ((same.replaceText _ _).markChange.jump false _)

theorem replaceChars (key : Key) (count : Nat) :
    (a.replaceChars key count).Alike (b.replaceChars key count) := by
  refine alike.through (·.replaceChars key count) fun pane => ?_
  have same := pane.alike_core
  unfold Pane.replaceChars
  split
  · exact same.cancelCommand
  · have erased := fun range => same.eraseRange range
    refine .ite .rfl same.dropRegister (.ite .rfl ?_ (((erased _).insertText _ _).jump false _))
    have broken := (erased (.between pane.cursor.pos (pane.cursor.pos.withCol
      (pane.cursor.pos.col + count)))).insertText pane.cursor.pos ['\n']
    dsimp only
    rw [broken.same (·.buffer.firstNonBlank (pane.cursor.pos.line + 1)) fun _ => rfl]
    exact broken.jump false _

end Edits

end Alike

end Pane

end ModalPanes
