import Mathlib.Data.List.Basic
import ModalPanes.Prompt
import ModalPanes.Text.Line

/-!
# Editing a line by bytes

The cursor of a line counts characters, but the text is stored as bytes, and it is edited at byte offsets.  An offset
behind the end, or one inside a character of several bytes, is no place in the text, and neither is an index behind the
last character.  Edits that are carried out in this way fail at such a place; as long as the cursor is not beyond the
end of the text they never do, and come to the same line.
-/

namespace ModalPanes

variable {text front behind : List Char} {start stop offset : Nat}

section Offsets

@[simp] theorem byteLength_append (front behind : List Char) :
    byteLength (front ++ behind) = byteLength front + byteLength behind := by
  induction front with
  | nil => simp [byteLength]
  | cons c front ih => simp [byteLength, ih, Nat.add_assoc]

/-- A text cut at a byte offset, which has to be between two characters or at an end. -/
def splitAtByte? : List Char → Nat → Option (List Char × List Char)
  | text, 0 => some ([], text)
  | [], _ + 1 => none
  | c :: text, offset + 1 =>
      if offset + 1 < c.utf8Size then none
      else (splitAtByte? text (offset + 1 - c.utf8Size)).map fun parts => (c :: parts.1, parts.2)

theorem splitAtByte?_append (front behind : List Char) :
    splitAtByte? (front ++ behind) (byteLength front) = some (front, behind) := by
  induction front with
  | nil => rw [List.nil_append, byteLength, splitAtByte?]
  | cons c front ih =>
      obtain ⟨size, eq⟩ : ∃ size, c.utf8Size = size + 1 := ⟨c.utf8Size - 1, by have := c.utf8Size_pos; omega⟩
      have offset : byteLength (c :: front) = size + byteLength front + 1 := by
        rw [byteLength, eq]
        omega
      have rest : size + byteLength front + 1 - c.utf8Size = byteLength front := by omega
      rw [List.cons_append, offset, splitAtByte?, if_neg (by omega), rest, ih]
      rfl

/-- A text can be cut at an offset just if this many bytes are taken by its first characters. -/
theorem splitAtByte?_eq_some_iff :
    splitAtByte? text offset = some (front, behind) ↔ text = front ++ behind ∧ offset = byteLength front := by
  constructor
  · intro cut
    induction text, offset using splitAtByte?.induct generalizing front with
    | case1 text =>
        rw [splitAtByte?] at cut
        cases cut
        exact ⟨rfl, rfl⟩
    | case2 offset => cases cut
    | case3 c text offset inside =>
        rw [splitAtByte?, if_pos inside] at cut
        cases cut
    | case4 c text offset beyond ih =>
        rw [splitAtByte?, if_neg beyond] at cut
        obtain ⟨parts, rest, eq⟩ := Option.map_eq_some_iff.1 cut
        cases eq
        obtain ⟨whole, length⟩ := ih rest
        refine ⟨congrArg (c :: ·) whole, ?_⟩
        rw [byteLength]
        omega
  · rintro ⟨rfl, rfl⟩
    exact splitAtByte?_append front behind

/-- The byte offset of a character, or of the end for a character behind it. -/
def byteOffset (text : List Char) (index : Nat) : Nat := byteLength (text.take index)

theorem splitAtByte?_byteOffset (text : List Char) (index : Nat) :
    splitAtByte? text (byteOffset text index) = some (text.take index, text.drop index) :=
  splitAtByte?_eq_some_iff.2 ⟨(List.take_append_drop index text).symm, rfl⟩

theorem byteOffset_mono (text : List Char) (le : start ≤ stop) : byteOffset text start ≤ byteOffset text stop := by
  have split : text.take stop = text.take start ++ (text.drop start).take (stop - start) := by
    rw [← List.take_add]
    congr 1
    omega
  unfold byteOffset
  rw [split, byteLength_append]
  exact Nat.le_add_right ..

/-- Put a character in front of an offset. -/
def insertAtByte? (text : List Char) (offset : Nat) (c : Char) : Option (List Char) :=
  (splitAtByte? text offset).map fun parts => parts.1 ++ c :: parts.2

/-- Take away the character behind an offset. -/
def removeAtByte? (text : List Char) (offset : Nat) : Option (List Char) :=
  match splitAtByte? text offset with
  | some (front, _ :: behind) => some (front ++ behind)
  | _ => none

/-- Take away what is between two offsets. -/
def eraseBytes? (text : List Char) (start stop : Nat) : Option (List Char) :=
  if start ≤ stop then
    (splitAtByte? text start).bind fun front => (splitAtByte? text stop).map fun behind => front.1 ++ behind.2
  else none

theorem removeAtByte?_byteOffset (inside : start < text.length) :
    removeAtByte? text (byteOffset text start) = some (text.take start ++ text.drop (start + 1)) := by
  unfold removeAtByte?
  rw [splitAtByte?_byteOffset, List.drop_eq_getElem_cons inside]

theorem eraseBytes?_byteOffset (text : List Char) (le : start ≤ stop) :
    eraseBytes? text (byteOffset text start) (byteOffset text stop) = some (text.take start ++ text.drop stop) := by
  unfold eraseBytes?
  rw [if_pos (byteOffset_mono text le), splitAtByte?_byteOffset, splitAtByte?_byteOffset]
  rfl

end Offsets

section Scanning

variable {holds : Char → Bool}

/-- Go back over characters with a property, looking at each by its index, which has to be one of the text. -/
def skipBack? (holds : Char → Bool) (text : List Char) : Nat → Option Nat
  | 0 => some 0
  | start + 1 =>
      match text[start]? with
      | none => none
      | some c => if holds c then skipBack? holds text start else some (start + 1)

theorem skipBack?_eq (inside : start ≤ text.length) :
    skipBack? holds text start = some ((text.take start).reverse.dropWhile holds).length := by
  induction start with
  | zero => rfl
  | succ start ih =>
      have taken : (text.take (start + 1)).reverse = text[start] :: (text.take start).reverse := by
        rw [List.take_add_one, List.getElem?_eq_getElem inside]
        simp
      rw [skipBack?, List.getElem?_eq_getElem inside, taken]
      dsimp only
      split
      · rename_i more
        rw [List.dropWhile_cons_of_pos more, ih (Nat.le_of_lt inside)]
      · rename_i none
        rw [List.dropWhile_cons_of_neg none, List.length_cons, List.length_reverse,
          List.length_take_of_le (Nat.le_of_lt inside)]

/-- What is left in front, read from the back, is the text up to there. -/
theorem reverse_take_length {rest : List Char} (left : rest <:+ (text.take stop).reverse) :
    (text.take rest.length).reverse = rest := by
  have front := List.reverse_prefix.2 left
  rw [List.reverse_reverse] at front
  have front := front.trans (List.take_prefix ..)
  rw [← List.length_reverse, ← List.prefix_iff_eq_take.1 front, List.reverse_reverse]

end Scanning

namespace InputLine

variable {line : InputLine}

/-- The cursor is somewhere in the text, or behind it. -/
def Within (line : InputLine) : Prop := line.cursor ≤ line.text.length

/-- Type a character: it is put in front of the offset of the cursor. -/
def insertByBytes? (line : InputLine) (c : Char) : Option InputLine :=
  (insertAtByte? line.text (byteOffset line.text line.cursor) c).map fun text => ⟨text, line.cursor + 1⟩

/-- Erase the character in front of the cursor, if it is not at the start. -/
def backspaceByBytes? (line : InputLine) : Option InputLine :=
  if line.cursor = 0 then some line
  else (removeAtByte? line.text (byteOffset line.text (line.cursor - 1))).map fun text => ⟨text, line.cursor - 1⟩

/-- Erase the character behind the cursor, if it is not at the end. -/
def deleteByBytes? (line : InputLine) : Option InputLine :=
  if line.text.length ≤ line.cursor then some line
  else (removeAtByte? line.text (byteOffset line.text line.cursor)).map fun text => { line with text := text }

/-- Erase the word in front of the cursor: first the spaces are passed, by their indices, and then the word. -/
def deleteWordByBytes? (line : InputLine) : Option InputLine :=
  (skipBack? (· == ' ') line.text line.cursor).bind fun blank =>
    (skipBack? (· != ' ') line.text blank).bind fun start =>
      (eraseBytes? line.text (byteOffset line.text start) (byteOffset line.text line.cursor)).map fun text =>
        ⟨text, start⟩

/-- Erase everything in front of the cursor. -/
def clearByBytes? (line : InputLine) : Option InputLine :=
  (eraseBytes? line.text 0 (byteOffset line.text line.cursor)).map fun text => ⟨text, 0⟩

theorem insertByBytes?_eq (line : InputLine) (c : Char) : line.insertByBytes? c = some (line.insert c) := by
  unfold insertByBytes? insertAtByte?
  rw [splitAtByte?_byteOffset]
  rfl

theorem backspaceByBytes?_eq (within : line.Within) : line.backspaceByBytes? = some line.backspace := by
  obtain ⟨text, cursor⟩ := line
  unfold Within at within
  unfold backspaceByBytes? backspace eraseFrom
  dsimp only at within ⊢
  split
  · rename_i first
    subst first
    rfl
  · have behind : cursor - 1 + 1 = cursor := by omega
    rw [removeAtByte?_byteOffset (by omega), behind]
    rfl

theorem deleteByBytes?_eq (line : InputLine) : line.deleteByBytes? = some line.delete := by
  unfold deleteByBytes? delete
  split
  · rename_i ends
    rw [List.take_of_length_le ends, List.drop_of_length_le (by omega), List.append_nil]
  · rw [removeAtByte?_byteOffset (by omega)]
    rfl

theorem deleteWordByBytes?_eq (within : line.Within) : line.deleteWordByBytes? = some line.deleteWord := by
  have blanks : (line.text.take line.cursor).reverse.dropWhile (· == ' ') <:+ (line.text.take line.cursor).reverse :=
    List.dropWhile_suffix _
  have word := (List.dropWhile_suffix (l := (line.text.take line.cursor).reverse.dropWhile (· == ' ')) (· != ' '))
  have length := blanks.length_le
  have length' := word.length_le
  rw [List.length_reverse, List.length_take_of_le within] at length
  unfold deleteWordByBytes?
  rw [skipBack?_eq within, Option.bind_some, skipBack?_eq (Nat.le_trans length within), Option.bind_some,
    reverse_take_length blanks, eraseBytes?_byteOffset _ (Nat.le_trans length' length)]
  rfl

theorem clearByBytes?_eq (line : InputLine) : line.clearByBytes? = some line.clear := by
  unfold clearByBytes?
  rw [show (0 : Nat) = byteOffset line.text 0 from rfl, eraseBytes?_byteOffset _ (Nat.zero_le _)]
  rfl

end InputLine

end ModalPanes
