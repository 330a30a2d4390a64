import ModalPanes.Proofs.Text.Characters
import ModalPanes.Proofs.Text.Standing
import Mathlib.Data.List.Induction

/-!
# Indices and positions

Whatever breaks its lines, a text has one position for each index, later ones for later indices, and going there and back
changes nothing.  The other way round there are two positions for one index where a line ends in a break that is not taken
off it: the end of that line, and the start of the next one.  A line that ends so is never the last.  The position behind
a character is a column further on, or the start of the next line; what is behind an index changes its position only
between a carriage return and a line feed.
-/

namespace ModalPanes

namespace Line

variable {text piece rest rest' : List Char} {c : Char} {n : Nat}

/-- Only a carriage return looks at what is behind it. -/
theorem joins_congr (seam : c = '\r' → (rest.head? = some '\n' ↔ rest'.head? = some '\n')) :
    Joins c rest ↔ Joins c rest' := by
  unfold Joins
  rw [and_congr_right seam]

theorem joins_return : Joins '\r' rest ↔ rest.head? = some '\n' := by
  simp [Joins, isBreak]

/-- A line ends in a break that stays on it. -/
def KeepsBreak (piece : List Char) : Prop := ∃ c ∈ piece.getLast?, isBreak c = true ∧ c ≠ '\n'

instance (piece : List Char) : Decidable (KeepsBreak piece) :=
  match last : piece.getLast? with
  | none => .isFalse (by simp [KeepsBreak, last])
  | some c => decidable_of_iff (isBreak c = true ∧ c ≠ '\n') (by simp [KeepsBreak, last])

theorem ends_in_break_iff (found : (pieces text)[n]? = some piece) :
    (∃ c ∈ piece.getLast?, isBreak c = true) ↔ n + 1 < (pieces text).length := by
  induction text generalizing n piece with
  | nil =>
      have inside := (List.getElem?_eq_some_iff.1 found).1
      obtain rfl : n = 0 := by simpa using inside
      obtain rfl : [] = piece := by simpa using found
      simp
  | cons c text ih =>
      obtain ⟨first, later, cut⟩ := List.exists_cons_of_ne_nil (pieces_ne_nil text)
      by_cases joins : Joins c text
      · rw [pieces_joins joins cut] at found ⊢
        rw [cut] at ih
        cases n with
        | succ n => exact ih (n := n + 1) found
        | zero =>
            obtain rfl : c :: first = piece := by simpa using found
            have rest := ih (n := 0) rfl
            cases first with
            | cons d first => simpa using rest
            | nil =>
                have other : isBreak c = false := by
                  by_contra breaks
                  obtain ⟨-, empty⟩ := joins.newline cut (by simpa using breaks)
                  cases empty
                simpa [other] using rest
      · rw [pieces_breaks joins] at found ⊢
        cases n with
        | succ n => simpa using ih (n := n) (by simpa using found)
        | zero =>
            obtain rfl : [c] = piece := by simpa using found
            have breaks : isBreak c = true := by
              by_contra other
              exact joins fun breaks => absurd breaks other
            simp [breaks, cut]

theorem length_trimBreak (piece : List Char) :
    (trimBreak piece).length = if piece.getLast? = some '\n' then piece.length - 1 else piece.length := by
  unfold trimBreak
  split <;> simp

end Line

namespace Position

theorem onward_line (pos : Position) : pos.onward.line = pos.line := by
  unfold onward
  split
  · rename_i first
    exact first.symm
  · rfl

theorem onward_col (pos : Position) : onward ⟨pos.line, pos.col + 1⟩ = ⟨pos.onward.line, pos.onward.col + 1⟩ := by
  simp only [onward]
  split <;> rfl

theorem onward_below (line : Nat) : onward ⟨line + 1, 0⟩ = ⟨line + 1, 0⟩ := rfl

end Position

namespace Buffer

variable {buf buf' : Buffer} {pos a b : Position} {piece front rest rest' : List Char} {c : Char} {i j m n : Nat}

theorem positionOf_next (cut : buf.text = front ++ c :: rest) :
    buf.positionOf (front.length + 1) =
      if Line.Joins c rest then
        ⟨(buf.positionOf front.length).line, (buf.positionOf front.length).col + 1⟩
      else ⟨(buf.positionOf front.length).line + 1, 0⟩ := by
  induction front generalizing buf with
  | nil =>
      rw [List.nil_append] at cut
      rw [List.length_nil]
      split
      · rename_i joins
        rw [positionOf_onward cut joins (Nat.zero_le _), positionOf_zero, positionOf_zero]
        rfl
      · rename_i breaks
        rw [positionOf_down cut breaks (Nat.zero_le _), positionOf_zero, positionOf_zero]
        rfl
  | cons d front ih =>
      rw [List.cons_append] at cut
      have behind : front.length + 1 ≤ (front ++ c :: rest).length := by simp
      have later := @ih { text := front ++ c :: rest } rfl
      rw [List.length_cons]
      by_cases joins : Line.Joins d (front ++ c :: rest)
      · rw [positionOf_onward cut joins behind, positionOf_onward cut joins (Nat.le_of_succ_le behind), later]
        split
        · exact Position.onward_col _
        · simp [Position.onward_below, Position.onward_line]
      · rw [positionOf_down cut joins behind, positionOf_down cut joins (Nat.le_of_succ_le behind), later]
        split
        · rfl
        · rfl

/-- What is behind an index does not move its position, unless it makes or parts a pair of carriage return and line
feed. -/
theorem positionOf_congr (cut : buf.text = front ++ rest) (cut' : buf'.text = front ++ rest')
    (seam : front.getLast? = some '\r' → (rest.head? = some '\n' ↔ rest'.head? = some '\n')) :
    buf.positionOf front.length = buf'.positionOf front.length := by
  induction front using List.reverseRecOn generalizing rest rest' with
  | nil => rw [List.length_nil, positionOf_zero, positionOf_zero]
  | append_singleton front c ih =>
      rw [List.append_assoc, List.singleton_append] at cut cut'
      have same := ih cut cut' fun _ => Iff.rfl
      have joins : Line.Joins c rest ↔ Line.Joins c rest' :=
        Line.joins_congr fun isReturn => seam (by simp [isReturn])
      rw [List.length_append, List.length_singleton, positionOf_next cut, positionOf_next cut', same]
      simp only [joins]

theorem index_behind (here : buf.charAt? pos = some c) : buf.index ⟨pos.line, pos.col + 1⟩ = buf.index pos + 1 := by
  obtain ⟨piece, found, char⟩ := charAt?_eq_some_iff.1 here
  have inside := (List.getElem?_eq_some_iff.1 char).1
  have behind : buf.index ⟨pos.line, pos.col + 1⟩ =
      buf.lineStart pos.line + min (pos.col + 1) (buf.lineLength pos.line) :=
    index_of_lt (List.getElem?_eq_some_iff.1 found).1
  rw [behind, lineLength_of_piece found, index_of_charAt? here]
  omega

theorem lineStart_succ (found : buf.pieces[n]? = some piece) :
    buf.lineStart (n + 1) = buf.lineStart n + piece.length := by
  unfold lineStart
  rw [List.take_add_one, found]
  simp

theorem lineStart_mono (le : m ≤ n) : buf.lineStart m ≤ buf.lineStart n := by
  obtain ⟨more, rfl⟩ := Nat.exists_eq_add_of_le le
  unfold lineStart
  rw [List.take_add, List.flatten_append, List.length_append]
  exact Nat.le_add_right _ _

/-- A later position has no earlier index. -/
theorem index_mono (le : a ≤ b) : buf.index a ≤ buf.index b := by
  rcases Nat.lt_or_ge b.line buf.lineCount with inside | beyond
  · rcases le with above | ⟨same, le⟩
    · have lt := Nat.lt_trans above inside
      have found := List.getElem?_eq_getElem lt
      have next := lineStart_succ found
      have whole := lineLength_of_piece found
      have short := Line.length_trimBreak_le buf.pieces[a.line]
      have start : buf.lineStart (a.line + 1) ≤ buf.lineStart b.line := lineStart_mono above
      rw [index_of_lt lt, index_of_lt inside]
      omega
    · rw [index_of_lt (same ▸ inside), index_of_lt inside, same]
      omega
  · rw [index_of_le beyond]
    exact buf.index_le_length a

/-- A later index has a later position. -/
theorem positionOf_strictMono (lt : i < j) (inside : j ≤ buf.length) : buf.positionOf i < buf.positionOf j := by
  rw [← Position.not_le]
  intro back
  have index : buf.index (buf.positionOf j) ≤ buf.index (buf.positionOf i) := index_mono back
  rw [index_positionOf inside, index_positionOf (by omega)] at index
  omega

section There

variable (found : buf.pieces[pos.line]? = some piece) (short : pos.col ≤ buf.lineLength pos.line)
include found short

theorem admits_of_piece : buf.Admits true pos := ⟨(List.getElem?_eq_some_iff.1 found).1, short⟩

theorem positionOf_index_end (last : pos.col = buf.lineLength pos.line) (keeps : Line.KeepsBreak piece) :
    pos.line + 1 < buf.lineCount ∧ buf.positionOf (buf.index pos) = ⟨pos.line + 1, 0⟩ := by
  obtain ⟨c, mem, breaks, other⟩ := keeps
  have below : pos.line + 1 < buf.pieces.length := (Line.ends_in_break_iff found).1 ⟨c, mem, breaks⟩
  refine ⟨below, ?_⟩
  have whole : buf.lineLength pos.line = piece.length := by
    rw [lineLength_of_piece found, Line.length_trimBreak, if_neg]
    rw [Option.mem_def.1 mem]
    simpa using other
  have next := List.getElem?_eq_getElem below
  have index : buf.index pos = buf.lineStart (pos.line + 1) + 0 := by
    rw [index_of_admits (admits_of_piece found short), lineStart_succ found, last, whole,
      Nat.add_zero]
  have inside : 0 < buf.pieces[pos.line + 1].length ∨ pos.line + 1 + 1 = buf.pieces.length := by
    rcases Nat.eq_zero_or_pos buf.pieces[pos.line + 1].length with empty | some
    · right
      have ends := (Line.ends_in_break_iff next).not.1 (by simp [List.length_eq_zero_iff.1 empty])
      have count : buf.pieces.length = (Line.pieces buf.text).length := rfl
      omega
    · exact .inl some
  have le := buf.index_le_length pos
  rw [positionOf, Nat.min_eq_left le, index, lineStart, locate_of_piece next inside, Nat.zero_add]

theorem positionOf_index_of_not (other : ¬ (pos.col = buf.lineLength pos.line ∧ Line.KeepsBreak piece)) :
    buf.positionOf (buf.index pos) = pos := by
  have whole := lineLength_of_piece found
  rw [Line.length_trimBreak] at whole
  have inside : pos.col < piece.length ∨ pos.line + 1 = buf.pieces.length := by
    by_cases last : pos.line + 1 < (Line.pieces buf.text).length
    · left
      obtain ⟨c, mem, breaks⟩ := (Line.ends_in_break_iff found).2 last
      have filled : piece ≠ [] := by
        rintro rfl
        cases mem
      have some := List.length_pos_iff.2 filled
      split at whole
      · omega
      · rename_i noFeed
        have kept : c ≠ '\n' := by
          rintro rfl
          exact noFeed mem
        have ne : pos.col ≠ buf.lineLength pos.line := fun same => other ⟨same, c, mem, breaks, kept⟩
        omega
    · right
      have lt := (List.getElem?_eq_some_iff.1 found).1
      have count : buf.pieces.length = (Line.pieces buf.text).length := rfl
      omega
  have le := buf.index_le_length pos
  rw [positionOf, Nat.min_eq_left le, index_of_admits (admits_of_piece found short), lineStart,
    locate_of_piece found inside, Nat.zero_add]

end There

/-- Coordinates round trip: an index is the one of its position, later indices have later positions, and a place on a
line, not behind its end, is the position of its index, unless it is the end of a line that keeps its break, which has
the index of the start of the next line. -/
theorem coordinates_round_trip (buf : Buffer) :
    (∀ i ≤ buf.length, buf.index (buf.positionOf i) = i) ∧
      (∀ i j, i < j → j ≤ buf.length → buf.positionOf i < buf.positionOf j) ∧
      ∀ pos piece, buf.pieces[pos.line]? = some piece → pos.col ≤ buf.lineLength pos.line →
        if pos.col = buf.lineLength pos.line ∧ Line.KeepsBreak piece then
          pos.line + 1 < buf.lineCount ∧ buf.positionOf (buf.index pos) = ⟨pos.line + 1, 0⟩
        else buf.positionOf (buf.index pos) = pos := by
  refine ⟨fun i le => index_positionOf le, fun i j lt le => positionOf_strictMono lt le, ?_⟩
  intro pos piece found short
  split
  · rename_i ends
    exact positionOf_index_end found short ends.1 ends.2
  · rename_i other
    exact positionOf_index_of_not found short other

/-- A line that ends in a carriage return and a line feed, and one that ends in a line separator. -/
theorem coordinates_round_trip_breaks :
    let buf : Buffer := { text := "a\r\nb\u2028c".toList }
    buf.lines = ["a\r".toList, "b\u2028".toList, "c".toList] ∧ buf.index (buf.positionOf 2) = 2 ∧
      buf.positionOf 2 < buf.positionOf 3 ∧ buf.positionOf (buf.index ⟨0, 2⟩) = ⟨0, 2⟩ ∧
      buf.positionOf (buf.index ⟨1, 2⟩) = ⟨2, 0⟩ := by
  intro buf
  obtain ⟨there, ascends, back⟩ := coordinates_round_trip buf
  refine ⟨by decide, there 2 (by decide), ascends 2 3 (by decide) (by decide), ?_, ?_⟩
  · have whole := back ⟨0, 2⟩ "a\r\n".toList (by decide) (by decide)
    rwa [if_neg (by decide)] at whole
  · have kept := back ⟨1, 2⟩ "b\u2028".toList (by decide) (by decide)
    rw [if_pos (by decide)] at kept
    exact kept.2

end Buffer

end ModalPanes
