import ModalPanes.Cursor
import ModalPanes.Proofs.Text.Place

/-!
# Where a cursor may stand

A buffer admits a cursor on each of its lines, up to the last character or behind it.  Jumps come to such a
place by themselves.  Erasing forward moves nothing, and the cursor still stands in the text: lines behind
the erased character may join its line, or one of them the line break in front, but the line stays at least
as long as its column.
-/

namespace ModalPanes

namespace Line

/-- A position lies on a line among pieces, and not behind its end. -/
def Fits (cut : List (List Char)) (pos : Position) : Prop :=
  ∃ piece, cut[pos.line]? = some piece ∧ pos.col ≤ (trimBreak piece).length

variable {c : Char} {text piece : List Char} {rest : List (List Char)}

theorem length_trimBreak_le (piece : List Char) : (trimBreak piece).length ≤ piece.length := by
  unfold trimBreak
  split <;> simp

theorem length_le_trimBreak (piece : List Char) :
    piece.length ≤ (trimBreak piece).length + 1 := by
  unfold trimBreak
  split <;> simp; omega

theorem fits_zero (text : List Char) : Fits (pieces text) ⟨0, 0⟩ := by
  obtain ⟨piece, rest, cut⟩ := List.exists_cons_of_ne_nil (pieces_ne_nil text)
  exact ⟨piece, by rw [cut]; rfl, Nat.zero_le _⟩

/-- A break that joins the line behind it is a carriage return in front of a line feed. -/
theorem Joins.newline (joins : Joins c text) (cut : pieces text = piece :: rest)
    (breaks : isBreak c = true) : c = '\r' ∧ piece = ['\n'] := by
  obtain ⟨carriage, head⟩ := joins breaks
  obtain ⟨later, rfl⟩ := List.head?_eq_some_iff.1 head
  rw [pieces_newline] at cut
  exact ⟨carriage, (List.cons.inj cut).1.symm⟩

theorem fits_joins (joins : Joins c text) {line col : Nat}
    (fits : Fits (pieces text) ⟨line + 1, col⟩) : Fits (pieces (c :: text)) ⟨line + 1, col⟩ := by
  obtain ⟨piece, rest, cut⟩ := List.exists_cons_of_ne_nil (pieces_ne_nil text)
  rw [pieces_joins joins cut]
  rwa [cut] at fits

theorem fits_breaks (breaks : ¬ Joins c text) {line col : Nat}
    (fits : Fits (pieces text) ⟨line, col⟩) : Fits (pieces (c :: text)) ⟨line + 1, col⟩ := by
  rw [pieces_breaks breaks]
  exact fits

theorem fits_char (other : isBreak c = false) {col : Nat} (fits : Fits (pieces text) ⟨0, col⟩) :
    Fits (pieces (c :: text)) ⟨0, col + 1⟩ := by
  obtain ⟨piece, rest, cut⟩ := List.exists_cons_of_ne_nil (pieces_ne_nil text)
  obtain ⟨first, found, le⟩ := fits
  obtain rfl : piece = first := by simpa [cut] using found
  refine ⟨c :: piece, by rw [pieces_char other cut]; rfl, ?_⟩
  rw [trimBreak_cons (ne_newline_of_isBreak other)]
  exact Nat.succ_le_succ le

theorem fits_one (other : c ≠ '\n') (text : List Char) : Fits (pieces (c :: text)) ⟨0, 1⟩ := by
  have long : ∀ piece, 1 ≤ (trimBreak (c :: piece)).length := by
    intro piece
    rw [trimBreak_cons other]
    exact Nat.le_add_left ..
  by_cases joins : Joins c text
  · obtain ⟨piece, rest, cut⟩ := List.exists_cons_of_ne_nil (pieces_ne_nil text)
    rw [pieces_joins joins cut]
    exact ⟨c :: piece, rfl, long piece⟩
  · rw [pieces_breaks joins]
    exact ⟨[c], rfl, long []⟩

theorem head?_eraseIdx {i : Nat} (behind : 0 < i) (text : List Char) :
    (text.eraseIdx i).head? = text.head? := by
  obtain ⟨i, rfl⟩ := Nat.exists_eq_succ_of_ne_zero (Nat.ne_of_gt behind)
  cases text <;> rfl

/-- Erasing a line feed behind a carriage return of the line above joins the two breaks into one; only
the first place of the line can be the one of the erased character then. -/
theorem fits_eraseIdx_breaks (breaks : ¬ Joins c text) {line col : Nat}
    (fits : Fits (pieces (text.eraseIdx (((pieces text).take line).flatten.length + col)))
      ⟨line, col⟩) :
    Fits (pieces (c :: text.eraseIdx (((pieces text).take line).flatten.length + col)))
      ⟨line + 1, col⟩ := by
  generalize index : ((pieces text).take line).flatten.length + col = i at fits ⊢
  by_cases joins : Joins c (text.eraseIdx i)
  · have isBreak : isBreak c = true := by
      by_contra other
      exact breaks fun isBreak => absurd isBreak other
    obtain ⟨rfl, head⟩ := joins isBreak
    obtain rfl : i = 0 := by
      by_contra behind
      rw [head?_eraseIdx (Nat.pos_of_ne_zero behind)] at head
      exact breaks fun _ => ⟨rfl, head⟩
    obtain ⟨piece, rest, cut⟩ := List.exists_cons_of_ne_nil (pieces_ne_nil text)
    have filled : piece ≠ [] := by
      rintro rfl
      cases text with
      | nil => simp at head
      | cons d text => simpa using head?_piece cut
    obtain rfl : col = 0 := by omega
    obtain rfl : line = 0 := by
      cases line with
      | zero => rfl
      | succ line => simp [cut, filled] at index
    obtain ⟨later, eq⟩ := List.head?_eq_some_iff.1 head
    apply fits_joins joins
    rw [eq, pieces_newline]
    exact fits_zero later
  · exact fits_breaks joins fits

theorem fits_eraseIdx_first {first : List Char} {later : List (List Char)} {col : Nat}
    (joins : Joins c text) (cut : pieces text = first :: later) (lt : col < first.length)
    (fits : Fits (pieces (text.eraseIdx col)) ⟨0, col⟩) :
    Fits (pieces (c :: text.eraseIdx col)) ⟨0, col + 1⟩ := by
  cases isBreak : isBreak c with
  | false => exact fits_char isBreak fits
  | true =>
      obtain ⟨rfl, rfl⟩ := joins.newline cut isBreak
      obtain rfl : col = 0 := by simpa using lt
      exact fits_one (by decide) _

theorem fits_eraseIdx_joins {first : List Char} {later : List (List Char)} {line col : Nat}
    (joins : Joins c text) (cut : pieces text = first :: later)
    (fits : Fits (pieces (text.eraseIdx (((first :: later).take (line + 1)).flatten.length + col)))
      ⟨line + 1, col⟩) :
    Fits (pieces (c :: text.eraseIdx (((first :: later).take (line + 1)).flatten.length + col)))
      ⟨line + 1, col⟩ := by
  refine fits_joins (fun isBreak => ?_) fits
  obtain ⟨carriage, rfl⟩ := joins.newline cut isBreak
  refine ⟨carriage, ?_⟩
  have behind : 0 < ((['\n'] :: later).take (line + 1)).flatten.length + col := by
    simp only [List.take_succ_cons, List.flatten_cons, List.length_append, List.length_singleton]
    omega
  rw [head?_eraseIdx behind, ← head?_piece cut]
  rfl

theorem fits_eraseIdx {line col : Nat} (found : (pieces text)[line]? = some piece)
    (lt : col < piece.length) :
    Fits (pieces (text.eraseIdx (((pieces text).take line).flatten.length + col))) ⟨line, col⟩ := by
  induction text generalizing line col piece with
  | nil =>
      obtain ⟨-, rfl⟩ : line = 0 ∧ [] = piece := by
        cases line <;> simp_all
      contradiction
  | cons c text ih =>
      obtain ⟨first, later, cut⟩ := List.exists_cons_of_ne_nil (pieces_ne_nil text)
      by_cases joins : Joins c text
      · rw [pieces_joins joins cut] at found ⊢
        rw [cut] at ih
        cases line with
        | zero =>
            obtain rfl : c :: first = piece := by simpa using found
            cases col with
            | zero => exact fits_zero _
            | succ col =>
                have shorter := Nat.lt_of_succ_lt_succ lt
                have erased : Fits (pieces (text.eraseIdx col)) ⟨0, col⟩ := by
                  simpa using @ih first 0 col rfl shorter
                simp only [List.take_zero, List.flatten_nil, List.length_nil, Nat.zero_add,
                  List.eraseIdx_cons_succ]
                exact fits_eraseIdx_first joins cut shorter erased
        | succ line =>
            have index : (((c :: first) :: later).take (line + 1)).flatten.length + col =
                ((first :: later).take (line + 1)).flatten.length + col + 1 := by
              simp only [List.take_succ_cons, List.flatten_cons, List.length_append,
                List.length_cons]
              omega
            rw [index, List.eraseIdx_cons_succ]
            exact fits_eraseIdx_joins joins cut (@ih piece (line + 1) col found lt)
      · rw [pieces_breaks joins] at found ⊢
        cases line with
        | zero =>
            obtain rfl : [c] = piece := by simpa using found
            obtain rfl : col = 0 := by simpa using lt
            exact fits_zero _
        | succ line =>
            have index : (([c] :: pieces text).take (line + 1)).flatten.length + col =
                ((pieces text).take line).flatten.length + col + 1 := by
              simp only [List.take_succ_cons, List.flatten_cons, List.length_append,
                List.length_singleton]
              omega
            rw [index, List.eraseIdx_cons_succ]
            exact fits_eraseIdx_breaks joins (ih found lt)

end Line

namespace Buffer

/-- A cursor may stand at a position. -/
def Admits (buf : Buffer) (pastEnd : Bool) (pos : Position) : Prop :=
  pos.line < buf.lineCount ∧ pos.col ≤ buf.lastColumn pastEnd pos.line

variable {buf : Buffer} {pos : Position}

theorem admits_zero (buf : Buffer) (pastEnd : Bool) : buf.Admits pastEnd .zero :=
  ⟨buf.lineCount_pos, Nat.zero_le _⟩

theorem admits_nearest (buf : Buffer) (pastEnd : Bool) (pos : Position) :
    buf.Admits pastEnd (buf.nearest pastEnd pos) :=
  ⟨buf.nearest_line_lt pastEnd pos, buf.nearest_col_le pastEnd pos⟩

theorem Admits.widen (admits : buf.Admits false pos) (pastEnd : Bool) : buf.Admits pastEnd pos := by
  refine ⟨admits.1, Nat.le_trans admits.2 ?_⟩
  cases pastEnd with
  | false => exact Nat.le_refl _
  | true => exact Nat.sub_le ..

theorem lineLength_of_piece {n : Nat} {piece : List Char} (found : buf.pieces[n]? = some piece) :
    buf.lineLength n = (Line.trimBreak piece).length := by
  simp only [lineLength, line, line?, found, Option.map_some, Option.getD_some]

theorem admits_true : buf.Admits true pos ↔ Line.Fits buf.pieces pos := by
  constructor
  · rintro ⟨lt, le⟩
    have found := List.getElem?_eq_getElem lt
    exact ⟨_, found, lineLength_of_piece found ▸ le⟩
  · rintro ⟨piece, found, le⟩
    have short : pos.col ≤ buf.lineLength pos.line := lineLength_of_piece found ▸ le
    exact ⟨(List.getElem?_eq_some_iff.1 found).1, short⟩

/-- The position of an index is between the characters of a line. -/
theorem admits_positionOf (buf : Buffer) (i : Nat) : buf.Admits true (buf.positionOf i) := by
  rw [← positionOf_min]
  obtain ⟨lt, short, -⟩ := positionOf_spec (Nat.min_le_right i buf.length)
  exact ⟨lt, short⟩

theorem index_of_admits (admits : buf.Admits true pos) :
    buf.index pos = buf.lineStart pos.line + pos.col := by
  have le : pos.col ≤ buf.lineLength pos.line := admits.2
  rw [index_of_lt admits.1, Nat.min_eq_left le]

/-- Where at most the character of a place is erased, a cursor may still stand. -/
theorem Admits.erase {start stop : Position} (admits : buf.Admits true start)
    (next : buf.index stop ≤ buf.index start + 1)
    (short : ∀ piece ∈ buf.pieces[start.line]?, buf.index start < buf.index stop →
      start.col < piece.length) :
    (buf.erase ⟨start, stop⟩).Admits true start := by
  unfold Buffer.erase
  dsimp only
  split
  · exact admits
  · rename_i lt
    rw [Nat.not_le] at lt
    obtain ⟨piece, found, le⟩ := admits_true.1 admits
    have erased := Line.fits_eraseIdx found (short piece found lt)
    have index : buf.index start =
        ((Line.pieces buf.text).take start.line).flatten.length + start.col :=
      index_of_admits admits
    have stopEq : buf.index stop = buf.index start + 1 := by omega
    rw [← index, List.eraseIdx_eq_take_drop_succ, ← stopEq] at erased
    exact admits_true.2 erased

/-- A cursor in front of a character may stay when the character is erased. -/
theorem Admits.erase_char (admits : buf.Admits true pos) (lt : pos.col < buf.lineLength pos.line) :
    (buf.erase ⟨pos, pos.withCol (pos.col + 1)⟩).Admits true pos := by
  have start := index_of_admits admits
  have stop : buf.index (pos.withCol (pos.col + 1)) =
      buf.lineStart pos.line + min (pos.col + 1) (buf.lineLength pos.line) := index_of_lt admits.1
  apply admits.erase
  · omega
  · intro piece found _
    have length := lineLength_of_piece found
    have le := Line.length_trimBreak_le piece
    omega

theorem Admits.erase_break (admits : buf.Admits true pos) (ge : buf.lineLength pos.line ≤ pos.col)
    (more : pos.line + 1 < buf.lineCount) :
    (buf.erase ⟨pos, ⟨pos.line + 1, 0⟩⟩).Admits true pos := by
  obtain ⟨piece, found, le⟩ := admits_true.1 admits
  have length := lineLength_of_piece found
  have start := index_of_admits admits
  have stop : buf.index ⟨pos.line + 1, 0⟩ = buf.lineStart pos.line + piece.length := by
    rw [index_of_lt more, lineStart, List.take_add_one, found]
    simp [lineStart]
  have long := Line.length_le_trimBreak piece
  apply admits.erase
  · omega
  · intro other mem lt
    obtain rfl := Option.some.inj (found.symm.trans mem)
    omega

end Buffer

namespace Cursor

variable {buf : Buffer} {cur : Cursor} (pastEnd : Bool)

theorem admits_jump (buf : Buffer) (cur : Cursor) (pos : Position) :
    buf.Admits pastEnd (cur.jump buf pastEnd pos).pos :=
  buf.admits_nearest pastEnd pos

theorem admits_toLine (buf : Buffer) (cur : Cursor) (line : Nat) :
    buf.Admits pastEnd (cur.toLine buf pastEnd line).pos :=
  ⟨buf.nearest_line_lt pastEnd ⟨line, 0⟩, Nat.min_le_right _ _⟩

theorem admits_down (buf : Buffer) (cur : Cursor) (count : Nat) :
    buf.Admits pastEnd (cur.down buf pastEnd count).pos :=
  ⟨buf.nearest_line_lt pastEnd ⟨cur.pos.line + count, 0⟩, Sticky.within_le _ _⟩

variable (lt : cur.pos.line < buf.lineCount)
include lt

theorem admits_up (count : Nat) : buf.Admits pastEnd (cur.up buf pastEnd count).pos :=
  ⟨Nat.lt_of_le_of_lt (Nat.sub_le _ _) lt, Sticky.within_le _ _⟩

theorem admits_left (count : Nat) : buf.Admits pastEnd (cur.left buf pastEnd count).pos :=
  ⟨lt, Nat.le_trans (Nat.sub_le _ _) (Nat.min_le_right _ _)⟩

theorem admits_right (count : Nat) : buf.Admits pastEnd (cur.right buf pastEnd count).pos :=
  ⟨lt, Nat.min_le_right _ _⟩

theorem admits_toLineStart : buf.Admits pastEnd cur.toLineStart.pos :=
  ⟨lt, Nat.zero_le _⟩

theorem admits_toLineEnd : buf.Admits pastEnd (cur.toLineEnd buf pastEnd).pos :=
  ⟨lt, Nat.le_refl _⟩

theorem admits_toFirstNonBlank : buf.Admits pastEnd (cur.toFirstNonBlank buf pastEnd).pos :=
  ⟨lt, Nat.min_le_right _ _⟩

end Cursor

end ModalPanes
