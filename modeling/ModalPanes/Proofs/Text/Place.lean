import ModalPanes.History
import ModalPanes.Proofs.Text.Alphabet
import Mathlib.Data.Nat.Basic

/-!
# Places in a plain text

Where the line feed is the only line break, an index and a position are two names of one place: the
position of an index is where the text in front of it stops, and the index of that position is the length
of that text.  Both directions follow the text character by character: a line feed in front moves a position
down by a line, any other character moves it on by a column, if it lies on the first line.
-/

namespace ModalPanes

/-- A text in which the line feed is the only line break. -/
def Plain (text : List Char) : Prop := ∀ c ∈ text, IsPlain c

instance (text : List Char) : Decidable (Plain text) :=
  inferInstanceAs (Decidable (∀ c ∈ text, IsPlain c))

namespace Plain

variable {text front rest : List Char} {c : Char}

theorem cons_iff : Plain (c :: text) ↔ IsPlain c ∧ Plain text := List.forall_mem_cons

theorem append_iff : Plain (front ++ rest) ↔ Plain front ∧ Plain rest := List.forall_mem_append

theorem take (plain : Plain text) (n : Nat) : Plain (text.take n) :=
  fun c mem => plain c (List.mem_of_mem_take mem)

theorem drop (plain : Plain text) (n : Nat) : Plain (text.drop n) :=
  fun c mem => plain c (List.mem_of_mem_drop mem)

end Plain

namespace Position

/-- The same place when a line feed is put in front of the text. -/
def down (pos : Position) : Position := ⟨pos.line + 1, pos.col⟩

/-- The same place when a character that is no line feed is put in front of the text. -/
def onward (pos : Position) : Position := if pos.line = 0 then ⟨0, pos.col + 1⟩ else pos

end Position

namespace Line

variable {c : Char} {text piece : List Char} {rest : List (List Char)}

theorem pieces_newline (text : List Char) : pieces ('\n' :: text) = ['\n'] :: pieces text := by
  rw [pieces_cons]
  cases cut : pieces text with
  | nil => exact absurd cut (pieces_ne_nil text)
  | cons piece rest => rfl

theorem pieces_char (other : isBreak c = false) (cut : pieces text = piece :: rest) :
    pieces (c :: text) = (c :: piece) :: rest := by
  rw [pieces_cons, cut]
  simp [consPieces, other]

theorem trimBreak_cons (other : c ≠ '\n') (piece : List Char) :
    trimBreak (c :: piece) = c :: trimBreak piece := by
  cases piece with
  | nil => simp [trimBreak, other]
  | cons d piece =>
      simp only [trimBreak, List.getLast?_cons_cons, List.dropLast_cons_cons]
      split <;> rfl

theorem ne_newline_of_isBreak (other : isBreak c = false) : c ≠ '\n' := by
  rintro rfl
  contradiction

/-- A character goes on with the first line behind it. -/
def Joins (c : Char) (text : List Char) : Prop :=
  isBreak c = true → c = '\r' ∧ text.head? = some '\n'

instance (c : Char) (text : List Char) : Decidable (Joins c text) :=
  inferInstanceAs (Decidable (isBreak c = true → c = '\r' ∧ text.head? = some '\n'))

theorem head?_piece (cut : pieces text = piece :: rest) : piece.head? = text.head? := by
  cases text with
  | nil =>
      obtain ⟨rfl, -⟩ := List.cons.inj cut
      rfl
  | cons c text =>
      obtain ⟨first, later, pieces_text⟩ := List.exists_cons_of_ne_nil (pieces_ne_nil text)
      rw [pieces_cons, pieces_text, consPieces] at cut
      split at cut
      all_goals
        obtain ⟨rfl, -⟩ := List.cons.inj cut
        rfl

theorem pieces_joins (joins : Joins c text) (cut : pieces text = piece :: rest) :
    pieces (c :: text) = (c :: piece) :: rest := by
  rw [Joins, ← head?_piece cut] at joins
  rw [pieces_cons, cut]
  simpa [consPieces] using joins

theorem pieces_breaks (breaks : ¬ Joins c text) : pieces (c :: text) = [c] :: pieces text := by
  obtain ⟨piece, rest, cut⟩ := List.exists_cons_of_ne_nil (pieces_ne_nil text)
  rw [Joins, ← head?_piece cut] at breaks
  rw [pieces_cons, cut]
  simpa [consPieces] using breaks

theorem Joins.of_char (other : isBreak c = false) (text : List Char) : Joins c text :=
  fun breaks => absurd breaks (by simp [other])

theorem not_joins_newline (text : List Char) : ¬ Joins '\n' text := fun joins => absurd (joins rfl).1 (by decide)

/-- The last line of a text does not end in a line feed. -/
theorem trimBreak_getLast (text : List Char) :
    trimBreak ((pieces text).getLast (pieces_ne_nil text)) =
      (pieces text).getLast (pieces_ne_nil text) := by
  induction text with
  | nil => rfl
  | cons c text ih =>
      obtain ⟨piece, rest, cut⟩ := List.exists_cons_of_ne_nil (pieces_ne_nil text)
      simp only [pieces_cons, cut, consPieces] at ih ⊢
      split
      · simpa using ih
      · rename_i joined
        cases rest with
        | cons next rest => simpa using ih
        | nil =>
            have other : c ≠ '\n' := by
              rintro rfl
              simp [isBreak] at joined
            simpa [trimBreak_cons other] using ih

end Line

namespace Edit

theorem stopOf_append (start : Position) (front rest : List Char) :
    stopOf start (front ++ rest) = stopOf (stopOf start front) rest := by
  induction front generalizing start with
  | nil => rfl
  | cons c front ih => exact ih _

theorem stopOf_down (start : Position) (text : List Char) :
    stopOf start.down text = (stopOf start text).down := by
  induction text generalizing start with
  | nil => rfl
  | cons c text ih =>
      simp only [stopOf]
      split
      · exact ih ⟨start.line + 1, 0⟩
      · exact ih ⟨start.line, start.col + 1⟩

theorem le_stopOf (start : Position) (text : List Char) : start ≤ stopOf start text := by
  induction text generalizing start with
  | nil => simp [stopOf, Position.le_def]
  | cons c text ih =>
      simp only [stopOf]
      split
      · have later := ih ⟨start.line + 1, 0⟩
        simp only [Position.le_def] at later ⊢
        omega
      · have later := ih ⟨start.line, start.col + 1⟩
        simp only [Position.le_def] at later ⊢
        omega

theorem stopOf_onward (col : Nat) (text : List Char) :
    stopOf ⟨0, col + 1⟩ text = (stopOf ⟨0, col⟩ text).onward := by
  induction text generalizing col with
  | nil => rfl
  | cons c text ih =>
      simp only [stopOf]
      split
      · have later : (⟨1, 0⟩ : Position) ≤ stopOf ⟨1, 0⟩ text := le_stopOf _ _
        have below : (stopOf ⟨1, 0⟩ text).line ≠ 0 := by
          simp only [Position.le_def] at later
          omega
        simp [Position.onward, below]
      · exact ih (col + 1)

theorem stopOf_newline (text : List Char) :
    stopOf .zero ('\n' :: text) = (stopOf .zero text).down :=
  stopOf_down .zero text

theorem stopOf_char {c : Char} (other : c ≠ '\n') (text : List Char) :
    stopOf .zero (c :: text) = (stopOf .zero text).onward := by
  simp only [stopOf, if_neg other]
  exact stopOf_onward 0 text

theorem rangeOf_eq (start : Position) (text : List Char) :
    rangeOf start text = ⟨start, stopOf start text⟩ := by
  simp [rangeOf, Range.between, le_stopOf]

end Edit

namespace Buffer

variable {buf : Buffer} {c : Char} {text front rest : List Char}

theorem index_le_length (buf : Buffer) (pos : Position) : buf.index pos ≤ buf.length := by
  unfold index
  split
  · rename_i lt
    have lt : pos.line < buf.pieces.length := lt
    have flat : buf.length = (buf.pieces.take pos.line).flatten.length +
        (buf.pieces[pos.line].length + (buf.pieces.drop (pos.line + 1)).flatten.length) := by
      rw [← List.length_append, ← List.flatten_cons, ← List.drop_eq_getElem_cons lt,
        ← List.length_append, ← List.flatten_append, List.take_append_drop, pieces,
        Line.flatten_pieces]
      rfl
    have line : buf.lineLength pos.line ≤ buf.pieces[pos.line].length := by
      simp only [lineLength, Buffer.line, line?, List.getElem?_eq_getElem lt, Option.map_some,
        Option.getD_some, Line.trimBreak]
      split <;> simp
    simp only [lineStart]
    omega
  · exact Nat.le_refl _

theorem index_of_lt {pos : Position} (lt : pos.line < buf.lineCount) :
    buf.index pos = buf.lineStart pos.line + min pos.col (buf.lineLength pos.line) :=
  if_pos lt

theorem index_of_le {pos : Position} (le : buf.lineCount ≤ pos.line) :
    buf.index pos = buf.length :=
  if_neg (Nat.not_lt.2 le)

section Newline

variable (cut : buf.text = '\n' :: rest)
include cut

theorem length_newline : buf.length = ({ text := rest } : Buffer).length + 1 := by
  simp [length, cut]

theorem lineCount_newline : buf.lineCount = ({ text := rest } : Buffer).lineCount + 1 := by
  simp only [lineCount, pieces, cut, Line.pieces_newline, List.length_cons]

theorem lineStart_newline (n : Nat) :
    buf.lineStart (n + 1) = ({ text := rest } : Buffer).lineStart n + 1 := by
  simp only [lineStart, pieces, cut, Line.pieces_newline, List.take_succ_cons, List.flatten_cons,
    List.length_append, List.length_singleton]
  omega

theorem lineLength_newline (n : Nat) :
    buf.lineLength (n + 1) = ({ text := rest } : Buffer).lineLength n := by
  simp only [lineLength, line, line?, pieces, cut, Line.pieces_newline, List.getElem?_cons_succ]

theorem index_down (pos : Position) :
    buf.index pos.down = ({ text := rest } : Buffer).index pos + 1 := by
  have count := lineCount_newline cut
  rcases Nat.lt_or_ge pos.line ({ text := rest } : Buffer).lineCount with lt | ge
  · rw [index_of_lt lt, index_of_lt (by simpa [Position.down, count] using lt)]
    simp only [Position.down, lineStart_newline cut, lineLength_newline cut]
    omega
  · rw [index_of_le ge, index_of_le (by simpa [Position.down, count] using ge),
      length_newline cut]

end Newline

section Char

variable (cut : buf.text = c :: rest) (other : Line.isBreak c = false)
include cut other

theorem lineCount_char : buf.lineCount = ({ text := rest } : Buffer).lineCount := by
  obtain ⟨piece, later, pieces_rest⟩ := List.exists_cons_of_ne_nil (Line.pieces_ne_nil rest)
  simp only [lineCount, pieces, cut, Line.pieces_char other pieces_rest, pieces_rest,
    List.length_cons]

theorem lineStart_char (n : Nat) :
    buf.lineStart (n + 1) = ({ text := rest } : Buffer).lineStart (n + 1) + 1 := by
  obtain ⟨piece, later, pieces_rest⟩ := List.exists_cons_of_ne_nil (Line.pieces_ne_nil rest)
  simp only [lineStart, pieces, cut, Line.pieces_char other pieces_rest, pieces_rest,
    List.take_succ_cons, List.flatten_cons, List.length_append, List.length_cons]
  omega

theorem lineLength_char_zero :
    buf.lineLength 0 = ({ text := rest } : Buffer).lineLength 0 + 1 := by
  obtain ⟨piece, later, pieces_rest⟩ := List.exists_cons_of_ne_nil (Line.pieces_ne_nil rest)
  simp [lineLength, line, line?, pieces, cut, Line.pieces_char other pieces_rest, pieces_rest,
    Line.trimBreak_cons (Line.ne_newline_of_isBreak other)]

theorem lineLength_char_succ (n : Nat) :
    buf.lineLength (n + 1) = ({ text := rest } : Buffer).lineLength (n + 1) := by
  obtain ⟨piece, later, pieces_rest⟩ := List.exists_cons_of_ne_nil (Line.pieces_ne_nil rest)
  simp only [lineLength, line, line?, pieces, cut, Line.pieces_char other pieces_rest, pieces_rest,
    List.getElem?_cons_succ]

theorem index_onward (pos : Position) :
    buf.index pos.onward = ({ text := rest } : Buffer).index pos + 1 := by
  have count := lineCount_char cut other
  obtain ⟨line, col⟩ := pos
  cases line with
  | zero =>
      have first : ∀ buf : Buffer, buf.lineStart 0 = 0 := fun buf => rfl
      rw [index_of_lt (buf.lineCount_pos), index_of_lt (lineCount_pos _)]
      simp only [Position.onward, if_true, first, lineLength_char_zero cut other]
      omega
  | succ line =>
      have stays : Position.onward ⟨line + 1, col⟩ = ⟨line + 1, col⟩ := by simp [Position.onward]
      rw [stays]
      rcases Nat.lt_or_ge (line + 1) buf.lineCount with lt | ge
      · rw [index_of_lt lt, index_of_lt (by simpa [count] using lt)]
        simp only [lineStart_char cut other, lineLength_char_succ cut other]
        omega
      · rw [index_of_le ge, index_of_le (by simpa [count] using ge)]
        simp [length, cut]

end Char

theorem index_stopOf (plain : Plain buf.text) (cut : buf.text = front ++ rest) :
    buf.index (Edit.stopOf .zero front) = front.length := by
  induction front generalizing buf with
  | nil => simp [Edit.stopOf, Position.zero, index, lineStart, buf.lineCount_pos]
  | cons c front ih =>
      rw [cut, List.cons_append] at plain
      rw [List.cons_append] at cut
      obtain ⟨plainChar, plainRest⟩ := Plain.cons_iff.1 plain
      have tail : ({ text := front ++ rest } : Buffer).index (Edit.stopOf .zero front) =
          front.length := ih plainRest rfl
      cases breaks : Line.isBreak c with
      | true =>
          obtain rfl := plainChar breaks
          rw [Edit.stopOf_newline, index_down cut, tail, List.length_cons]
      | false =>
          rw [Edit.stopOf_char (Line.ne_newline_of_isBreak breaks), index_onward cut breaks, tail,
            List.length_cons]

theorem locate_down (line : Nat) (cut : List (List Char)) (index : Nat) :
    locate (line + 1) cut index = (locate line cut index).down := by
  fun_induction locate line cut index with
  | case1 line piece next rest index lt => simp [locate, lt, Position.down]
  | case2 line piece next rest index ge ih => simpa [locate, ge] using ih
  | case3 line cut index last =>
      unfold locate
      split
      · exact absurd rfl (last _ _ _)
      · rfl

theorem positionOf_down (cut : buf.text = c :: rest) (breaks : ¬ Line.Joins c rest) {i : Nat}
    (le : i ≤ rest.length) : buf.positionOf (i + 1) = (({ text := rest } : Buffer).positionOf i).down := by
  simp only [positionOf, pieces, length, cut, Line.pieces_breaks breaks, List.length_cons,
    Nat.add_min_add_right, Nat.min_eq_left le]
  cases pieces_rest : Line.pieces rest with
  | nil => exact absurd pieces_rest (Line.pieces_ne_nil rest)
  | cons piece later => simp [locate, locate_down 0]

theorem positionOf_onward (cut : buf.text = c :: rest) (joins : Line.Joins c rest) {i : Nat}
    (le : i ≤ rest.length) :
    buf.positionOf (i + 1) = (({ text := rest } : Buffer).positionOf i).onward := by
  obtain ⟨piece, later, pieces_rest⟩ := List.exists_cons_of_ne_nil (Line.pieces_ne_nil rest)
  simp only [positionOf, pieces, length, cut, Line.pieces_joins joins pieces_rest, pieces_rest,
    List.length_cons, Nat.add_min_add_right, Nat.min_eq_left le]
  cases later with
  | nil => simp [locate, Position.onward]
  | cons next later =>
      simp only [locate, List.length_cons, Nat.add_lt_add_iff_right, Nat.add_sub_add_right]
      split
      · simp [Position.onward]
      · simp [locate_down 0, Position.onward, Position.down]

theorem positionOf_zero (buf : Buffer) : buf.positionOf 0 = .zero := by
  cases text : buf.text with
  | nil => simp [positionOf, pieces, text, locate, Position.zero]
  | cons c rest =>
      obtain ⟨piece, later, pieces_rest⟩ := List.exists_cons_of_ne_nil (Line.pieces_ne_nil rest)
      simp only [positionOf, pieces, text, Line.pieces_cons, pieces_rest, Line.consPieces,
        Nat.zero_min]
      split
      · simp [locate, Position.zero]
      · cases later <;> simp [locate, Position.zero]

theorem positionOf_eq_stopOf (plain : Plain buf.text) {i : Nat} (le : i ≤ buf.length) :
    buf.positionOf i = Edit.stopOf .zero (buf.text.take i) := by
  induction i generalizing buf with
  | zero => simpa [Edit.stopOf] using buf.positionOf_zero
  | succ i ih =>
      cases cut : buf.text with
      | nil => simp [length, cut] at le
      | cons c rest =>
          rw [cut] at plain
          obtain ⟨plainChar, plainRest⟩ := Plain.cons_iff.1 plain
          have le : i ≤ rest.length := by simpa [length, cut] using le
          have tail : ({ text := rest } : Buffer).positionOf i =
              Edit.stopOf .zero (rest.take i) := ih plainRest le
          rw [List.take_succ_cons]
          cases breaks : Line.isBreak c with
          | true =>
              obtain rfl := plainChar breaks
              rw [Edit.stopOf_newline, positionOf_down cut (Line.not_joins_newline rest) le, tail]
          | false =>
              rw [Edit.stopOf_char (Line.ne_newline_of_isBreak breaks),
                positionOf_onward cut (.of_char breaks rest) le, tail]

/-- Where an index lies among pieces: in one of them, or at the end of the last. -/
theorem locate_spec {cut : List (List Char)} (nonempty : cut ≠ []) (line : Nat) {i : Nat}
    (le : i ≤ cut.flatten.length) :
    ∃ n col, locate line cut i = ⟨line + n, col⟩ ∧ (cut.take n).flatten.length + col = i ∧
      ∃ piece, cut[n]? = some piece ∧
        (col < piece.length ∨ cut.getLast nonempty = piece ∧ col ≤ piece.length) := by
  fun_induction locate line cut i with
  | case1 line piece next rest i lt => exact ⟨0, i, rfl, by simp, piece, rfl, .inl lt⟩
  | case2 line piece next rest i ge ih =>
      have le : i - piece.length ≤ (next :: rest).flatten.length := by
        simp only [List.flatten_cons, List.length_append] at le ⊢
        omega
      obtain ⟨n, col, place, index, other, found, inside⟩ := ih (by simp) le
      refine ⟨n + 1, col, by rw [place]; congr 1; omega, ?_, other, found, by simpa using inside⟩
      simp only [List.take_succ_cons, List.flatten_cons, List.length_append]
      omega
  | case3 line cut i last =>
      obtain ⟨piece, rest, rfl⟩ := List.exists_cons_of_ne_nil nonempty
      cases rest with
      | cons next rest => exact absurd rfl (last _ _ _)
      | nil => exact ⟨0, i, rfl, by simp, piece, rfl, .inr ⟨rfl, by simpa using le⟩⟩

/-- The position of an index lies on a line, not behind its end, and the line starts in front of the index. -/
theorem positionOf_spec {i : Nat} (le : i ≤ buf.length) :
    (buf.positionOf i).line < buf.lineCount ∧
      (buf.positionOf i).col ≤ buf.lineLength (buf.positionOf i).line ∧
        buf.lineStart (buf.positionOf i).line + (buf.positionOf i).col = i := by
  have flat : buf.pieces.flatten.length = buf.length := by simp [pieces, length]
  obtain ⟨n, col, place, index, piece, found, inside⟩ :=
    locate_spec (Line.pieces_ne_nil buf.text) 0 (flat.symm ▸ le)
  have lt : n < buf.lineCount := (List.getElem?_eq_some_iff.1 found).1
  have short : col ≤ buf.lineLength n := by
    have line : buf.lineLength n = (Line.trimBreak piece).length := by
      simp only [lineLength, Buffer.line, line?, pieces, found, Option.map_some, Option.getD_some]
    rw [line]
    rcases inside with lt | ⟨rfl, le⟩
    · unfold Line.trimBreak
      split
      · rw [List.length_dropLast]
        omega
      · omega
    · rwa [Line.trimBreak_getLast]
  have place : buf.positionOf i = ⟨n, col⟩ := by
    rw [positionOf, Nat.min_eq_left le, pieces, place, Nat.zero_add]
  rw [place]
  exact ⟨lt, short, index⟩

/-- Going from an index to its position and back changes nothing. -/
theorem index_positionOf {i : Nat} (le : i ≤ buf.length) : buf.index (buf.positionOf i) = i := by
  obtain ⟨lt, short, index⟩ := positionOf_spec le
  rw [index_of_lt lt, Nat.min_eq_left short, index]

theorem positionOf_min (buf : Buffer) (i : Nat) : buf.positionOf (min i buf.length) = buf.positionOf i := by
  unfold positionOf
  rw [Nat.min_assoc, Nat.min_self]

end Buffer

end ModalPanes
