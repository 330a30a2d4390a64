import ModalPanes.Proofs.Text.Place

/-!
# The character at a position

Whatever breaks its lines, a text has the same character at a position as at the index of that position, and a
position with a character is the one of its index.  A later index lies at a later position.
-/

namespace ModalPanes

namespace Line

theorem exists_trimBreak_append (piece : List Char) :
    ∃ rest, piece = trimBreak piece ++ rest ∧ ∀ c ∈ rest, c = '\n' := by
  unfold trimBreak
  split
  · rename_i breaks
    obtain ⟨front, rfl⟩ := List.getLast?_eq_some_iff.1 breaks
    exact ⟨['\n'], by rw [List.dropLast_concat], by simp⟩
  · exact ⟨[], by simp, by simp⟩

theorem getElem?_of_trimBreak {piece : List Char} {col : Nat} {c : Char} (here : (trimBreak piece)[col]? = some c) :
    piece[col]? = some c := by
  obtain ⟨rest, eq, -⟩ := exists_trimBreak_append piece
  rw [eq, List.getElem?_append_left (List.getElem?_eq_some_iff.1 here).1, here]

theorem getElem?_trimBreak {piece : List Char} {col : Nat} {c : Char} (here : piece[col]? = some c)
    (other : c ≠ '\n') : (trimBreak piece)[col]? = some c := by
  obtain ⟨rest, eq, breaks⟩ := exists_trimBreak_append piece
  rw [eq] at here
  rcases Nat.lt_or_ge col (trimBreak piece).length with inside | behind
  · rwa [List.getElem?_append_left inside] at here
  · rw [List.getElem?_append_right behind] at here
    exact absurd (breaks c (List.mem_of_getElem? here)) other

theorem exists_piece {cut : List (List Char)} {i : Nat} (inside : i < cut.flatten.length) :
    ∃ n col piece, cut[n]? = some piece ∧ col < piece.length ∧ (cut.take n).flatten.length + col = i := by
  induction cut generalizing i with
  | nil => exact absurd inside (Nat.not_lt_zero i)
  | cons first rest ih =>
      rcases Nat.lt_or_ge i first.length with here | behind
      · exact ⟨0, i, first, rfl, here, Nat.zero_add i⟩
      · rw [List.flatten_cons, List.length_append] at inside
        obtain ⟨n, col, piece, found, within, index⟩ := ih (i := i - first.length) (by omega)
        refine ⟨n + 1, col, piece, found, within, ?_⟩
        rw [List.take_succ_cons, List.flatten_cons, List.length_append]
        omega

theorem getElem?_flatten {cut : List (List Char)} {n col : Nat} {piece : List Char} (found : cut[n]? = some piece)
    (inside : col < piece.length) : cut.flatten[(cut.take n).flatten.length + col]? = piece[col]? := by
  obtain ⟨lt, rfl⟩ := List.getElem?_eq_some_iff.1 found
  have parts : cut.flatten = (cut.take n).flatten ++ (cut[n] ++ (cut.drop (n + 1)).flatten) := by
    rw [← List.flatten_cons, ← List.drop_eq_getElem_cons lt, ← List.flatten_append, List.take_append_drop]
  rw [parts, List.getElem?_append_right (Nat.le_add_right ..), Nat.add_sub_cancel_left,
    List.getElem?_append_left inside]

end Line

namespace Buffer

variable {buf : Buffer} {pos : Position} {c : Char} {i j : Nat}

/-- An index in a piece, or behind the end of the last one, lies on the line of that piece. -/
theorem locate_of_piece {cut : List (List Char)} {n col : Nat} {piece : List Char} (found : cut[n]? = some piece)
    (inside : col < piece.length ∨ n + 1 = cut.length) (line : Nat) :
    locate line cut ((cut.take n).flatten.length + col) = ⟨line + n, col⟩ := by
  induction n generalizing cut line with
  | zero =>
      obtain ⟨rest, rfl⟩ : ∃ rest, cut = piece :: rest := by
        cases cut with
        | nil => cases found
        | cons first rest => exact ⟨rest, by rw [Option.some.inj found]⟩
      cases rest with
      | nil => simp [locate]
      | cons next rest => simp [locate, inside.resolve_right (by simp)]
  | succ n ih =>
      cases cut with
      | nil => cases found
      | cons first rest =>
          cases rest with
          | nil => simp at found
          | cons next rest =>
              have later := ih (by simpa using found) (by simpa using inside) (line + 1)
              have behind : (List.take (n + 1) (first :: next :: rest)).flatten.length + col =
                  first.length + ((List.take n (next :: rest)).flatten.length + col) := by
                simp [Nat.add_assoc]
              rw [behind, locate, if_neg (by omega), Nat.add_sub_cancel_left, later, Nat.add_assoc,
                Nat.add_comm 1]

theorem locate_flatten {cut : List (List Char)} {n col : Nat} {piece : List Char} (found : cut[n]? = some piece)
    (inside : col < piece.length) (line : Nat) :
    locate line cut ((cut.take n).flatten.length + col) = ⟨line + n, col⟩ :=
  locate_of_piece found (.inl inside) line

theorem charAt?_eq_some_iff :
    buf.charAt? pos = some c ↔
      ∃ piece, buf.pieces[pos.line]? = some piece ∧ (Line.trimBreak piece)[pos.col]? = some c := by
  unfold charAt? line line?
  cases buf.pieces[pos.line]? <;> simp

section Standing

variable (here : buf.charAt? pos = some c)
include here

theorem index_of_charAt? : buf.index pos = buf.lineStart pos.line + pos.col := by
  obtain ⟨piece, found, char⟩ := charAt?_eq_some_iff.1 here
  have lt : pos.line < buf.lineCount := (List.getElem?_eq_some_iff.1 found).1
  have inside : pos.col < buf.lineLength pos.line := by
    simpa [lineLength, line, line?, found] using (List.getElem?_eq_some_iff.1 char).1
  rw [index_of_lt lt, Nat.min_eq_left (Nat.le_of_lt inside)]

theorem getElem?_index : buf.text[buf.index pos]? = some c := by
  obtain ⟨piece, found, char⟩ := charAt?_eq_some_iff.1 here
  have char := Line.getElem?_of_trimBreak char
  have flat : buf.pieces.flatten = buf.text := Line.flatten_pieces buf.text
  rw [index_of_charAt? here, ← char, ← Line.getElem?_flatten found (List.getElem?_eq_some_iff.1 char).1, flat]
  rfl

theorem positionOf_index : buf.positionOf (buf.index pos) = pos := by
  obtain ⟨piece, found, char⟩ := charAt?_eq_some_iff.1 here
  have inside := (List.getElem?_eq_some_iff.1 (Line.getElem?_of_trimBreak char)).1
  rw [positionOf, Nat.min_eq_left (buf.index_le_length pos), index_of_charAt? here, lineStart,
    locate_flatten found inside 0, Nat.zero_add]

end Standing

/-- A character that is no line feed stands at the position of its index. -/
theorem charAt?_positionOf (here : buf.text[i]? = some c) (other : c ≠ '\n') :
    buf.charAt? (buf.positionOf i) = some c := by
  have flat : buf.pieces.flatten = buf.text := Line.flatten_pieces buf.text
  have inside : i < buf.pieces.flatten.length := flat ▸ (List.getElem?_eq_some_iff.1 here).1
  obtain ⟨n, col, piece, found, within, rfl⟩ := Line.exists_piece inside
  have char := Line.getElem?_flatten found within
  rw [flat, here] at char
  have place : buf.positionOf ((buf.pieces.take n).flatten.length + col) = ⟨0 + n, col⟩ := by
    have le : (buf.pieces.take n).flatten.length + col ≤ buf.length := by
      rw [flat] at inside
      exact Nat.le_of_lt inside
    rw [positionOf, Nat.min_eq_left le, locate_flatten found within]
  rw [place, Nat.zero_add]
  exact charAt?_eq_some_iff.2 ⟨piece, found, Line.getElem?_trimBreak char.symm other⟩

theorem line_le_locate (line : Nat) (cut : List (List Char)) (i : Nat) : line ≤ (locate line cut i).line := by
  fun_induction locate line cut i with
  | case1 => exact Nat.le_refl _
  | case2 line piece next rest i ge ih => exact Nat.le_of_succ_le ih
  | case3 => exact Nat.le_refl _

theorem locate_mono (line : Nat) (cut : List (List Char)) (le : i ≤ j) :
    locate line cut i ≤ locate line cut j := by
  fun_induction locate line cut i generalizing j with
  | case1 line piece next rest i lt =>
      rw [locate]
      split
      · exact .inr ⟨rfl, le⟩
      · exact .inl (line_le_locate ..)
  | case2 line piece next rest i ge ih =>
      rw [locate, if_neg (by omega)]
      exact ih (by omega)
  | case3 line cut i last =>
      unfold locate
      split
      · exact absurd rfl (last _ _ _)
      · exact .inr ⟨rfl, le⟩

theorem positionOf_mono (le : i ≤ j) : buf.positionOf i ≤ buf.positionOf j :=
  locate_mono 0 buf.pieces (by omega)

end Buffer

end ModalPanes
