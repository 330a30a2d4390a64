import ModalPanes.Pane.Edit
import ModalPanes.Proofs.Text.Cuts
import ModalPanes.Proofs.Text.Lines

/-!
# Whole lines in a plain text

Lines as a register holds them, each with a line feed at its end, are the piece of the text that the lines take up,
but for the last line, which has no line feed: there the one in front of the first line goes with them.
-/

namespace ModalPanes

namespace Line

variable {text piece : List Char}

/-- Every line but the last one ends in a line feed. -/
theorem piece_of_mem_dropLast (plain : Plain text) (mem : piece ∈ (pieces text).dropLast) :
    piece = trimBreak piece ++ ['\n'] := by
  induction text generalizing piece with
  | nil => cases mem
  | cons c text ih =>
      obtain ⟨plainChar, plainRest⟩ := Plain.cons_iff.1 plain
      obtain ⟨first, rest, cut⟩ := List.exists_cons_of_ne_nil (pieces_ne_nil text)
      cases breaks : isBreak c with
      | true =>
          obtain rfl := plainChar breaks
          rw [pieces_newline, List.dropLast_cons_of_ne_nil (pieces_ne_nil text)] at mem
          rcases List.mem_cons.1 mem with rfl | mem
          · rfl
          · exact ih plainRest mem
      | false =>
          rw [pieces_char breaks cut] at mem
          have later : ∀ piece ∈ (first :: rest).dropLast, piece = trimBreak piece ++ ['\n'] :=
            fun piece mem => ih plainRest (cut ▸ mem)
          cases rest with
          | nil => cases mem
          | cons second rest =>
              rw [List.dropLast_cons_of_ne_nil (List.cons_ne_nil _ _)] at mem later
              rcases List.mem_cons.1 mem with rfl | mem
              · rw [trimBreak_cons (ne_newline_of_isBreak breaks), List.cons_append,
                  ← later first (List.mem_cons_self ..)]
              · exact later piece (List.mem_cons_of_mem _ mem)

end Line

namespace Buffer

variable {buf : Buffer} {first last n : Nat} {front rest : List Char}

/-- Lines as a register holds them. -/
def linesText (buf : Buffer) (first last : Nat) : List Char :=
  (linesBetween first last).flatMap fun line => buf.line line ++ ['\n']

theorem linesText_ends (buf : Buffer) (le : first ≤ last) : ∃ held, buf.linesText first last = held ++ ['\n'] := by
  unfold linesText linesBetween
  rw [Nat.sub_add_comm le, List.range'_concat, List.flatMap_append, List.flatMap_singleton]
  exact ⟨_, (List.append_assoc ..).symm⟩

theorem getElem_pieces (plain : Plain buf.text) (more : n + 1 < buf.lineCount) :
    buf.pieces[n]? = some (buf.line n ++ ['\n']) := by
  have lt : n < buf.pieces.length := Nat.lt_of_succ_lt more
  have found : buf.pieces[n]? = some buf.pieces[n] := List.getElem?_eq_getElem lt
  have mem : buf.pieces[n] ∈ (Line.pieces buf.text).dropLast := by
    have short : n < (Line.pieces buf.text).dropLast.length := by
      rw [List.length_dropLast]
      exact Nat.lt_sub_of_add_lt more
    have same : (Line.pieces buf.text).dropLast[n] = buf.pieces[n] := List.getElem_dropLast ..
    exact same ▸ List.getElem_mem short
  have line : buf.line n = Line.trimBreak buf.pieces[n] := by
    unfold Buffer.line line?
    rw [found]
    rfl
  rw [found, line, ← Line.piece_of_mem_dropLast plain mem]

theorem flatMap_lines (plain : Plain buf.text) (count first : Nat) (more : first + count < buf.lineCount) :
    ((List.range' first count).flatMap fun line => buf.line line ++ ['\n']) =
      ((buf.pieces.drop first).take count).flatten := by
  induction count generalizing first with
  | zero => rfl
  | succ count ih =>
      have found := getElem_pieces plain (n := first) (by omega)
      obtain ⟨lt, here⟩ := List.getElem?_eq_some_iff.1 found
      rw [List.drop_eq_getElem_cons lt, here, List.take_succ_cons, List.flatten_cons, List.range'_succ,
        List.flatMap_cons, ih (first + 1) (by omega)]

theorem flatten_pieces_cut (buf : Buffer) (first count : Nat) :
    buf.text = (buf.pieces.take first).flatten ++ ((buf.pieces.drop first).take count).flatten ++
      (buf.pieces.drop (first + count)).flatten := by
  rw [← List.flatten_append, ← List.flatten_append, List.append_assoc, ← List.drop_drop, List.take_append_drop,
    List.take_append_drop]
  exact (Line.flatten_pieces buf.text).symm

theorem index_start_cut (inside : n < buf.lineCount) (plain : Plain buf.text) :
    Edit.stopOf .zero (buf.pieces.take n).flatten = ⟨n, 0⟩ ∧
      buf.index ⟨n, 0⟩ = (buf.pieces.take n).flatten.length := by
  have index := index_start inside
  refine ⟨?_, index⟩
  have taken : buf.text.take (buf.index ⟨n, 0⟩) = (buf.pieces.take n).flatten := by
    rw [index]
    have cut : buf.text = (buf.pieces.take n).flatten ++ (buf.pieces.drop n).flatten := by
      rw [← List.flatten_append, List.take_append_drop]
      exact (Line.flatten_pieces buf.text).symm
    rw [cut, List.take_left]
  rw [← taken]
  exact stopOf_take plain ⟨inside, Nat.zero_le _⟩

theorem cut_lines (plain : Plain buf.text) (le : first ≤ last) (more : last < buf.lastLine) :
    ∃ front rest, buf.text = front ++ buf.linesText first last ++ rest ∧
      Edit.stopOf .zero front = ⟨first, 0⟩ ∧
        Edit.stopOf .zero (front ++ buf.linesText first last) = ⟨last + 1, 0⟩ := by
  unfold lastLine at more
  have text : buf.linesText first last = ((buf.pieces.drop first).take (last + 1 - first)).flatten :=
    flatMap_lines plain _ _ (by omega)
  have joined : (buf.pieces.take first).flatten ++ buf.linesText first last =
      (buf.pieces.take (last + 1)).flatten := by
    rw [text, ← List.flatten_append, ← List.take_add, Nat.add_sub_cancel' (by omega)]
  have cut := buf.flatten_pieces_cut first (last + 1 - first)
  rw [← text] at cut
  exact ⟨_, _, cut, (index_start_cut (by omega) plain).1, joined ▸ (index_start_cut (by omega) plain).1⟩

theorem getElem_lastLine (buf : Buffer) : buf.pieces[buf.lastLine]? = some (buf.line buf.lastLine) := by
  have found : buf.pieces[buf.lastLine]? = some (buf.pieces.getLast (Line.pieces_ne_nil buf.text)) :=
    List.getLast?_eq_getElem?.symm.trans (List.getLast?_eq_some_getLast _)
  have line : buf.line buf.lastLine = buf.pieces.getLast (Line.pieces_ne_nil buf.text) := by
    unfold Buffer.line line?
    rw [found]
    exact Line.trimBreak_getLast buf.text
  rw [found, line]

theorem cut_lastLines (plain : Plain buf.text) (above : 0 < first) (inside : first ≤ buf.lastLine) :
    ∃ front body, buf.text = front ++ '\n' :: body ∧ buf.linesText first buf.lastLine = body ++ ['\n'] ∧
      Edit.stopOf .zero front = ⟨first - 1, buf.lineLength (first - 1)⟩ := by
  have count := buf.lineCount_pos
  have whole : buf.lastLine + 1 = buf.lineCount := Nat.sub_add_cancel count
  obtain ⟨last, lastPiece⟩ := List.getElem?_eq_some_iff.1 buf.getElem_lastLine
  obtain ⟨lt, piece⟩ := List.getElem?_eq_some_iff.1 (getElem_pieces plain (n := first - 1) (by omega))
  have front : (buf.pieces.take first).flatten =
      (buf.pieces.take (first - 1)).flatten ++ buf.line (first - 1) ++ ['\n'] := by
    have taken := List.take_append_getElem lt
    rw [Nat.sub_add_cancel above] at taken
    rw [← taken, piece, List.flatten_append, List.flatten_singleton, List.append_assoc]
  have rest : (buf.pieces.drop (first + (buf.lastLine - first))).flatten = buf.line buf.lastLine := by
    rw [Nat.add_sub_cancel' inside, List.drop_eq_getElem_cons last, lastPiece,
      List.drop_of_length_le (Nat.le_of_eq whole.symm), List.flatten_singleton]
  have cut := buf.flatten_pieces_cut first (buf.lastLine - first)
  rw [front, rest, List.append_assoc, List.append_assoc, List.singleton_append] at cut
  refine ⟨_, _, cut, ?_, ?_⟩
  · unfold linesText linesBetween
    rw [Nat.sub_add_comm inside, List.range'_concat, List.flatMap_append, List.flatMap_singleton, Nat.one_mul,
      Nat.add_sub_cancel' inside, flatMap_lines plain _ _ (by omega), List.append_assoc]
  · have admits : buf.Admits true ⟨first - 1, buf.lineLength (first - 1)⟩ := ⟨by
      show first - 1 < buf.lineCount
      omega, Nat.le_refl _⟩
    have index : buf.index ⟨first - 1, buf.lineLength (first - 1)⟩ =
        ((buf.pieces.take (first - 1)).flatten ++ buf.line (first - 1)).length := by
      rw [index_of_lt admits.1, Nat.min_self, List.length_append]
      rfl
    have stop := stopOf_take plain admits
    rwa [index, cut, List.take_left] at stop

end Buffer

end ModalPanes
