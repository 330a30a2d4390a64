import ModalPanes.Proofs.Text.Place

/-!
# Lines put between lines

Without carriage returns every line break ends a line by itself, so the lines of a text are those on both sides
of any line feed.  Lines that are put in front of another line leave the ones around them as they are.
-/

namespace ModalPanes

namespace Line

variable {c : Char} {text : List Char} {front back cut : List (List Char)}

/-- The lines of a text, as they are shown. -/
def lines (text : List Char) : List (List Char) := (pieces text).map trimBreak

theorem pieces_break (breaks : isBreak c = true) (other : c ≠ '\r') (text : List Char) :
    pieces (c :: text) = [c] :: pieces text := by
  obtain ⟨piece, rest, cut⟩ := List.exists_cons_of_ne_nil (pieces_ne_nil text)
  rw [pieces_cons, cut]
  simp [consPieces, breaks, other]

theorem lines_append (plain : '\r' ∉ text) (rest : List Char) :
    lines (text ++ '\n' :: rest) = lines text ++ lines rest := by
  induction text with
  | nil =>
      unfold lines
      rw [List.nil_append, pieces_newline]
      rfl
  | cons c text ih =>
      obtain ⟨other, plain⟩ := not_or.1 (List.mem_cons.not.1 plain)
      have ih := ih plain
      unfold lines at ih ⊢
      rw [List.cons_append]
      cases breaks : isBreak c with
      | true =>
          rw [pieces_break breaks (Ne.symm other), pieces_break breaks (Ne.symm other), List.map_cons, ih]
          rfl
      | false =>
          obtain ⟨piece, later, cut⟩ := List.exists_cons_of_ne_nil (pieces_ne_nil text)
          obtain ⟨first, others, whole⟩ := List.exists_cons_of_ne_nil (pieces_ne_nil (text ++ '\n' :: rest))
          rw [cut, whole] at ih
          obtain ⟨same, ih⟩ := List.cons.inj ih
          have char := ne_newline_of_isBreak breaks
          rw [pieces_char breaks cut, pieces_char breaks whole, List.map_cons, List.map_cons,
            trimBreak_cons char, trimBreak_cons char, same, ih]
          rfl

theorem pieces_append (plain : '\r' ∉ text) (whole : pieces text = cut ++ [[]]) (rest : List Char) :
    pieces (text ++ rest) = cut ++ pieces rest := by
  induction text generalizing cut with
  | nil =>
      obtain rfl : cut = [] := by simpa using whole.symm
      rfl
  | cons c text ih =>
      obtain ⟨other, plain⟩ := not_or.1 (List.mem_cons.not.1 plain)
      rw [List.cons_append]
      cases breaks : isBreak c with
      | true =>
          rw [pieces_break breaks (Ne.symm other)] at whole ⊢
          cases cut with
          | nil => simp at whole
          | cons piece cut =>
              obtain ⟨rfl, others⟩ := List.cons.inj whole
              rw [ih plain others]
              rfl
      | false =>
          obtain ⟨piece, later, eq⟩ := List.exists_cons_of_ne_nil (pieces_ne_nil text)
          rw [pieces_char breaks eq] at whole
          cases cut with
          | nil => simp at whole
          | cons first cut =>
              obtain ⟨rfl, rfl⟩ := List.cons.inj whole
              have behind : pieces (text ++ rest) = (piece :: cut) ++ pieces rest := ih plain eq
              exact pieces_char breaks behind

/-- The first pieces of a text are whole lines, and the others are cut as before. -/
theorem pieces_flatten (plain : '\r' ∉ text) (parts : pieces text = front ++ back) (more : back ≠ []) :
    pieces front.flatten = front ++ [[]] ∧ pieces back.flatten = back := by
  induction text generalizing front with
  | nil =>
      cases front with
      | nil => exact ⟨rfl, by rw [List.nil_append] at parts; rw [← parts]; rfl⟩
      | cons piece front =>
          obtain ⟨-, parts⟩ := List.cons.inj parts
          exact absurd (List.append_eq_nil_iff.1 parts.symm).2 more
  | cons c text ih =>
      obtain ⟨other, plain⟩ := not_or.1 (List.mem_cons.not.1 plain)
      cases front with
      | nil =>
          rw [List.nil_append] at parts
          exact ⟨rfl, by rw [← parts, flatten_pieces]⟩
      | cons piece front =>
          cases breaks : isBreak c with
          | true =>
              rw [pieces_break breaks (Ne.symm other)] at parts
              obtain ⟨rfl, others⟩ := List.cons.inj parts
              obtain ⟨whole, rest⟩ := ih plain others
              refine ⟨?_, rest⟩
              rw [List.flatten_cons, List.singleton_append, pieces_break breaks (Ne.symm other), whole]
              rfl
          | false =>
              obtain ⟨first, later, eq⟩ := List.exists_cons_of_ne_nil (pieces_ne_nil text)
              rw [pieces_char breaks eq] at parts
              obtain ⟨rfl, rfl⟩ := List.cons.inj parts
              obtain ⟨whole, rest⟩ : pieces (first :: front).flatten = (first :: front) ++ [[]] ∧
                  pieces back.flatten = back := ih plain eq
              refine ⟨?_, rest⟩
              rw [List.flatten_cons, List.cons_append, ← List.flatten_cons]
              exact pieces_char breaks whole

theorem lines_eq_rows (plain : Plain text) : lines text = rows text := by
  induction text with
  | nil => rfl
  | cons c text ih =>
      obtain ⟨plainChar, plain⟩ := Plain.cons_iff.1 plain
      have ih := ih plain
      obtain ⟨piece, later, cut⟩ := List.exists_cons_of_ne_nil (pieces_ne_nil text)
      unfold lines at ih ⊢
      rw [rows_cons, ← ih]
      cases breaks : isBreak c with
      | true =>
          obtain rfl := plainChar breaks
          rw [pieces_newline]
          rfl
      | false =>
          have char := ne_newline_of_isBreak breaks
          rw [pieces_char breaks cut, cut, List.map_cons, List.map_cons, trimBreak_cons char]
          unfold consRow
          rw [if_neg char]

theorem trimBreak_append (text : List Char) : trimBreak (text ++ ['\n']) = text := by
  simp [trimBreak]

theorem lines_replicate (plain : '\r' ∉ text) (count : Nat) :
    ∃ body, (List.replicate (count + 1) (text ++ ['\n'])).flatten = body ++ ['\n'] ∧ '\r' ∉ body ∧
      lines body = (List.replicate (count + 1) (lines text)).flatten := by
  induction count with
  | zero => exact ⟨text, by simp, plain, by simp⟩
  | succ count ih =>
      obtain ⟨body, eq, plainBody, cut⟩ := ih
      refine ⟨text ++ '\n' :: body, ?_, by simp [plain, plainBody], ?_⟩
      · rw [List.replicate_succ, List.flatten_cons, eq]
        simp
      · rw [List.replicate_succ, List.flatten_cons, lines_append plain, cut]

end Line

namespace Buffer

variable {buf : Buffer} {body : List Char} {n : Nat}

theorem index_start (inside : n < buf.lineCount) : buf.index ⟨n, 0⟩ = (buf.pieces.take n).flatten.length := by
  rw [index_of_lt inside, Nat.zero_min, Nat.add_zero]
  rfl

/-- No line feed ends the last line, so its end is the end of the text. -/
theorem index_lastLine : buf.index ⟨buf.lastLine, buf.lineLength buf.lastLine⟩ = buf.text.length := by
  have inside : buf.lastLine < buf.lineCount := Nat.sub_lt buf.lineCount_pos Nat.one_pos
  have found : buf.pieces[buf.lastLine]? = some (buf.pieces.getLast (Line.pieces_ne_nil buf.text)) :=
    List.getLast?_eq_getElem?.symm.trans (List.getLast?_eq_some_getLast _)
  have last : buf.line buf.lastLine = buf.pieces.getLast (Line.pieces_ne_nil buf.text) := by
    unfold line line?
    rw [found]
    exact Line.trimBreak_getLast buf.text
  have front : buf.pieces.take buf.lastLine = buf.pieces.dropLast := List.dropLast_eq_take.symm
  have whole := congrArg List.flatten (List.dropLast_concat_getLast (Line.pieces_ne_nil buf.text))
  rw [List.flatten_append, List.flatten_singleton, Line.flatten_pieces] at whole
  rw [index_of_lt inside, Nat.min_self, lineStart, front, lineLength, last, ← List.length_append]
  exact congrArg List.length whole

theorem lines_insert (plain : '\r' ∉ buf.text) (inside : n < buf.lineCount) (plainBody : '\r' ∉ body) :
    (buf.insert ⟨n, 0⟩ (body ++ ['\n'])).lines = buf.lines.take n ++ Line.lines body ++ buf.lines.drop n := by
  have parts : Line.pieces buf.text = buf.pieces.take n ++ buf.pieces.drop n := (List.take_append_drop ..).symm
  have more : buf.pieces.drop n ≠ [] := by
    rw [ne_eq, List.drop_eq_nil_iff, Nat.not_le]
    exact inside
  obtain ⟨front, back⟩ := Line.pieces_flatten plain parts more
  have text : buf.text = (buf.pieces.take n).flatten ++ (buf.pieces.drop n).flatten := by
    rw [← List.flatten_append, ← parts, Line.flatten_pieces]
  have plainFront : '\r' ∉ (buf.pieces.take n).flatten := by
    rw [text] at plain
    exact fun mem => plain (List.mem_append_left _ mem)
  have inserted : (buf.insert ⟨n, 0⟩ (body ++ ['\n'])).text =
      (buf.pieces.take n).flatten ++ (body ++ '\n' :: (buf.pieces.drop n).flatten) := by
    unfold insert
    rw [if_neg (by simp), index_start inside]
    dsimp only
    rw [text, List.take_left, List.drop_left]
    simp
  have cut : (buf.insert ⟨n, 0⟩ (body ++ ['\n'])).lines =
      (buf.pieces.take n).map Line.trimBreak ++ Line.lines (body ++ '\n' :: (buf.pieces.drop n).flatten) := by
    unfold lines pieces
    rw [inserted, Line.pieces_append plainFront front, List.map_append]
    rfl
  rw [cut, Line.lines_append plainBody]
  unfold Line.lines
  rw [back, List.map_take, List.map_drop, List.append_assoc]
  rfl

theorem lines_insert_end (plain : '\r' ∉ buf.text) (body : List Char) :
    (buf.insert ⟨buf.lastLine, buf.lineLength buf.lastLine⟩ ('\n' :: body)).lines =
      buf.lines ++ Line.lines body := by
  have inserted : (buf.insert ⟨buf.lastLine, buf.lineLength buf.lastLine⟩ ('\n' :: body)).text =
      buf.text ++ '\n' :: body := by
    unfold insert
    rw [if_neg (by simp), index_lastLine]
    simp
  unfold lines pieces
  rw [inserted]
  exact Line.lines_append plain body

end Buffer

end ModalPanes
