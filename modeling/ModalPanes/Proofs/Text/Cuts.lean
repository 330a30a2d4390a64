import ModalPanes.Proofs.Text.Standing

/-!
# Plain texts cut in two

A place in a plain text is a cut of the text: the position is where the part in front stops, and what is left of
its line is the part behind up to the first line feed.  So the length of a line, the number of lines and the place
of a cursor can be read off the two parts.
-/

namespace ModalPanes

/-- What is left of a line, in front of the rest of a text. -/
def restOfLine (rest : List Char) : List Char := rest.takeWhile (· ≠ '\n')

variable {c : Char} {text front rest : List Char}

@[simp] theorem restOfLine_nil : restOfLine [] = [] := rfl

@[simp] theorem restOfLine_newline (rest : List Char) : restOfLine ('\n' :: rest) = [] := rfl

theorem restOfLine_char (other : c ≠ '\n') (rest : List Char) :
    restOfLine (c :: rest) = c :: restOfLine rest := by
  unfold restOfLine
  rw [List.takeWhile_cons_of_pos (by simpa using other)]

theorem Plain.between {middle : List Char} (plain : Plain (front ++ rest)) (plainMiddle : Plain middle) :
    Plain (front ++ middle ++ rest) := by
  obtain ⟨plainFront, plainRest⟩ := Plain.append_iff.1 plain
  exact Plain.append_iff.2 ⟨Plain.append_iff.2 ⟨plainFront, plainMiddle⟩, plainRest⟩

/-- A plain text stays plain without a part of it. -/
theorem Plain.without {middle : List Char} (plain : Plain (front ++ middle ++ rest)) : Plain (front ++ rest) := by
  obtain ⟨plainFront, plainRest⟩ := Plain.append_iff.1 plain
  exact Plain.append_iff.2 ⟨(Plain.append_iff.1 plainFront).1, plainRest⟩

namespace Edit

theorem stopOf_line (start : Position) (text : List Char) :
    (stopOf start text).line = start.line + text.count '\n' := by
  induction text generalizing start with
  | nil => rfl
  | cons c text ih =>
      unfold stopOf
      rw [ih]
      by_cases breaks : c = '\n'
      · simp [breaks, Nat.add_comm, Nat.add_left_comm]
      · simp [breaks]

theorem stopOf_of_notMem (start : Position) (inLine : '\n' ∉ text) :
    stopOf start text = ⟨start.line, start.col + text.length⟩ := by
  induction text generalizing start with
  | nil => rfl
  | cons c text ih =>
      obtain ⟨other, inLine⟩ := not_or.1 (List.mem_cons.not.1 inLine)
      unfold stopOf
      rw [if_neg (Ne.symm other), ih _ inLine, List.length_cons]
      simp [Nat.add_comm, Nat.add_left_comm]

theorem stopOf_newline_end (start : Position) (text : List Char) :
    stopOf start (text ++ ['\n']) = ⟨(stopOf start text).line + 1, 0⟩ := by
  rw [stopOf_append]
  rfl

theorem stopOf_char_end (start : Position) (text : List Char) (other : c ≠ '\n') :
    stopOf start (text ++ [c]) = ⟨(stopOf start text).line, (stopOf start text).col + 1⟩ := by
  rw [stopOf_append, stopOf_of_notMem _ (by simpa using Ne.symm other)]
  rfl

end Edit

namespace Buffer

variable {buf : Buffer} {pastEnd : Bool} {pos : Position}

instance (buf : Buffer) (pastEnd : Bool) (pos : Position) : Decidable (buf.Admits pastEnd pos) :=
  inferInstanceAs (Decidable (pos.line < buf.lineCount ∧ pos.col ≤ buf.lastColumn pastEnd pos.line))

theorem lineCount_plain (plain : Plain buf.text) : buf.lineCount = buf.text.count '\n' + 1 := by
  generalize whole : buf.text = text at plain
  induction text generalizing buf with
  | nil =>
      unfold lineCount pieces
      rw [whole]
      rfl
  | cons c text ih =>
      obtain ⟨plainChar, plain⟩ := Plain.cons_iff.1 plain
      have rest : ({ text := text } : Buffer).lineCount = text.count '\n' + 1 := ih rfl plain
      cases breaks : Line.isBreak c with
      | true =>
          obtain rfl := plainChar breaks
          rw [lineCount_newline whole, rest, List.count_cons_self]
      | false =>
          have other := Line.ne_newline_of_isBreak breaks
          rw [lineCount_char whole breaks, rest, List.count_cons_of_ne other]

theorem nearest_of_admits (admits : buf.Admits pastEnd pos) : buf.nearest pastEnd pos = pos := by
  obtain ⟨line, col⟩ := pos
  obtain ⟨lt, le⟩ := admits
  have line : min line buf.lastLine = line := by
    unfold lastLine
    dsimp only at lt
    omega
  unfold nearest
  dsimp only at le ⊢
  rw [line, Nat.min_eq_left le]

section Cut

variable (plain : Plain buf.text) (cut : buf.text = front ++ rest)
include plain cut

/-- A line is as long as its part in front of a place and its part behind it. -/
theorem lineLength_stopOf :
    buf.lineLength (Edit.stopOf .zero front).line =
      (Edit.stopOf .zero front).col + (restOfLine rest).length := by
  induction front generalizing buf with
  | nil =>
      change buf.lineLength 0 = 0 + _
      rw [Nat.zero_add]
      rw [List.nil_append] at cut
      induction rest generalizing buf with
      | nil =>
          unfold lineLength line line? pieces
          rw [cut]
          rfl
      | cons c rest ih =>
          rw [cut] at plain
          obtain ⟨plainChar, plain⟩ := Plain.cons_iff.1 plain
          cases breaks : Line.isBreak c with
          | true =>
              obtain rfl := plainChar breaks
              unfold lineLength line line? pieces
              rw [cut, Line.pieces_newline]
              rfl
          | false =>
              have tail : ({ text := rest } : Buffer).lineLength 0 = (restOfLine rest).length := ih plain rfl
              rw [lineLength_char_zero cut breaks, tail,
                restOfLine_char (Line.ne_newline_of_isBreak breaks), List.length_cons]
  | cons c front ih =>
      rw [cut, List.cons_append] at plain
      rw [List.cons_append] at cut
      obtain ⟨plainChar, plain⟩ := Plain.cons_iff.1 plain
      have tail : ({ text := front ++ rest } : Buffer).lineLength (Edit.stopOf .zero front).line =
          (Edit.stopOf .zero front).col + (restOfLine rest).length := ih plain rfl
      cases breaks : Line.isBreak c with
      | true =>
          obtain rfl := plainChar breaks
          rw [Edit.stopOf_newline]
          exact (lineLength_newline cut _).trans tail
      | false =>
          rw [Edit.stopOf_char (Line.ne_newline_of_isBreak breaks)]
          generalize Edit.stopOf .zero front = stop at tail ⊢
          obtain ⟨line, col⟩ := stop
          cases line with
          | zero =>
              have longer := lineLength_char_zero cut breaks
              unfold Position.onward
              simp only [if_true] at tail ⊢
              omega
          | succ line => exact (lineLength_char_succ cut breaks line).trans tail

theorem stopOf_line_lt : (Edit.stopOf .zero front).line < buf.lineCount := by
  rw [lineCount_plain plain, Edit.stopOf_line, cut, List.count_append,
    show Position.zero.line = 0 from rfl]
  omega

theorem admits_stopOf : buf.Admits true (Edit.stopOf .zero front) := by
  refine ⟨stopOf_line_lt plain cut, ?_⟩
  change _ ≤ buf.lineLength _
  rw [lineLength_stopOf plain cut]
  exact Nat.le_add_right ..

theorem nearest_stopOf : buf.nearest true (Edit.stopOf .zero front) = Edit.stopOf .zero front :=
  nearest_of_admits (admits_stopOf plain cut)

theorem positionOf_length : buf.positionOf front.length = Edit.stopOf .zero front := by
  have within : front.length ≤ buf.length := by
    rw [length, cut, List.length_append]
    exact Nat.le_add_right ..
  rw [positionOf_eq_stopOf plain within, cut, List.take_left]

/-- A place is on the last line if no line feed comes behind it. -/
theorem stopOf_lastLine_iff : (Edit.stopOf .zero front).line = buf.lastLine ↔ '\n' ∉ rest := by
  unfold lastLine
  rw [lineCount_plain plain, Edit.stopOf_line, cut, List.count_append, ← List.count_eq_zero,
    show Position.zero.line = 0 from rfl]
  omega

end Cut

theorem stopOf_text (plain : Plain buf.text) :
    Edit.stopOf .zero buf.text = ⟨buf.lastLine, buf.lineLength buf.lastLine⟩ := by
  have cut := (List.append_nil buf.text).symm
  have last := (stopOf_lastLine_iff plain cut).2 List.not_mem_nil
  have length := lineLength_stopOf plain cut
  rw [restOfLine_nil, List.length_nil, Nat.add_zero, last] at length
  rw [length, ← last]

theorem lineLength_zero (plain : Plain buf.text) : buf.lineLength 0 = (restOfLine buf.text).length := by
  have first := lineLength_stopOf plain (List.nil_append buf.text).symm
  rwa [show (Edit.stopOf .zero []).col = 0 from rfl, Nat.zero_add] at first

/-- Where a cursor may stand, the text in front stops. -/
theorem stopOf_take (plain : Plain buf.text) (admits : buf.Admits true pos) :
    Edit.stopOf .zero (buf.text.take (buf.index pos)) = pos := by
  obtain ⟨line, col⟩ := pos
  obtain ⟨lt, le⟩ : line < buf.lineCount ∧ col ≤ buf.lineLength line := admits
  have start : line = 0 → col = 0 →
      Edit.stopOf .zero (buf.text.take (buf.index ⟨line, col⟩)) = ⟨line, col⟩ := by
    rintro rfl rfl
    rw [index_of_lt buf.lineCount_pos, Nat.zero_min]
    rfl
  have first := lineLength_zero plain
  generalize whole : buf.text = text at plain first start
  induction text generalizing buf line col with
  | nil =>
      have one : buf.lineCount = buf.text.count '\n' + 1 := lineCount_plain (by rwa [whole])
      rw [whole] at one
      obtain rfl : line = 0 := by simpa [one] using lt
      exact start rfl (by simpa [first] using le)
  | cons c text ih =>
      obtain ⟨plainChar, plain⟩ := Plain.cons_iff.1 plain
      have below : ∀ {line col : Nat}, line < ({ text := text } : Buffer).lineCount →
          col ≤ ({ text := text } : Buffer).lineLength line →
            Edit.stopOf .zero (text.take (({ text := text } : Buffer).index ⟨line, col⟩)) = ⟨line, col⟩ := by
        intro line col lt le
        refine ih line col lt le rfl plain (lineLength_zero plain) ?_
        rintro rfl rfl
        rw [index_of_lt (lineCount_pos _), Nat.zero_min]
        rfl
      cases breaks : Line.isBreak c with
      | true =>
          obtain rfl := plainChar breaks
          cases line with
          | zero => exact start rfl (by simpa [first] using le)
          | succ line =>
              rw [lineCount_newline whole, Nat.succ_lt_succ_iff] at lt
              rw [lineLength_newline whole] at le
              rw [show (⟨line + 1, col⟩ : Position) = Position.down ⟨line, col⟩ from rfl, index_down whole,
                List.take_succ_cons, Edit.stopOf_newline, below lt le]
      | false =>
          rw [lineCount_char whole breaks] at lt
          have step : ∀ pos : Position, pos.line < ({ text := text } : Buffer).lineCount →
              pos.col ≤ ({ text := text } : Buffer).lineLength pos.line →
                Edit.stopOf .zero ((c :: text).take (buf.index pos.onward)) = pos.onward := by
            intro pos lt le
            rw [index_onward whole breaks, List.take_succ_cons,
              Edit.stopOf_char (Line.ne_newline_of_isBreak breaks), below lt le]
          cases line with
          | succ line =>
              have later := step ⟨line + 1, col⟩ lt (lineLength_char_succ whole breaks line ▸ le)
              rwa [show Position.onward ⟨line + 1, col⟩ = ⟨line + 1, col⟩ by simp [Position.onward]] at later
          | zero =>
              cases col with
              | zero => exact start rfl rfl
              | succ col =>
                  rw [lineLength_char_zero whole breaks, Nat.succ_le_succ_iff] at le
                  exact step ⟨0, col⟩ lt le

/-- Where a cursor may stand, the text is cut in two. -/
theorem exists_cut (plain : Plain buf.text) (admits : buf.Admits true pos) :
    ∃ front rest, buf.text = front ++ rest ∧ Edit.stopOf .zero front = pos :=
  ⟨_, _, (List.take_append_drop (buf.index pos) buf.text).symm, stopOf_take plain admits⟩

/-- An index and a place where a cursor may stand are two names of one place. -/
theorem positionOf_index_of_admits (plain : Plain buf.text) (admits : buf.Admits true pos) :
    buf.positionOf (buf.index pos) = pos := by
  rw [positionOf_eq_stopOf plain (buf.index_le_length pos), stopOf_take plain admits]

end Buffer

end ModalPanes
