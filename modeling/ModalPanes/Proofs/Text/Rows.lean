import ModalPanes.Proofs.Text.LineEdits

/-!
# A text made of lines

A plain text is its lines with a line feed between each two, so a change of it can be followed on the list of the lines.
A place on a line parts the text there: the lines in front and the first part of the line, and its rest with the lines
behind.
-/

namespace ModalPanes

variable {text a row : List Char} {above below lines : List (List Char)}

namespace Line

theorem rows_eq_splitOn (text : List Char) : rows text = text.splitOn '\n' := by
  unfold List.splitOn
  induction text with
  | nil => rfl
  | cons c text ih =>
      rw [List.splitOnP_cons_eq_if_modifyHead, ← ih]
      by_cases feed : c = '\n'
      · rw [feed, rows_newline, if_pos (beq_self_eq_true _)]
      · rw [rows_char feed, if_neg (by simpa using feed), List.modifyHead_eq_modify_zero]

theorem intercalate_rows (text : List Char) : ['\n'].intercalate (rows text) = text := by
  rw [rows_eq_splitOn, List.intercalate_splitOn]

theorem rows_intercalate (inLine : ∀ row ∈ lines, '\n' ∉ row) (some : lines ≠ []) :
    rows (['\n'].intercalate lines) = lines := by
  rw [rows_eq_splitOn, List.splitOn_intercalate '\n' inLine some]

theorem intercalate_cons (row : List Char) (some : lines ≠ []) :
    ['\n'].intercalate (row :: lines) = row ++ '\n' :: ['\n'].intercalate lines := by
  obtain ⟨next, below, rfl⟩ := List.exists_cons_of_ne_nil some
  rw [List.intercalate_cons_cons, List.append_assoc, List.singleton_append]

/-- The first line goes on with what is put in front of it. -/
theorem intercalate_head (a row : List Char) (below : List (List Char)) :
    ['\n'].intercalate ((a ++ row) :: below) = a ++ ['\n'].intercalate (row :: below) := by
  cases below with
  | nil => simp [List.intercalate_singleton]
  | cons next below => simp [List.intercalate_cons_cons]

theorem intercalate_part (above : List (List Char)) (a b : List Char) (below : List (List Char)) :
    ['\n'].intercalate (above ++ (a ++ b) :: below) =
      ['\n'].intercalate (above ++ [a]) ++ ['\n'].intercalate (b :: below) := by
  induction above with
  | nil => rw [List.nil_append, List.nil_append, intercalate_head, List.intercalate_singleton]
  | cons row above ih =>
      rw [List.cons_append, List.cons_append, intercalate_cons row (by simp), intercalate_cons row (by simp), ih,
        List.append_assoc, List.cons_append]

theorem intercalate_between (above : List (List Char)) (a b : List Char) (below : List (List Char)) :
    ['\n'].intercalate (above ++ a :: b :: below) =
      ['\n'].intercalate (above ++ [a]) ++ '\n' :: ['\n'].intercalate (b :: below) := by
  induction above with
  | nil => rw [List.nil_append, List.nil_append, intercalate_cons a (by simp), List.intercalate_singleton]
  | cons row above ih =>
      rw [List.cons_append, List.cons_append, intercalate_cons row (by simp), intercalate_cons row (by simp), ih,
        List.append_assoc, List.cons_append]

theorem filter_intercalate {keeps : Char → Bool} (feed : keeps '\n' = false) (lines : List (List Char)) :
    (['\n'].intercalate lines).filter keeps = lines.flatMap (·.filter keeps) := by
  induction lines with
  | nil => rfl
  | cons row below ih =>
      cases below with
      | nil => rw [List.intercalate_singleton, List.flatMap_singleton]
      | cons next below =>
          rw [intercalate_cons row (by simp), List.filter_append, List.filter_cons_of_neg (by simp [feed]), ih]
          exact List.flatMap_cons.symm

theorem plain_intercalate (unbroken : ∀ row ∈ lines, Unbroken row) : Plain (['\n'].intercalate lines) := by
  induction lines with
  | nil => nofun
  | cons row below ih =>
      obtain ⟨first, others⟩ := List.forall_mem_cons.1 unbroken
      cases below with
      | nil => simpa [List.intercalate_singleton] using first.plain
      | cons next below =>
          rw [intercalate_cons row (by simp)]
          exact Plain.append_iff.2 ⟨first.plain, Plain.cons_iff.2 ⟨fun _ => rfl, ih others⟩⟩

end Line

/-- Behind whole lines a text stops on the next one, and inside of a line behind its first part. -/
theorem Edit.stopOf_intercalate (inLine : ∀ row ∈ above, '\n' ∉ row) (here : '\n' ∉ a) :
    Edit.stopOf .zero (['\n'].intercalate (above ++ [a])) = ⟨above.length, a.length⟩ := by
  have fromLine : ∀ n, Edit.stopOf ⟨n, 0⟩ (['\n'].intercalate (above ++ [a])) = ⟨n + above.length, a.length⟩ := by
    induction above with
    | nil =>
        intro n
        rw [List.nil_append, List.intercalate_singleton, stopOf_of_notMem _ here, Nat.zero_add]
        rfl
    | cons row above ih =>
        intro n
        obtain ⟨first, others⟩ := List.forall_mem_cons.1 inLine
        rw [List.cons_append, Line.intercalate_cons row (by simp), stopOf_append, stopOf_of_notMem _ first, stopOf,
          if_pos rfl, ih others, List.length_cons]
        simp [Nat.add_comm, Nat.add_left_comm]
  have whole := fromLine 0
  rwa [Nat.zero_add] at whole

/-- A buffer whose text is made of the given lines, without a line break in any of them. -/
structure Buffer.MadeOf (buf : Buffer) (lines : List (List Char)) : Prop where
  text : buf.text = ['\n'].intercalate lines
  unbroken : ∀ row ∈ lines, Unbroken row
  some : lines ≠ []

namespace Buffer

variable {buf : Buffer} {first : Nat}

theorem lastLine_add_one (buf : Buffer) : buf.lastLine + 1 = buf.lines.length := by
  rw [length_lines, lastLine, Nat.sub_add_cancel buf.lineCount_pos]

theorem lines_eq_parts (buf : Buffer) (inside : first < buf.lines.length) (joins : Nat) :
    buf.lines = buf.lines.take first ++ buf.line first ::
      ((buf.lines.drop (first + 1)).take joins ++ buf.lines.drop (first + joins + 1)) := by
  have here : buf.line first = buf.lines[first] := by
    rw [line_eq_getD, List.getElem?_eq_getElem inside, Option.getD_some]
  have behind := List.take_append_drop joins (buf.lines.drop (first + 1))
  rw [List.drop_drop, Nat.add_right_comm] at behind
  rw [behind, here, ← List.drop_eq_getElem_cons inside, List.take_append_drop]

theorem madeOf_lines (plain : Plain buf.text) : buf.MadeOf buf.lines := by
  have rows : buf.lines = Line.rows buf.text := Line.lines_eq_rows plain
  rw [rows]
  exact ⟨(Line.intercalate_rows _).symm, Line.unbroken_rows plain, Line.rows_ne_nil _⟩

namespace MadeOf

theorem plain (made : buf.MadeOf lines) : Plain buf.text := made.text ▸ Line.plain_intercalate made.unbroken

theorem lines_eq (made : buf.MadeOf lines) : buf.lines = lines := by
  have rows : buf.lines = Line.rows buf.text := Line.lines_eq_rows made.plain
  rw [rows, made.text, Line.rows_intercalate (fun row mem => (made.unbroken row mem).inLine) made.some]

theorem line_at (made : buf.MadeOf (above ++ row :: below)) : buf.line above.length = row := by
  rw [line_eq_getD, made.lines_eq]
  simp

/-- The cursor stands on the line, no further than its last character. -/
theorem nearest_at (made : buf.MadeOf (above ++ row :: below)) (col : Nat) :
    buf.nearest false ⟨above.length, col⟩ = ⟨above.length, min col (row.length - 1)⟩ := by
  have count : (above ++ row :: below).length = buf.lineCount := by rw [← length_lines, made.lines_eq]
  have within : above.length ≤ buf.lastLine := by
    rw [List.length_append, List.length_cons] at count
    unfold lastLine
    omega
  unfold nearest lastColumn lineLength
  rw [Nat.min_eq_left within]
  dsimp only
  rw [made.line_at]
  rfl

end MadeOf

end Buffer

end ModalPanes
