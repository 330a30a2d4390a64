import ModalPanes.Proofs.Text.Cuts
import ModalPanes.Proofs.Text.Lines

/-!
# Text put into a line

Text without a line feed that is put into a plain text changes the one line that it goes into.  The rows of a text
are followed character by character up to the place: a line feed in front of it leaves the first row alone, and any
other character belongs to the first row, which is the changed one only as long as no line feed comes.
-/

namespace ModalPanes

variable {c : Char} {buf : Buffer} {text middle : List Char} {pos : Position} {n col : Nat}

/-- A text without any line break. -/
def Unbroken (text : List Char) : Prop := ∀ c ∈ text, Line.isBreak c = false

instance (text : List Char) : Decidable (Unbroken text) :=
  List.decidableBAll (fun c => Line.isBreak c = false) text

namespace Unbroken

theorem plain (unbroken : Unbroken text) : Plain text :=
  fun c mem breaks => absurd breaks (by rw [unbroken c mem]; nofun)

theorem inLine (unbroken : Unbroken text) : '\n' ∉ text := fun mem => absurd (unbroken _ mem) (by decide)

theorem append (front : Unbroken text) (rest : Unbroken middle) : Unbroken (text ++ middle) :=
  List.forall_mem_append.2 ⟨front, rest⟩

theorem subset (unbroken : Unbroken text) (part : middle ⊆ text) : Unbroken middle :=
  fun c mem => unbroken c (part mem)

theorem replicate (unbroken : Line.isBreak c = false) (count : Nat) : Unbroken (List.replicate count c) :=
  fun _ mem => List.eq_of_mem_replicate mem ▸ unbroken

end Unbroken

def putInto (col : Nat) (text line : List Char) : List Char := line.take col ++ text ++ line.drop col

theorem putInto_of_le {line : List Char} (le : line.length ≤ col) (text : List Char) :
    putInto col text line = line ++ text := by
  unfold putInto
  rw [List.take_of_length_le le, List.drop_of_length_le le, List.append_nil]

namespace Line

theorem rows_ne_nil (text : List Char) : rows text ≠ [] := by
  cases text with
  | nil => nofun
  | cons c text =>
      rw [rows_cons]
      unfold consRow
      split
      · nofun
      · split <;> nofun

theorem rows_newline (text : List Char) : rows ('\n' :: text) = [] :: rows text := rfl

/-- A character that is no line feed belongs to the first row. -/
theorem rows_char (other : c ≠ '\n') (text : List Char) : rows (c :: text) = (rows text).modify 0 (c :: ·) := by
  obtain ⟨row, rest, cut⟩ := List.exists_cons_of_ne_nil (rows_ne_nil text)
  rw [rows_cons, cut]
  unfold consRow
  rw [if_neg other]
  rfl

theorem rows_append_inLine (inLine : '\n' ∉ middle) (rest : List Char) :
    rows (middle ++ rest) = (rows rest).modify 0 (middle ++ ·) := by
  induction middle with
  | nil =>
      rw [List.nil_append, show (([] : List Char) ++ ·) = id from rfl, List.modify_id]
  | cons c middle ih =>
      obtain ⟨other, inLine⟩ := not_or.1 (List.mem_cons.not.1 inLine)
      rw [List.cons_append, rows_char (Ne.symm other), ih inLine, List.modify_modify_eq]
      rfl

/-- Text without a line feed goes into the row in which the text in front of it stops. -/
theorem rows_insert (inLine : '\n' ∉ middle) (front rest : List Char) :
    rows (front ++ (middle ++ rest)) =
      (rows (front ++ rest)).modify (Edit.stopOf .zero front).line
        (putInto (Edit.stopOf .zero front).col middle) := by
  induction front with
  | nil => exact rows_append_inLine inLine rest
  | cons c front ih =>
      rw [List.cons_append, List.cons_append]
      by_cases breaks : c = '\n'
      · rw [breaks, Edit.stopOf_newline, rows_newline, rows_newline, ih]
        rfl
      · rw [Edit.stopOf_char breaks, rows_char breaks, rows_char breaks, ih]
        generalize Edit.stopOf .zero front = stop
        obtain ⟨line, col⟩ := stop
        obtain ⟨row, later, cut⟩ := List.exists_cons_of_ne_nil (rows_ne_nil (front ++ rest))
        rw [cut]
        cases line with
        | zero => rfl
        | succ line => rfl

/-- The rows of a plain text hold no line break. -/
theorem unbroken_rows (plain : Plain text) : ∀ row ∈ rows text, Unbroken row := by
  induction text with
  | nil =>
      intro row mem
      obtain rfl := List.mem_singleton.1 mem
      nofun
  | cons c text ih =>
      obtain ⟨plainChar, plain⟩ := Plain.cons_iff.1 plain
      obtain ⟨row, rest, cut⟩ := List.exists_cons_of_ne_nil (rows_ne_nil text)
      have unbroken := ih plain
      by_cases breaks : c = '\n'
      · rw [breaks, rows_newline]
        exact List.forall_mem_cons.2 ⟨nofun, unbroken⟩
      · rw [cut] at unbroken
        rw [rows_char breaks, cut]
        obtain ⟨first, others⟩ := List.forall_mem_cons.1 unbroken
        have char : isBreak c = false := Bool.eq_false_iff.2 fun isBreak => breaks (plainChar isBreak)
        exact List.forall_mem_cons.2 ⟨List.forall_mem_cons.2 ⟨char, first⟩, others⟩

end Line

namespace Buffer

theorem getElem?_lines (buf : Buffer) (n : Nat) : buf.lines[n]? = buf.line? n := List.getElem?_map ..

theorem length_lines (buf : Buffer) : buf.lines.length = buf.lineCount := List.length_map ..

theorem line_eq_getD (buf : Buffer) (n : Nat) : buf.line n = buf.lines[n]?.getD [] := by
  rw [getElem?_lines]
  rfl

theorem getElem?_lines_of_lt (inside : n < buf.lineCount) : buf.lines[n]? = some (buf.line n) := by
  rw [← length_lines] at inside
  rw [line_eq_getD, List.getElem?_eq_getElem inside]
  rfl

/-- Lines are read off the text alone. -/
theorem line_congr {other : Buffer} (same : buf.text = other.text) (n : Nat) : buf.line n = other.line n :=
  congrArg (fun text => ((Line.pieces text)[n]?.map Line.trimBreak).getD []) same

theorem plain_insert (plain : Plain buf.text) (plainText : Plain text) (pos : Position) :
    Plain (buf.insert pos text).text := by
  unfold insert
  split
  · exact plain
  · exact Plain.append_iff.2 ⟨Plain.append_iff.2 ⟨plain.take _, plainText⟩, plain.drop _⟩

theorem lines_insert_inLine (plain : Plain buf.text) (admits : buf.Admits true pos) (unbroken : Unbroken text) :
    (buf.insert pos text).lines = buf.lines.modify pos.line (putInto pos.col text) := by
  obtain ⟨front, rest, cut, rfl⟩ := exists_cut plain admits
  have inserted : (buf.insert (Edit.stopOf .zero front) text).text = front ++ (text ++ rest) := by
    unfold insert
    split
    · rename_i empty
      rw [List.isEmpty_iff.1 empty]
      exact cut
    · rw [index_stopOf plain cut, cut]
      simp
  have whole : ∀ {buf : Buffer}, Plain buf.text → buf.lines = Line.rows buf.text := Line.lines_eq_rows
  rw [whole (plain_insert plain unbroken.plain _), whole plain, inserted, cut]
  exact Line.rows_insert unbroken.inLine front rest

/-- Some lines of a plain text are changed, and the others are as they were. -/
structure ChangesLines (lines : List Nat) (change : List Char → List Char) (buf next : Buffer) : Prop where
  plain : Plain next.text
  lineCount : next.lineCount = buf.lineCount
  line (n : Nat) : next.line n = if n ∈ lines then change (buf.line n) else buf.line n

/-- Text without a line break is put into its line. -/
theorem changesLines_insert (plain : Plain buf.text) (admits : buf.Admits true pos) (unbroken : Unbroken text) :
    ChangesLines [pos.line] (putInto pos.col text) buf (buf.insert pos text) := by
  have lines := lines_insert_inLine plain admits unbroken
  refine ⟨plain_insert plain unbroken.plain pos, ?_, fun n => ?_⟩
  · rw [← length_lines, lines, List.length_modify, length_lines]
  · have changed : (buf.insert pos text).lines[n]? =
        (if pos.line = n then putInto pos.col text else id) <$> buf.lines[n]? := by
      rw [lines, List.getElem?_modify]
      split <;> rfl
    rw [line_eq_getD, changed]
    by_cases same : n = pos.line
    · rw [same, getElem?_lines_of_lt admits.1, if_pos rfl, if_pos (List.mem_singleton_self _)]
      rfl
    · rw [if_neg (Ne.symm same), id_map, if_neg (by simpa using same), line_eq_getD]

namespace ChangesLines

variable {mid next : Buffer} {lines more : List Nat} {change again : List Char → List Char}

theorem refl (plain : Plain buf.text) (stays : ∀ n ∈ lines, change (buf.line n) = buf.line n) :
    ChangesLines lines change buf buf := by
  refine ⟨plain, rfl, fun n => ?_⟩
  split
  · rename_i mem
    exact (stays n mem).symm
  · rfl

theorem of_text (changes : ChangesLines lines change buf mid) (same : next.text = mid.text) :
    ChangesLines lines change buf next where
  plain := same ▸ changes.plain
  lineCount := (congrArg (fun text => (Line.pieces text).length) same).trans changes.lineCount
  line n := (line_congr same n).trans (changes.line n)

theorem congr (changes : ChangesLines lines change buf next)
    (same : ∀ n ∈ lines, change (buf.line n) = again (buf.line n)) : ChangesLines lines again buf next := by
  refine ⟨changes.plain, changes.lineCount, fun n => ?_⟩
  rw [changes.line]
  split
  · rename_i mem
    exact same n mem
  · rfl

theorem comp (first : ChangesLines lines change buf mid) (second : ChangesLines lines again mid next) :
    ChangesLines lines (again ∘ change) buf next := by
  refine ⟨second.plain, second.lineCount.trans first.lineCount, fun n => ?_⟩
  rw [second.line, first.line]
  split <;> rfl

theorem append (first : ChangesLines lines change buf mid) (second : ChangesLines more change mid next)
    (apart : ∀ n ∈ lines, n ∉ more) : ChangesLines (lines ++ more) change buf next := by
  refine ⟨second.plain, second.lineCount.trans first.lineCount, fun n => ?_⟩
  rw [second.line, first.line]
  by_cases mem : n ∈ lines
  · rw [if_neg (apart n mem), if_pos mem, if_pos (List.mem_append_left _ mem)]
  · simp [mem]

end ChangesLines

/-- A line feed at the end of the text adds an empty line. -/
theorem lineCount_insert_newline (plain : Plain buf.text) :
    (buf.insert ⟨buf.lastLine, buf.lineLength buf.lastLine⟩ ['\n']).lineCount = buf.lineCount + 1 := by
  have noReturn : '\r' ∉ buf.text := fun mem => absurd (plain _ mem) (by decide)
  rw [← length_lines, lines_insert_end noReturn, List.length_append, length_lines]
  rfl

theorem line_insert_newline (plain : Plain buf.text) (n : Nat) :
    (buf.insert ⟨buf.lastLine, buf.lineLength buf.lastLine⟩ ['\n']).line n = buf.line n := by
  have noReturn : '\r' ∉ buf.text := fun mem => absurd (plain _ mem) (by decide)
  rw [line_eq_getD, lines_insert_end noReturn, line_eq_getD]
  by_cases inside : n < buf.lines.length
  · rw [List.getElem?_append_left inside]
  · rw [List.getElem?_append_right (Nat.le_of_not_lt inside), List.getElem?_eq_none (Nat.le_of_not_lt inside)]
    cases n - buf.lines.length <;> rfl

end Buffer

end ModalPanes
