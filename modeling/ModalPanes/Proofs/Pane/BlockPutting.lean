import ModalPanes.Proofs.Pane.Putting
import ModalPanes.Proofs.Text.LineEdits
import Mathlib.Data.List.DropRight

/-!
# A block is put row by row

Each row of a block goes into one line: a missing line is added at the end, a short one is filled up to the column,
and what stood behind the column follows the copies of the row.  Where nothing follows, all spaces at the end are
left out, those of the row itself included.
-/

namespace ModalPanes

namespace Pane

variable {pane : Pane} {key : Key} {reg : Register} {after : Bool} {col width count line : Nat}
variable {row written text : List Char} {rows : List (List Char)} {buf next : Buffer}

/-- What putting a row writes into a line: its copies, each filled up to the width of the block, without the spaces
at their end where the line ends in front of the column. -/
def writtenRow (col width count : Nat) (row text : List Char) : List Char :=
  if text.length ≤ col then (repeatText count (padRight width row)).rdropWhile (· == ' ')
  else repeatText count (padRight width row)

/-- A line into which a row was put. -/
def withRow (col width count : Nat) (row text : List Char) : List Char :=
  padRight col (text.take col) ++ writtenRow col width count row text ++ text.drop col

/-- All copies of a row with the padding between them; of the padding behind the last one some may be missing. -/
def CompleteCopies (width count : Nat) (row written : List Char) : Prop :=
  ∃ padding ≤ width - row.length,
    written = repeatText (count - 1) (padRight width row) ++ row ++ List.replicate padding ' '

section Written

theorem unbroken_repeatText (unbroken : Unbroken text) (count : Nat) : Unbroken (repeatText count text) := by
  intro c mem
  obtain ⟨copy, copyMem, charMem⟩ := List.mem_flatten.1 mem
  exact unbroken c (List.eq_of_mem_replicate copyMem ▸ charMem)

theorem unbroken_padRight (unbroken : Unbroken text) (width : Nat) : Unbroken (padRight width text) :=
  unbroken.append (.replicate (by decide) _)

theorem unbroken_writtenRow (unbroken : Unbroken row) (col width count : Nat) (text : List Char) :
    Unbroken (writtenRow col width count row text) := by
  have copies := unbroken_repeatText (unbroken_padRight unbroken width) count
  unfold writtenRow
  split
  · exact copies.subset (List.rdropWhile_prefix _ _).subset
  · exact copies

/-- Text put in at a column that a line reaches, or is filled up to. -/
theorem putInto_padRight (col : Nat) (written text : List Char) :
    putInto col written (padRight col text) = padRight col (text.take col) ++ written ++ text.drop col := by
  by_cases short : text.length ≤ col
  · have filled : (padRight col text).length ≤ col := by
      unfold padRight
      rw [List.length_append, List.length_replicate]
      omega
    rw [putInto_of_le filled, List.take_of_length_le short, List.drop_of_length_le short, List.append_nil]
  · have cut : (text.take col).length = col := List.length_take_of_le (Nat.le_of_not_le short)
    have none : col - text.length = 0 := by omega
    unfold padRight
    rw [none, cut, Nat.sub_self, List.replicate_zero, List.append_nil, List.append_nil]
    rfl

section Filled

variable (plain : Plain buf.text) (inside : line < buf.lineCount) (col : Nat)
include plain inside

/-- A line is filled up with spaces. -/
theorem changesLines_padded :
    Buffer.ChangesLines [line] (padRight col) buf
      (buf.insert ⟨line, buf.lineLength line⟩ (List.replicate (col - buf.lineLength line) ' ')) := by
  have atEnd : buf.Admits true ⟨line, buf.lineLength line⟩ := ⟨inside, Nat.le_refl _⟩
  have spaces : Unbroken (List.replicate (col - buf.lineLength line) ' ') := .replicate (by decide) _
  refine (Buffer.changesLines_insert plain atEnd spaces).congr fun n mem => ?_
  obtain rfl := List.mem_singleton.1 mem
  exact putInto_of_le (Nat.le_refl (buf.line n).length) _

/-- A line that is filled up reaches the column. -/
theorem admits_padded :
    (buf.insert ⟨line, buf.lineLength line⟩ (List.replicate (col - buf.lineLength line) ' ')).Admits true
      ⟨line, col⟩ := by
  have padded := changesLines_padded plain inside col
  refine ⟨padded.lineCount ▸ inside, ?_⟩
  change col ≤ (Buffer.line _ line).length
  rw [padded.line, if_pos (List.mem_singleton_self _), padRight, List.length_append, List.length_replicate]
  omega

theorem changesLines_filled (unbroken : Unbroken text) :
    Buffer.ChangesLines [line] (fun old => putInto col text (padRight col old)) buf
      ((buf.insert ⟨line, buf.lineLength line⟩ (List.replicate (col - buf.lineLength line) ' ')).insert
        ⟨line, col⟩ text) := by
  have padded := changesLines_padded plain inside col
  exact padded.comp (Buffer.changesLines_insert padded.plain (admits_padded plain inside col) unbroken)

end Filled

theorem rdropWhile_spaces (text : List Char) (count : Nat) :
    (text ++ List.replicate count ' ').rdropWhile (· == ' ') = text.rdropWhile (· == ' ') := by
  unfold List.rdropWhile
  rw [List.reverse_append, List.reverse_replicate, List.dropWhile_append_of_pos]
  intro c mem
  rw [List.eq_of_mem_replicate mem]
  rfl

/-- Nothing but spaces is left out, and nothing where text follows. -/
theorem writtenRow_spaces (col width count : Nat) (row text : List Char) :
    ∃ missing, writtenRow col width count row text ++ List.replicate missing ' ' =
      repeatText count (padRight width row) ∧ (col < text.length → missing = 0) := by
  unfold writtenRow
  split
  · rename_i ends
    generalize repeatText count (padRight width row) = copies
    refine ⟨(copies.rtakeWhile (· == ' ')).length, ?_, fun goesOn => absurd ends (Nat.not_le.2 goesOn)⟩
    have spaces : copies.rtakeWhile (· == ' ') = List.replicate (copies.rtakeWhile (· == ' ')).length ' ' :=
      List.eq_replicate_of_mem fun c mem => by simpa using List.mem_rtakeWhile_imp mem
    rw [← spaces, List.rdropWhile_append_rtakeWhile]
  · exact ⟨0, List.append_nil _, fun _ => rfl⟩

/-- A text that ends in no space is left as it is, and only such a text. -/
theorem rdropWhile_eq_iff (text : List Char) (count : Nat) :
    text.rdropWhile (· == ' ') = text ++ List.replicate count ' ' ↔
      count = 0 ∧ text.getLast? ≠ some ' ' := by
  have stays : text.rdropWhile (· == ' ') = text ↔ text.getLast? ≠ some ' ' := by
    rw [List.rdropWhile_eq_self_iff]
    cases text with
    | nil => simp
    | cons c text => simp [List.getLast?_eq_some_getLast]
  constructor
  · intro eq
    have shorter := (List.rdropWhile_prefix (p := (· == ' ')) (l := text)).length_le
    rw [eq, List.length_append, List.length_replicate] at shorter
    obtain rfl : count = 0 := by omega
    exact ⟨rfl, stays.1 (eq.trans (List.append_nil text))⟩
  · rintro ⟨rfl, ends⟩
    exact (stays.2 ends).trans (List.append_nil text).symm

/-- Copies of a row end as the row does, unless it is empty. -/
theorem getLast?_copies (less width : Nat) (row : List Char) :
    (repeatText less (padRight width row) ++ row).getLast? ≠ some ' ' ↔
      row.getLast? ≠ some ' ' ∧ (row ≠ [] ∨ less = 0 ∨ width = 0) := by
  rcases List.eq_nil_or_concat' row with rfl | ⟨front, last, rfl⟩
  · have spaces : repeatText less (padRight width []) = List.replicate (less * width) ' ' :=
      List.flatten_replicate_replicate
    rw [spaces, List.append_nil, List.getLast?_replicate]
    by_cases none : less * width = 0
    · rw [if_pos none]
      exact iff_of_true nofun ⟨nofun, .inr (Nat.mul_eq_zero.1 none)⟩
    · rw [if_neg none]
      refine iff_of_false (fun other => other rfl) fun ⟨_, empty⟩ => ?_
      exact none (Nat.mul_eq_zero.2 (empty.resolve_left fun filled => filled rfl))
  · simp

/-- Where text follows, nothing is left out; at the end of a line a row that ends in a space loses it, and of several
copies of an empty row no space is left. -/
theorem completeCopies_writtenRow (positive : 1 ≤ count) :
    CompleteCopies width count row (writtenRow col width count row text) ↔
      col < text.length ∨ row.getLast? ≠ some ' ' ∧ (row ≠ [] ∨ count ≤ 1 ∨ width = 0) := by
  obtain ⟨less, rfl⟩ : ∃ less, count = less + 1 := ⟨count - 1, by omega⟩
  have copies : repeatText (less + 1) (padRight width row) =
      repeatText less (padRight width row) ++ row ++ List.replicate (width - row.length) ' ' := by
    unfold repeatText
    rw [List.replicate_succ', List.flatten_append, List.flatten_singleton, List.append_assoc]
    rfl
  unfold writtenRow CompleteCopies
  rw [Nat.add_sub_cancel, copies]
  split
  · rename_i ends
    rw [rdropWhile_spaces, or_iff_right (Nat.not_lt.2 ends), show less + 1 ≤ 1 ↔ less = 0 by omega,
      ← getLast?_copies]
    constructor
    · rintro ⟨padding, -, eq⟩
      exact ((rdropWhile_eq_iff _ _).1 eq).2
    · intro last
      exact ⟨0, Nat.zero_le _, (rdropWhile_eq_iff _ 0).2 ⟨rfl, last⟩⟩
  · rename_i goesOn
    exact iff_of_true ⟨_, Nat.le_refl _, rfl⟩ (.inl (Nat.not_le.1 goesOn))

end Written

section Rows

theorem buffer_putRow (pane : Pane) (col width count line : Nat) (row : List Char) :
    (pane.putRow col width count line row).buffer =
      let last := pane.buffer.lastLine
      let buf :=
        if pane.buffer.lineCount ≤ line then pane.buffer.insert ⟨last, pane.buffer.lineLength last⟩ ['\n']
        else pane.buffer
      (buf.insert ⟨line, buf.lineLength line⟩ (List.replicate (col - buf.lineLength line) ' ')).insert ⟨line, col⟩
        (writtenRow col width count row (buf.line line)) := by
  unfold putRow
  dsimp only
  rw [buffer_insertText, buffer_insertText, apply_ite Pane.buffer, buffer_insertText]
  rfl

/-- A buffer with the rows of a block put into its lines, from one of them on. -/
structure PutsRows (col width count line : Nat) (rows : List (List Char)) (buf next : Buffer) : Prop where
  plain : Plain next.text
  lineCount : next.lineCount = max buf.lineCount (line + rows.length)
  row : ∀ {i : Nat} {row : List Char}, rows[i]? = some row →
    next.line (line + i) = withRow col width count row (buf.line (line + i))
  other : ∀ {n : Nat}, n < line ∨ line + rows.length ≤ n → next.line n = buf.line n

/-- One row changes one line, which is added if it is missing. -/
theorem putsRows_putRow (col width count : Nat) (plain : Plain pane.buffer.text) (unbroken : Unbroken row)
    (le : line ≤ pane.buffer.lineCount) :
    PutsRows col width count line [row] pane.buffer (pane.putRow col width count line row).buffer := by
  rw [buffer_putRow]
  generalize pane.buffer = buf at plain le ⊢
  obtain ⟨base, isBase, plainBase, lines, same⟩ : ∃ base : Buffer,
      base = (if buf.lineCount ≤ line then
        buf.insert ⟨buf.lastLine, buf.lineLength buf.lastLine⟩ ['\n'] else buf) ∧
      Plain base.text ∧ base.lineCount = max buf.lineCount (line + 1) ∧ ∀ n, base.line n = buf.line n := by
    refine ⟨_, rfl, ?_⟩
    split
    · refine ⟨Buffer.plain_insert plain (by decide) _, ?_, Buffer.line_insert_newline plain⟩
      rw [Buffer.lineCount_insert_newline plain]
      omega
    · exact ⟨plain, by omega, fun _ => rfl⟩
  dsimp only
  rw [← isBase]
  have written := unbroken_writtenRow unbroken col width count (base.line line)
  have filled := changesLines_filled plainBase (by omega : line < base.lineCount) col written
  refine ⟨filled.plain, filled.lineCount.trans lines, ?_, ?_⟩
  · intro i other found
    obtain ⟨rfl, rfl⟩ : i = 0 ∧ other = row := by
      cases i with
      | zero => exact ⟨rfl, (Option.some.inj found).symm⟩
      | succ i => contradiction
    rw [Nat.add_zero, filled.line, if_pos (List.mem_singleton_self _), putInto_padRight, same]
    rfl
  · intro n outside
    have other : n ∉ [line] := by
      rw [List.length_singleton] at outside
      rw [List.mem_singleton]
      omega
    rw [filled.line, if_neg other, same]

theorem putsRows_putRows (pane : Pane) (col width count : Nat) (plain : Plain pane.buffer.text)
    (unbroken : ∀ row ∈ rows, Unbroken row) (le : line ≤ pane.buffer.lineCount) :
    PutsRows col width count line rows pane.buffer (putRows col width count pane line rows).buffer := by
  induction rows generalizing pane line with
  | nil => exact ⟨plain, (Nat.max_eq_left le).symm, nofun, fun _ => rfl⟩
  | cons row rows ih =>
      obtain ⟨unbrokenRow, unbroken⟩ := List.forall_mem_cons.1 unbroken
      have first := putsRows_putRow col width count plain unbrokenRow le
      have within : line + 1 ≤ (pane.putRow col width count line row).buffer.lineCount := by
        rw [first.lineCount]
        exact Nat.le_max_right ..
      have others := ih _ first.plain unbroken within
      refine ⟨others.plain, ?_, ?_, ?_⟩
      · rw [putRows, others.lineCount, first.lineCount, List.length_singleton, List.length_cons]
        omega
      · intro i other found
        cases i with
        | zero =>
            obtain rfl := Option.some.inj found
            have changed := first.row (List.getElem?_cons_zero : [row][0]? = some row)
            exact (others.other (.inl (Nat.lt_succ_self line))).trans changed
        | succ i =>
            have below := others.row found
            rw [putRows, show line + (i + 1) = line + 1 + i by omega, below, first.other (.inr ?_)]
            rw [List.length_singleton]
            exact Nat.le_add_right ..
      · intro n outside
        rw [List.length_cons] at outside
        rw [putRows, others.other (by omega), first.other (by rw [List.length_singleton]; omega)]

/-- Nothing but spaces may be missing in a line behind the copies of its row. -/
theorem PutsRows.copies (puts : PutsRows col width count line rows buf next) (positive : 1 ≤ count) {i : Nat}
    (found : rows[i]? = some row) :
    ∃ written missing,
      next.line (line + i) =
        padRight col ((buf.line (line + i)).take col) ++ written ++ (buf.line (line + i)).drop col ∧
      written ++ List.replicate missing ' ' = repeatText count (padRight width row) ∧
      (col < (buf.line (line + i)).length → missing = 0) ∧
      (CompleteCopies width count row written ↔ col < (buf.line (line + i)).length ∨
        row.getLast? ≠ some ' ' ∧ (row ≠ [] ∨ count ≤ 1 ∨ width = 0)) := by
  obtain ⟨missing, whole, none⟩ := writtenRow_spaces col width count row (buf.line (line + i))
  exact ⟨_, missing, puts.row found, whole, none, completeCopies_writtenRow positive⟩

end Rows

section Keys

/-- A register without text has one empty row, and putting it changes nothing. -/
theorem putsRows_empty (empty : reg.isEmpty = true) (count : Nat) (plain : Plain buf.text)
    (inside : line < buf.lineCount) (le : col ≤ buf.lineLength line) :
    PutsRows col (blockWidth reg.rows) count line reg.rows buf buf := by
  have noText : reg.text = [] := List.isEmpty_iff.1 empty
  have noRow : reg.rows = [[]] := by
    unfold Register.rows
    rw [noText]
    split <;> rfl
  rw [noRow]
  refine ⟨plain, (Nat.max_eq_left inside).symm, ?_, fun _ => rfl⟩
  intro i row found
  obtain ⟨rfl, rfl⟩ : i = 0 ∧ row = [] := by
    cases i with
    | zero => exact ⟨rfl, (Option.some.inj found).symm⟩
    | succ i => contradiction
  have nothing : writtenRow col (blockWidth [[]]) count [] (buf.line line) = [] := by
    have copies : repeatText count (padRight (blockWidth [[]]) []) = [] := by
      unfold repeatText
      simp [padRight, blockWidth]
    unfold writtenRow
    rw [copies]
    split <;> rfl
  have cut : ((buf.line line).take col).length = col := List.length_take_of_le le
  unfold withRow padRight
  rw [Nat.add_zero, nothing, cut, Nat.sub_self, List.replicate_zero, List.append_nil, List.append_nil,
    List.take_append_drop]

theorem putColumn_le (admits : pane.buffer.Admits false pane.cursor.pos) (after : Bool) :
    pane.putColumn after ≤ pane.buffer.lineLength pane.cursor.pos.line := by
  have within : pane.cursor.pos.col ≤ pane.buffer.lineLength pane.cursor.pos.line - 1 := admits.2
  unfold putColumn
  dsimp only
  split
  · rename_i behind
    simp only [Bool.and_eq_true, decide_eq_true_eq] at behind
    omega
  · omega

theorem putsRows_put (pane : Pane) (read : pane.registers.get pane.register = reg) (block : reg.kind = .block)
    (short : putSize reg * max count 1 ≤ longestRepeat) (plain : Plain pane.buffer.text) (plainReg : Plain reg.text)
    (admits : pane.buffer.Admits false pane.cursor.pos) (after : Bool) :
    PutsRows (pane.putColumn after) (blockWidth reg.rows) (max count 1) pane.cursor.pos.line reg.rows
      pane.buffer (pane.put after count).buffer := by
  unfold put
  dsimp only
  rw [read]
  split
  · rename_i empty
    exact putsRows_empty empty _ plain admits.1 (putColumn_le admits after)
  · rw [if_neg (Nat.not_lt.2 short), block]
    have unbroken : ∀ row ∈ reg.rows, Unbroken row := by
      unfold Register.rows
      rw [block, if_neg nofun]
      exact Line.unbroken_rows plainReg
    exact putsRows_putRows { pane with register := none } _ _ _ plain unbroken (Nat.le_of_lt admits.1)

/-- A block is put row by row: the lines of the cursor and below get one row each, missing ones are added, and a line
that ends in front of the column is filled up with spaces.  In each of them the copies of its row follow the text left
of the column and come in front of the text right of it; only spaces at their end may be missing, and only if no text
follows.  So all copies are complete, but for padding behind the last, unless no text follows and the row ends in a
space or is empty. -/
theorem puts_block (takes : pane.TakesCommands) (rests : pane.pending = none)
    (found : Keymap.findOrMotion? Keymap.normal key = some (if after then .putAfter else .putBefore))
    (read : pane.registers.get pane.register = reg) (block : reg.kind = .block)
    (times : max (pane.count.getD 1) 1 = count) (short : putSize reg * count ≤ longestRepeat)
    (plain : Plain pane.buffer.text) (plainReg : Plain reg.text)
    (admits : pane.buffer.Admits false pane.cursor.pos)
    (starts : pane.cursor.pos.line = line) (column : pane.putColumn after = col)
    (wide : blockWidth reg.rows = width) :
    ∃ next, Handles pane [key] next ∧
      next.buffer.lineCount = max pane.buffer.lineCount (line + reg.rows.length) ∧
      (∀ n, n < line ∨ line + reg.rows.length ≤ n → next.buffer.line n = pane.buffer.line n) ∧
      ∀ i row, reg.rows[i]? = some row →
        let text := pane.buffer.line (line + i)
        ∃ written missing,
          next.buffer.line (line + i) = padRight col (text.take col) ++ written ++ text.drop col ∧
          written ++ List.replicate missing ' ' = repeatText count (padRight width row) ∧
          (col < text.length → missing = 0) ∧
          (CompleteCopies width count row written ↔
            col < text.length ∨ row.getLast? ≠ some ' ' ∧ (row ≠ [] ∨ count ≤ 1 ∨ width = 0)) := by
  have digit := Keymap.countDigit?_of_findOrMotion? found (by cases after <;> nofun)
  have handed := dispatchWith_command (takes.record key) rests (digit _) found (by cases after <;> nofun)
  have puts : PutsRows col width count line reg.rows pane.buffer
      ((pane.record key).runNormal (if after then .putAfter else .putBefore)).settle.buffer := by
    have put := putsRows_put (pane.record key).takeCount.2 read block (times.symm ▸ short) plain plainReg admits after
    rw [times] at put
    obtain ⟨recorder, view, eq, -⟩ := settle_eq ((pane.record key).takeCount.2.put after (pane.count.getD 1))
    rw [runNormal_put, show (pane.record key).count = pane.count from rfl, eq]
    subst starts column wide
    exact ⟨put.plain, put.lineCount, put.row, put.other⟩
  refine ⟨_, .one handed, puts.lineCount, fun _ => puts.other, fun i row found => ?_⟩
  exact puts.copies (times ▸ Nat.le_max_right ..) found

/-- Two rows of different widths, twice, from the last line of a text on. -/
theorem puts_block_beyond_end :
    let pane := typedInto "ab\nc\nde".toList
      [.char 'l', .ctrl 'v', .char 'j', .char 'y', .char 'G', .char '2']
    ∃ next, Handles pane [.char 'p'] next ∧ next.buffer.lineCount = 4 ∧ next.buffer.line 1 = ['c'] ∧
      next.buffer.line 2 = "dababe".toList ∧
      ∃ written, next.buffer.line 3 = ' ' :: written ∧ CompleteCopies 2 2 ['c'] written := by
  intro pane
  have takes : pane.TakesCommands := ⟨by decide +kernel, by decide +kernel⟩
  have found : Keymap.findOrMotion? Keymap.normal (.char 'p') =
      some (if true then .putAfter else .putBefore) := rfl
  have read : pane.registers.get pane.register = ⟨"ab\nc".toList, .block⟩ := by decide +kernel
  have times : max (pane.count.getD 1) 1 = 2 := by decide +kernel
  have starts : pane.cursor.pos.line = 2 := by decide +kernel
  have column : pane.putColumn true = 1 := by decide +kernel
  obtain ⟨next, handles, lines, others, rows⟩ := puts_block takes (by decide +kernel) found read rfl times
    (by decide +kernel) (by decide +kernel) (by decide +kernel) (by decide +kernel) starts column rfl
  obtain ⟨first, missing, line, whole, none, -⟩ := rows 0 "ab".toList rfl
  obtain ⟨second, -, added, -, -, complete⟩ := rows 1 ['c'] rfl
  have goesOn : pane.buffer.line 2 = "de".toList := by decide +kernel
  have noLine : pane.buffer.line 3 = [] := by decide +kernel
  refine ⟨next, handles, lines.trans (by decide +kernel), (others 1 (by decide)).trans (by decide +kernel), ?_,
    second, ?_, ?_⟩
  · rw [goesOn] at line none
    rw [none (by decide), List.replicate_zero, List.append_nil] at whole
    rw [line, whole]
    rfl
  · rw [added, noLine]
    exact List.append_nil _
  · exact complete.2 (.inr ⟨by decide, .inl (by decide)⟩)

/-- The space that ends a row is lost at the end of a line. -/
theorem puts_block_without_blank :
    let pane := typedInto "a b".toList [.ctrl 'v', .char 'l', .char 'y', .char '$']
    pane.registers.get pane.register = ⟨"a ".toList, .block⟩ ∧ pane.putColumn true = 3 ∧
      (pane.handleKeys [.char 'p']).buffer.text = "a ba".toList ∧
      ∀ written, CompleteCopies 2 1 "a ".toList written → "a ba".toList ≠ "a b".toList ++ written := by
  intro pane
  refine ⟨by decide +kernel, by decide +kernel, by decide +kernel, ?_⟩
  rintro written ⟨padding, -, rfl⟩ same
  replace same := congrArg List.length same
  rw [List.length_append, List.length_append] at same
  have ends : (4 : Nat) = 3 + (2 + (List.replicate padding ' ').length) := same
  omega

end Keys

end Pane

end ModalPanes
