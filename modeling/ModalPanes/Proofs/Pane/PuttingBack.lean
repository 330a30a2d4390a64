import ModalPanes.Proofs.History.Tracking
import ModalPanes.Proofs.Pane.Counting
import ModalPanes.Proofs.Pane.ObjectSelecting
import ModalPanes.Proofs.Pane.Putting
import ModalPanes.Proofs.Pane.Recording
import ModalPanes.Proofs.Text.WholeLines

/-!
# Putting back what was deleted

Deleting cuts a piece out of the text, and the cursor stands next to the cut: on the character behind it, on the
line below, or, where there is nothing behind, on the last character or line in front.  Putting at that side
inserts the piece at the cut again.  A register of lines ends in a line feed also where the text does not; then the
one in front of the lines is missing, and the two are exchanged.

A piece of more bytes than a command may write is not put, and the text stays as it is without it.
-/

namespace ModalPanes

namespace Buffer

variable {buf : Buffer} {range : Range} {front gone rest : List Char} {first last : Nat}

theorem erase_cut (cut : buf.text = front ++ gone ++ rest) (start : buf.index range.start = front.length)
    (stop : buf.index range.stop = (front ++ gone).length) : (buf.erase range).text = front ++ rest := by
  unfold erase
  dsimp only
  rw [start, stop]
  split
  · rename_i le
    rw [List.length_append] at le
    have none : gone = [] := List.length_eq_zero_iff.1 (by omega)
    rw [cut, none, List.append_nil]
  · rw [cut, List.drop_left, List.append_assoc, List.take_left]

theorem cut_slice (plain : Plain buf.text) (admits : buf.Admits true range.start) (some : buf.slice range ≠ []) :
    ∃ front rest, buf.text = front ++ buf.slice range ++ rest ∧ (buf.erase range).text = front ++ rest ∧
      Edit.stopOf .zero front = range.start := by
  have le := Nat.le_of_lt (slice_ne_nil_iff.1 some)
  have inside := buf.index_le_length range.stop
  have cut : buf.text = buf.text.take (buf.index range.start) ++ buf.slice range ++
      buf.text.drop (buf.index range.stop) := cut_between buf.text le
  refine ⟨_, _, cut, erase_cut cut ?_ ?_, stopOf_take plain admits⟩
  · rw [List.length_take]
    exact (Nat.min_eq_left (Nat.le_trans le inside)).symm
  · unfold slice
    unfold length at inside
    rw [List.length_append, List.length_take, List.length_drop, List.length_take]
    omega

theorem between_of_le {a b : Position} (le : a ≤ b) : Range.between a b = ⟨a, b⟩ := if_pos le

theorem erase_lines (plain : Plain buf.text) (le : first ≤ last) (more : last < buf.lastLine) :
    ∃ front rest, buf.text = front ++ buf.linesText first last ++ rest ∧
      (buf.erase (Pane.wholeLines buf first last)).text = front ++ rest ∧ Edit.stopOf .zero front = ⟨first, 0⟩ := by
  obtain ⟨front, rest, cut, start, stop⟩ := cut_lines plain le more
  have ordered : (⟨first, 0⟩ : Position) ≤ ⟨last + 1, 0⟩ := by
    rw [Position.le_def]
    dsimp only
    omega
  have range : Pane.wholeLines buf first last = ⟨⟨first, 0⟩, ⟨last + 1, 0⟩⟩ := by
    unfold Pane.wholeLines
    rw [if_pos more, between_of_le ordered]
  refine ⟨front, rest, cut, ?_, start⟩
  rw [range, ← start, ← stop]
  exact erase_cut cut (index_stopOf plain (cut.trans (List.append_assoc ..))) (index_stopOf plain cut)

theorem erase_lastLines (plain : Plain buf.text) (above : 0 < first) (inside : first ≤ buf.lastLine) :
    ∃ front body, buf.text = front ++ '\n' :: body ∧ buf.linesText first buf.lastLine = body ++ ['\n'] ∧
      (buf.erase (Pane.wholeLines buf first buf.lastLine)).text = front ∧ front.count '\n' = first - 1 := by
  obtain ⟨front, body, cut, held, start⟩ := cut_lastLines plain above inside
  have ordered : (⟨first - 1, buf.lineLength (first - 1)⟩ : Position) ≤
      ⟨buf.lastLine, buf.lineLength buf.lastLine⟩ := by
    rw [Position.le_def]
    dsimp only
    omega
  have range : Pane.wholeLines buf first buf.lastLine =
      ⟨⟨first - 1, buf.lineLength (first - 1)⟩, ⟨buf.lastLine, buf.lineLength buf.lastLine⟩⟩ := by
    unfold Pane.wholeLines
    rw [if_neg (Nat.lt_irrefl _), if_pos above, between_of_le ordered]
  have cut' : buf.text = front ++ '\n' :: body ++ [] := cut.trans (List.append_nil _).symm
  refine ⟨front, body, cut, held, ?_, ?_⟩
  · rw [range, ← start]
    refine (erase_cut cut' (index_stopOf plain cut) ?_).trans (List.append_nil _)
    exact index_lastLine.trans (congrArg List.length cut)
  · have line := Edit.stopOf_line .zero front
    rw [start, show Position.zero.line = 0 from rfl, Nat.zero_add] at line
    exact line.symm

end Buffer

namespace Pane

variable {b origin pane next : Pane} {range : Range} {span : Span} {key : Key} {keys : List Key}
  {kind : RegisterKind} {held body : List Char}

theorem repeatText_one (text : List Char) : repeatText 1 text = text := by
  unfold repeatText
  rw [List.replicate_one, List.flatten_singleton]

theorem of_line_ends (text : List Char) : Register.of .line (text ++ ['\n']) = ⟨text ++ ['\n'], .line⟩ := by
  simp [Register.of, Register.terminated]

theorem buffer_putChars (pane : Pane) (reg : Register) (after : Bool) (count : Nat) :
    (pane.putChars reg after count).buffer =
      pane.buffer.insert (pane.cursor.pos.withCol (pane.putColumn after)) (repeatText count reg.text) := by
  unfold putChars
  dsimp only
  rw [buffer_reportMore]
  split <;> exact buffer_insertText _ _ _

/-- Putting once what is not too long, and nothing else. -/
theorem put_once (read : pane.registers.get pane.register = ⟨held, kind⟩) (some : held ≠ []) (square : kind ≠ .block)
    (after : Bool) :
    (pane.put after 1).buffer =
      if byteLength held ≤ longestRepeat then
        if kind = .line then (putLines { pane with register := none } ⟨held, kind⟩ after 1).buffer
        else (putChars { pane with register := none } ⟨held, kind⟩ after 1).buffer
      else pane.buffer := by
  have more : (⟨held, kind⟩ : Register).isEmpty = false := by
    unfold Register.isEmpty
    rwa [← Bool.not_eq_true, List.isEmpty_iff]
  have size : putSize ⟨held, kind⟩ = byteLength held := by
    cases kind <;> first | rfl | exact absurd rfl square
  unfold put
  dsimp only
  rw [read, more, size, Nat.max_self, Nat.mul_one]
  by_cases fits : byteLength held ≤ longestRepeat
  · rw [if_pos fits, if_neg (Nat.not_lt.2 fits)]
    cases kind <;> first | rfl | exact absurd rfl square
  · rw [if_neg fits, if_pos (Nat.not_le.1 fits)]
    rfl

theorem put_chars_once (read : pane.registers.get pane.register = ⟨held, .char⟩) (some : held ≠ []) (after : Bool) :
    (pane.put after 1).buffer =
      if byteLength held ≤ longestRepeat then
        pane.buffer.insert (pane.cursor.pos.withCol (pane.putColumn after)) held
      else pane.buffer := by
  have other : RegisterKind.char ≠ .line := by decide
  rw [put_once read some (by decide), if_neg other, buffer_putChars, repeatText_one]
  rfl

theorem put_lines_once (read : pane.registers.get pane.register = ⟨held, .line⟩) (some : held ≠ []) (after : Bool) :
    (pane.put after 1).buffer =
      if byteLength held ≤ longestRepeat then
        (putLines { pane with register := none } ⟨held, .line⟩ after 1).buffer
      else pane.buffer := by
  rw [put_once read some (by decide), if_pos rfl]

/-- What a register gets when a span is deleted. -/
def heldText (buf : Buffer) (span : Span) : List Char :=
  if span.linewise then buf.linesText span.firstLine span.lastLine else buf.slice span.range

/-- Characters of the text, at least one, or lines of it, not all. -/
def Removable (buf : Buffer) (span : Span) : Prop :=
  if span.linewise then
    span.firstLine ≤ span.lastLine ∧ span.lastLine < buf.lineCount ∧
      (0 < span.firstLine ∨ span.lastLine < buf.lastLine)
  else buf.Admits true span.range.start ∧ buf.slice span.range ≠ []

instance (buf : Buffer) (span : Span) : Decidable (Removable buf span) :=
  inferInstanceAs (Decidable (if span.linewise then
    span.firstLine ≤ span.lastLine ∧ span.lastLine < buf.lineCount ∧
      (0 < span.firstLine ∨ span.lastLine < buf.lastLine)
  else buf.Admits true span.range.start ∧ buf.slice span.range ≠ []))

/-- The side at which a span has to be put back: behind the cursor if lines were the last ones, or if the cursor
had to leave the place of characters for the one in front. -/
def behindCut (buf : Buffer) (span : Span) (cursor : Position) : Bool :=
  if span.linewise then buf.lastLine ≤ span.lastLine else cursor.col ≠ span.range.start.col

/-- Next to where the cursor can stand, characters go to where it was to be. -/
theorem spot_of_nearest (pane : Pane) {buf : Buffer} (pos : Position) (here : pane.buffer = buf)
    (stands : pane.cursor.pos = buf.nearest false pos) (admits : buf.Admits true pos) :
    pane.cursor.pos.withCol (pane.putColumn (pane.cursor.pos.col ≠ pos.col)) = pos := by
  obtain ⟨line, col⟩ := pos
  obtain ⟨lt, le⟩ : line < buf.lineCount ∧ col ≤ buf.lineLength line := admits
  have inLine : min line buf.lastLine = line := by
    unfold Buffer.lastLine
    omega
  have place : buf.nearest false ⟨line, col⟩ = ⟨line, min col (buf.lineLength line - 1)⟩ := by
    unfold Buffer.nearest
    rw [inLine]
    rfl
  unfold putColumn
  rw [here, stands, place]
  dsimp only
  unfold Position.withCol
  by_cases stays : min col (buf.lineLength line - 1) = col
  · simp [stays]
  · have some : 0 < buf.lineLength line := by omega
    have last : min col (buf.lineLength line - 1) + 1 = col := by omega
    simp [stays, some, last]

section PutBack

variable (plain : Plain origin.buffer.text) (unnamed : origin.register = none)
include plain unnamed

theorem put_back_chars (admits : origin.buffer.Admits true range.start) (some : origin.buffer.slice range ≠ []) :
    ((origin.operate .delete (.chars range)).put
        ((origin.operate .delete (.chars range)).cursor.pos.col ≠ range.start.col) 1).buffer.text =
      if byteLength (origin.buffer.slice range) ≤ longestRepeat then origin.buffer.text
      else (origin.operate .delete (.chars range)).buffer.text := by
  obtain ⟨front, rest, cut, erased, start⟩ := Buffer.cut_slice plain admits some
  obtain ⟨history, recorder, message, deleted⟩ := operate_delete_chars some
  have read : (origin.operate .delete (.chars range)).registers.get
      (origin.operate .delete (.chars range)).register = ⟨origin.buffer.slice range, .char⟩ := by
    rw [deleted, unnamed]
    rfl
  have buffer : (origin.operate .delete (.chars range)).buffer = origin.buffer.erase range := by rw [deleted]
  have left : (origin.operate .delete (.chars range)).buffer.text = front ++ rest := by rw [buffer, erased]
  have plainLeft : Plain (origin.operate .delete (.chars range)).buffer.text := left ▸ (cut ▸ plain).without
  have spot := spot_of_nearest (origin.operate .delete (.chars range)) range.start rfl
    (by rw [deleted]; rfl) (start ▸ Buffer.admits_stopOf plainLeft left)
  rw [put_chars_once read some, spot, ← start]
  split
  · exact (Buffer.text_insert plainLeft left _).trans cut.symm
  · rfl

omit plain in
/-- What deleting lines leaves, and which line is under the cursor then. -/
theorem deleted_lines (linewise : span.linewise = true)
    (held : origin.buffer.linesText span.firstLine (min span.lastLine origin.buffer.lastLine) = body ++ ['\n']) :
    (origin.operate .delete span).buffer =
        origin.buffer.erase (wholeLines origin.buffer span.firstLine (min span.lastLine origin.buffer.lastLine)) ∧
      (origin.operate .delete span).registers.get (origin.operate .delete span).register =
        ⟨body ++ ['\n'], .line⟩ ∧
      (origin.operate .delete span).cursor.pos.line =
        min span.firstLine (origin.operate .delete span).buffer.lastLine := by
  obtain ⟨history, recorder, message, deleted⟩ := operate_delete_lines origin linewise
  dsimp only at deleted
  rw [deleted, unnamed, held, ← of_line_ends]
  exact ⟨rfl, rfl, rfl⟩

theorem put_back_lines (linewise : span.linewise = true) (le : span.firstLine ≤ span.lastLine)
    (more : span.lastLine < origin.buffer.lastLine) :
    ((origin.operate .delete span).put false 1).buffer.text =
      if byteLength (origin.buffer.linesText span.firstLine span.lastLine) ≤ longestRepeat then origin.buffer.text
      else (origin.operate .delete span).buffer.text := by
  obtain ⟨front, rest, cut, erased, start⟩ := Buffer.erase_lines plain le more
  have last := Nat.min_eq_left (Nat.le_of_lt more)
  obtain ⟨body, held⟩ := origin.buffer.linesText_ends le
  obtain ⟨buffer, read, line⟩ := deleted_lines unnamed linewise (last.symm ▸ held)
  have left : (origin.operate .delete span).buffer.text = front ++ rest := by rw [buffer, last, erased]
  have plainLeft : Plain (origin.operate .delete span).buffer.text := left ▸ (cut ▸ plain).without
  have below := Buffer.stopOf_line_lt plainLeft left
  rw [start] at below
  have above : span.firstLine ≤ (origin.operate .delete span).buffer.lastLine := Nat.le_sub_one_of_lt below
  rw [Nat.min_eq_left above] at line
  rw [held, put_lines_once read (by simp)]
  split
  · have put := buffer_putLines_before { origin.operate .delete span with register := none }
      ⟨body ++ ['\n'], .line⟩ 1
    dsimp only at put
    rw [repeatText_one, line, ← start] at put
    rw [put, Buffer.text_insert plainLeft left, ← held, cut]
  · rfl

/-- The text is another one without them. -/
theorem text_without_lines (linewise : span.linewise = true) (le : span.firstLine ≤ span.lastLine)
    (more : span.lastLine < origin.buffer.lastLine) :
    (origin.operate .delete span).buffer.text ≠ origin.buffer.text := by
  obtain ⟨front, rest, cut, erased, -⟩ := Buffer.erase_lines plain le more
  have last := Nat.min_eq_left (Nat.le_of_lt more)
  obtain ⟨body, held⟩ := origin.buffer.linesText_ends le
  obtain ⟨buffer, -, -⟩ := deleted_lines unnamed linewise (last.symm ▸ held)
  intro same
  rw [buffer, last, erased, cut, held] at same
  have lengths := congrArg List.length same
  simp only [List.length_append, List.length_singleton] at lengths
  omega

theorem put_back_lastLines (linewise : span.linewise = true) (above : 0 < span.firstLine)
    (inside : span.firstLine ≤ origin.buffer.lastLine) (last : span.lastLine = origin.buffer.lastLine) :
    ((origin.operate .delete span).put true 1).buffer.text =
      if byteLength (origin.buffer.linesText span.firstLine span.lastLine) ≤ longestRepeat then origin.buffer.text
      else (origin.operate .delete span).buffer.text := by
  obtain ⟨front, body, cut, held, erased, breaks⟩ := Buffer.erase_lastLines plain above inside
  have here : min span.lastLine origin.buffer.lastLine = origin.buffer.lastLine := by rw [last, Nat.min_self]
  obtain ⟨buffer, read, line⟩ := deleted_lines unnamed linewise (here.symm ▸ held)
  have left : (origin.operate .delete span).buffer.text = front := by rw [buffer, here, erased]
  have plainLeft : Plain (origin.operate .delete span).buffer.text := left ▸ (Plain.append_iff.1 (cut ▸ plain)).1
  have count : (origin.operate .delete span).buffer.lineCount = span.firstLine := by
    rw [Buffer.lineCount_plain plainLeft, left, breaks]
    omega
  have lowest : (origin.operate .delete span).cursor.pos.line = (origin.operate .delete span).buffer.lastLine := by
    rw [line]
    unfold Buffer.lastLine
    omega
  rw [last, held, put_lines_once read (by simp)]
  split
  · have lastOne : ¬ (origin.operate .delete span).cursor.pos.line + 1 <
        (origin.operate .delete span).buffer.lineCount := by
      rw [lowest]
      unfold Buffer.lastLine
      omega
    have put : (putLines { origin.operate .delete span with register := none } ⟨body ++ ['\n'], .line⟩ true 1).buffer =
        _ := buffer_putLines_end _ 1 lastOne
    dsimp only at put
    rw [repeatText_one, Line.trimBreak_append, lowest, ← Buffer.stopOf_text plainLeft] at put
    rw [put, Buffer.text_insert plainLeft (List.append_nil _).symm, List.append_nil, left, cut]
  · rfl

theorem put_back (removable : Removable origin.buffer span) :
    ((origin.operate .delete span).put
        (behindCut origin.buffer span (origin.operate .delete span).cursor.pos) 1).buffer.text =
      if byteLength (heldText origin.buffer span) ≤ longestRepeat then origin.buffer.text
      else (origin.operate .delete span).buffer.text := by
  unfold Removable at removable
  unfold behindCut heldText
  by_cases linewise : span.linewise = true
  · rw [if_pos linewise] at removable
    rw [if_pos linewise, if_pos linewise]
    obtain ⟨le, inside, others⟩ := removable
    by_cases more : span.lastLine < origin.buffer.lastLine
    · rw [decide_eq_false (Nat.not_le.2 more)]
      exact put_back_lines plain unnamed linewise le more
    · have last : span.lastLine = origin.buffer.lastLine := by
        unfold Buffer.lastLine at more ⊢
        omega
      rw [decide_eq_true (Nat.not_lt.1 more)]
      exact put_back_lastLines plain unnamed linewise (others.resolve_right more) (last ▸ le) last
  · rw [if_neg linewise] at removable
    rw [if_neg linewise, if_neg linewise]
    obtain ⟨range, linewise'⟩ := span
    obtain rfl : linewise' = false := by simpa using linewise
    exact put_back_chars plain unnamed removable.1 removable.2

end PutBack

/-- Keys with which a span has just been deleted. -/
structure Deletes (pane : Pane) (keys : List Key) (span : Span) (next : Pane) : Prop where
  handles : Handles pane keys next
  deleted : ∃ origin : Pane, origin.isIdle = true ∧ origin.buffer.text = pane.buffer.text ∧
    next.Alike (origin.operate .delete span)

/-- Of the buffer, only the text counts. -/
theorem sameSpan {a b : Buffer} (same : a.text = b.text) (span : Span) (cursor : Position) :
    (Removable a span ↔ Removable b span) ∧ heldText a span = heldText b span ∧
      behindCut a span cursor = behindCut b span cursor := by
  obtain ⟨text, name, modified⟩ := a
  obtain ⟨text', name', modified'⟩ := b
  obtain rfl : text = text' := same
  exact ⟨.rfl, rfl, rfl⟩

/-- Deleting keeps to Normal mode, with nothing waiting. -/
theorem isIdle_operate_delete (idle : origin.isIdle = true) (removable : Removable origin.buffer span) :
    (origin.operate .delete span).isIdle = true := by
  obtain ⟨mode, pending, count, register, prompt⟩ := isIdle_iff.1 idle
  by_cases linewise : span.linewise = true
  · obtain ⟨history, recorder, message, deleted⟩ := operate_delete_lines origin linewise
    rw [deleted]
    exact isIdle_iff.2 ⟨mode, pending, count, rfl, prompt⟩
  · unfold Removable at removable
    rw [if_neg linewise] at removable
    obtain ⟨range, linewise'⟩ := span
    obtain rfl : linewise' = false := by simpa using linewise
    obtain ⟨history, recorder, message, deleted⟩ := operate_delete_chars removable.2
    have here : origin.operate .delete ⟨range, false⟩ = _ := deleted
    rw [here]
    exact isIdle_iff.2 ⟨mode, pending, count, rfl, prompt⟩

/-- A key that puts does so to what the deletion left. -/
theorem Deletes.handles_put (deletes : Deletes pane keys span next) (removable : Removable pane.buffer span)
    {after : Bool}
    (found : Keymap.findOrMotion? Keymap.normal key = some (if after then .putAfter else .putBefore)) :
    ∃ origin final : Pane, origin.register = none ∧ origin.buffer.text = pane.buffer.text ∧
      next.cursor = (origin.operate .delete span).cursor ∧
        next.buffer.text = (origin.operate .delete span).buffer.text ∧ Handles next [key] final ∧
          final.buffer.text = ((origin.operate .delete span).put after 1).buffer.text := by
  obtain ⟨handles, origin, idle, text, alike⟩ := deletes
  have rests := isIdle_operate_delete idle ((sameSpan text span .zero).1.2 removable)
  obtain ⟨final, handled, puts⟩ : ∃ last, Handles next [key] last ∧
      last.Alike ((origin.operate .delete span).put after 1) := by
    refine alike.handles_command rests found (by cases after <;> nofun) (by cases after <;> nofun)
      fun pane same counts => ?_
    have taken : pane.takeCount.2.Alike (origin.operate .delete span).dropCount :=
      Alike.trans (b := pane.dropCount) ⟨rfl⟩ same.dropCount
    rw [dropCount_eq (isIdle_iff.1 rests).2.2.1] at taken
    rw [runNormal_put, counts]
    exact taken.put after 1
  exact ⟨origin, final, (isIdle_iff.1 idle).2.2.2.1, text, alike.same (·.cursor) fun _ => rfl,
    alike.same (·.buffer.text) fun _ => rfl, handled, puts.same (·.buffer.text) fun _ => rfl⟩

section Keys

variable {operator deleter doubled : Key} {typed behind : List Key} {count counted : Option Nat}
  {object : TextObject} {visual : VisualKind}

/-- Until an operator gets its target, the text and the cursor are as they were. -/
theorem Complete.still {base last : Pane} {recorded : List Key} {noted : Option Nat}
    (complete : Complete pane base recorded noted last)
    (rests : base.isIdle = true ∧ base.buffer = pane.buffer ∧ base.cursor = pane.cursor) :
    last.isIdle = true ∧ last.buffer.text = pane.buffer.text ∧ last.buffer.lastLine = pane.buffer.lastLine ∧
      last.cursor.pos = pane.cursor.pos := by
  obtain ⟨idle, buffer, cursor⟩ := rests
  refine ⟨(complete.alike.same (·.isIdle) fun _ => rfl).trans idle, ?_, ?_, ?_⟩
  · exact (complete.alike.same (·.buffer.text) fun _ => rfl).trans (congrArg Buffer.text buffer)
  · exact (complete.alike.same (·.buffer.lastLine) fun _ => rfl).trans (congrArg Buffer.lastLine buffer)
  · exact (complete.alike.same (·.cursor.pos) fun _ => rfl).trans (congrArg Cursor.pos cursor)

theorem deletes_lines (reached : Reached pane) (idle : pane.isIdle = true)
    (found : Keymap.findOrMotion? Keymap.normal operator = some (.operator .delete))
    (twice : doubled.typed? = some Operator.delete.key)
    (before : Digits none front count) (after : Digits none behind counted) :
    ∃ next, Deletes pane (front ++ operator :: (behind ++ [doubled]))
      (.lines pane.cursor.pos.line
        (min (pane.cursor.pos.line + max ((mergeCounts count counted).getD 1) 1 - 1) pane.buffer.lastLine)) next := by
  obtain ⟨base, rests, handles⟩ := (Targets.lines twice).handles (reached.ready idle)
    (Underway.start idle (reached.recording idle)) found
  obtain ⟨last, handled, complete⟩ := handles before after
  obtain ⟨idles, text, lowest, here⟩ := complete.still rests
  refine ⟨_, handled, last, idles, text, ?_⟩
  rw [← here, ← lowest]
  exact Alike.settle _

theorem deletes_object (idle : pane.isIdle = true) (aims : Aims typed (.object object))
    (found : Keymap.findOrMotion? Keymap.normal operator = some (.operator .delete))
    (selects : object.span? pane.buffer pane.cursor.pos = some span) :
    ∃ next, Deletes pane (operator :: typed) span next := by
  obtain ⟨next, handles, deleted⟩ := handles_deleted idle aims found selects
  exact ⟨next, handles, pane, idle, rfl, deleted⟩

theorem deletes_selection (mode : pane.mode = .visual visual) (prompt : pane.prompt = none)
    (pending : pane.pending = none) (count : pane.count = none) (register : pane.register = none)
    (found : Keymap.findOrMotion? Keymap.visual deleter = some (.operator .delete))
    (selected : (∃ range, pane.selection? = some (.chars range) ∧ span = .chars range) ∨
      ∃ first last, pane.selection? = some (.lines first last) ∧ span = .lines first last) :
    ∃ next, Deletes pane [deleter] span next := by
  obtain ⟨next, handles, deleted⟩ := handles_delete found (.refl pane) prompt mode pending count
  have operates : pane.operateOnSelection .delete = pane.exitVisual.operate .delete span := by
    rcases selected with ⟨range, selected, rfl⟩ | ⟨first, last, selected, rfl⟩
    · exact operateOnSelection_delete_chars selected
    · exact operateOnSelection_delete_lines selected
  have rests : pane.exitVisual.isIdle = true := by
    rw [isIdle_iff]
    unfold exitVisual
    dsimp only
    split <;> exact ⟨rfl, pending, count, register, prompt⟩
  rw [operates] at deleted
  exact ⟨next, handles, pane.exitVisual, rests, congrArg Buffer.text (exitVisual_sameText pane).buffer, deleted⟩

/-- In a plain text, what was deleted is put back exactly at its side of the cut, characters as well as lines, as
long as it takes no more bytes than a command may write.  If it does take more, the text stays without it. -/
theorem Deletes.put_restores (plain : Plain pane.buffer.text) (deletes : Deletes pane keys span next)
    (removable : Removable pane.buffer span)
    (found : Keymap.findOrMotion? Keymap.normal key =
      some (if behindCut pane.buffer span next.cursor.pos then .putAfter else .putBefore)) :
    ∃ final, Handles next [key] final ∧
      final.buffer.text =
        if byteLength (heldText pane.buffer span) ≤ longestRepeat then pane.buffer.text else next.buffer.text := by
  obtain ⟨origin, final, unnamed, text, cursor, left, handles, puts⟩ := deletes.handles_put removable found
  obtain ⟨removes, held, side⟩ := sameSpan text span next.cursor.pos
  refine ⟨final, handles, ?_⟩
  rw [puts, ← held, ← text, left, ← side, cursor]
  exact put_back (text ▸ plain) unnamed (removes.2 removable)

/-- The last word of a line, behind which the cursor cannot stay, and a selection over the end of a line. -/
theorem put_restores_word_and_selection :
    (let pane := typedInto "one two\nthree".toList [.char 'w']
      ∃ next final, Handles pane [.char 'd', .char 'i', .char 'w'] next ∧ Handles next [.char 'p'] final ∧
        next.buffer.text = "one \nthree".toList ∧ final.buffer.text = pane.buffer.text) ∧
    (let pane := typedInto "one two\nfor you".toList [.char 'w', .char 'v', .char 'j']
      ∃ next final, Handles pane [.char 'd'] next ∧ Handles next [.char 'P'] final ∧
        next.buffer.text = "one ou".toList ∧ final.buffer.text = pane.buffer.text) := by
  constructor
  · intro pane
    have aims : Aims [.char 'i', .char 'w'] (.object ⟨.word, false⟩) := .object rfl (.inl rfl) rfl
    have finds : Keymap.findOrMotion? Keymap.normal (.char 'd') = some (.operator .delete) := rfl
    have selects : TextObject.span? ⟨.word, false⟩ pane.buffer pane.cursor.pos = some (.chars ⟨⟨0, 4⟩, ⟨0, 7⟩⟩) := by
      decide +kernel
    obtain ⟨next, deletes⟩ := deletes_object (by decide +kernel) aims finds selects
    have same : pane.handleKeys [.char 'd', .char 'i', .char 'w'] = next := deletes.handles.handleKeys
    have side : behindCut pane.buffer (.chars ⟨⟨0, 4⟩, ⟨0, 7⟩⟩) next.cursor.pos = true := by
      rw [← same]
      decide +kernel
    have behind : Keymap.findOrMotion? Keymap.normal (.char 'p') =
        some (if behindCut pane.buffer (.chars ⟨⟨0, 4⟩, ⟨0, 7⟩⟩) next.cursor.pos then .putAfter else .putBefore) := by
      rw [side]
      rfl
    obtain ⟨final, puts, text⟩ := Deletes.put_restores (by decide +kernel) deletes (by decide +kernel) behind
    refine ⟨next, final, deletes.handles, puts, ?_, text.trans (if_pos (by decide +kernel))⟩
    rw [← same]
    decide +kernel
  · intro pane
    have selected : pane.selection? = some (.chars ⟨⟨0, 4⟩, ⟨1, 5⟩⟩) := by decide +kernel
    have selecting : pane.mode = .visual .char := by decide +kernel
    have finds : Keymap.findOrMotion? Keymap.visual (.char 'd') = some (.operator .delete) := rfl
    obtain ⟨next, deletes⟩ := deletes_selection selecting (by decide +kernel) (by decide +kernel) (by decide +kernel)
      (by decide +kernel) finds (.inl ⟨_, selected, rfl⟩)
    have same : pane.handleKeys [.char 'd'] = next := deletes.handles.handleKeys
    have side : behindCut pane.buffer (.chars ⟨⟨0, 4⟩, ⟨1, 5⟩⟩) next.cursor.pos = false := by
      rw [← same]
      decide +kernel
    have inFront : Keymap.findOrMotion? Keymap.normal (.char 'P') =
        some (if behindCut pane.buffer (.chars ⟨⟨0, 4⟩, ⟨1, 5⟩⟩) next.cursor.pos then .putAfter else .putBefore) := by
      rw [side]
      rfl
    obtain ⟨final, puts, text⟩ := Deletes.put_restores (by decide +kernel) deletes (by decide +kernel) inFront
    refine ⟨next, final, deletes.handles, puts, ?_, text.trans (if_pos (by decide +kernel))⟩
    rw [← same]
    decide +kernel

theorem length_le_byteLength (text : List Char) : text.length ≤ byteLength text := by
  induction text with
  | nil => exact Nat.le_refl _
  | cons c text ih =>
      have some := c.utf8Size_pos
      unfold byteLength
      rw [List.length_cons]
      omega

/-- A first line of so many characters, and a second one. -/
def longLine (n : Nat) : List Char := List.replicate n 'a' ++ ['\n', 'b']

theorem plain_longLine (n : Nat) : Plain (longLine n) := by
  refine Plain.append_iff.2 ⟨fun c mem => ?_, by decide⟩
  rw [List.eq_of_mem_replicate mem]
  decide

theorem longLine_lines {buf : Buffer} {n : Nat} (text : buf.text = longLine n) :
    buf.lineCount = 2 ∧ n < byteLength (buf.linesText 0 0) := by
  have plain : Plain buf.text := text ▸ plain_longLine n
  constructor
  · rw [Buffer.lineCount_plain plain, text]
    simp [longLine, List.count_replicate]
  · have long := Buffer.lineLength_zero plain
    have held : buf.linesText 0 0 = buf.line 0 ++ ['\n'] := List.append_nil _
    have length : (buf.linesText 0 0).length = buf.lineLength 0 + 1 := by
      rw [held, List.length_append]
      rfl
    have bytes := length_le_byteLength (buf.linesText 0 0)
    have line : restOfLine (longLine n) = List.replicate n 'a' := by simp [longLine, restOfLine]
    rw [text, line, List.length_replicate] at long
    omega

/-- A line that is too long is deleted, and then not put. -/
theorem not_put_of_long {n : Nat} (long : longestRepeat ≤ n) :
    Plain (longLine n) ∧ Removable { text := longLine n } (.lines 0 0) ∧
      ∃ next final, Deletes (showing { text := longLine n } {} 20 5) [.char 'd', .char 'd'] (.lines 0 0) next ∧
        behindCut { text := longLine n } (.lines 0 0) next.cursor.pos = false ∧
          Handles next [.char 'P'] final ∧ final.buffer.text ≠ longLine n := by
  have firstLine : Span.lines 0 0 = ⟨⟨⟨0, 0⟩, ⟨0, 0⟩⟩, true⟩ := rfl
  have more : ∀ {buf : Buffer}, buf.text = longLine n → 0 < buf.lastLine := by
    intro buf text
    unfold Buffer.lastLine
    rw [(longLine_lines text).1]
    exact Nat.one_pos
  have finds : Keymap.findOrMotion? Keymap.normal (.char 'd') = some (.operator .delete) := rfl
  have twice : (Key.char 'd').typed? = some Operator.delete.key := rfl
  obtain ⟨next, deletes⟩ :=
    deletes_lines (Reached.start { text := longLine n } {} 20 5) rfl finds twice (.nil none) (.nil none)
  have span : Span.lines (showing { text := longLine n } {} 20 5).cursor.pos.line
      (min ((showing { text := longLine n } {} 20 5).cursor.pos.line + max ((mergeCounts none none).getD 1) 1 - 1)
        (showing { text := longLine n } {} 20 5).buffer.lastLine) = .lines 0 0 :=
    congrArg (Span.lines 0) (Nat.zero_min _)
  rw [span] at deletes
  rw [firstLine] at deletes ⊢
  have removable : Removable { text := longLine n } ⟨⟨⟨0, 0⟩, ⟨0, 0⟩⟩, true⟩ :=
    ⟨Nat.le_refl _, Buffer.lineCount_pos _, .inr (more rfl)⟩
  have puts : Keymap.findOrMotion? Keymap.normal (.char 'P') = some (if false then .putAfter else .putBefore) := rfl
  obtain ⟨origin, final, unnamed, text, -, -, handles, puts⟩ := deletes.handles_put removable puts
  obtain ⟨-, longer⟩ := longLine_lines text
  have plain : Plain origin.buffer.text := text ▸ plain_longLine n
  have linewise : (⟨⟨⟨0, 0⟩, ⟨0, 0⟩⟩, true⟩ : Span).linewise = true := rfl
  have put := (put_back_lines plain unnamed linewise (Nat.le_refl _) (more text)).trans
    (if_neg (Nat.not_le.2 (Nat.lt_of_le_of_lt long longer)))
  have inFront : behindCut { text := longLine n } ⟨⟨⟨0, 0⟩, ⟨0, 0⟩⟩, true⟩ next.cursor.pos = false :=
    decide_eq_false (Nat.not_le.2 (more rfl))
  refine ⟨plain_longLine n, removable, next, final, deletes, inFront, handles, ?_⟩
  rw [puts, put, ← show origin.buffer.text = longLine n from text]
  exact text_without_lines plain unnamed linewise (Nat.le_refl _) (more text)

/-- A line of as many bytes as a command may write is one too long with its line feed. -/
theorem deleted_line_not_restored :
    Plain (longLine longestRepeat) ∧ Removable { text := longLine longestRepeat } (.lines 0 0) ∧
      ∃ next final,
        Deletes (showing { text := longLine longestRepeat } {} 20 5) [.char 'd', .char 'd'] (.lines 0 0) next ∧
          behindCut { text := longLine longestRepeat } (.lines 0 0) next.cursor.pos = false ∧
            Handles next [.char 'P'] final ∧ final.buffer.text ≠ longLine longestRepeat :=
  not_put_of_long (Nat.le_refl _)

end Keys

end Pane

end ModalPanes
