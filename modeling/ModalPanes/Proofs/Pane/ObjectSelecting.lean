import ModalPanes.Proofs.Pane.Deleting
import ModalPanes.Proofs.Pane.Handling
import ModalPanes.Proofs.Pane.Missing
import ModalPanes.Proofs.Pane.Repeating
import ModalPanes.Proofs.Text.Characters
import ModalPanes.Proofs.Text.ObjectSpans

/-!
# Deleting a selected text object

An object that is selected in Visual mode becomes two places of the cursor, both of them included, and these
become a half-open range again.  On the way the end keeps its place, also where it is behind a line feed.  The
start does not: the cursor goes to a character with it, so that an object that starts behind the last character of
its line is selected with that character.
-/

namespace ModalPanes

namespace Buffer

variable {buf : Buffer} {pos : Position}

theorem index_nearest_le (buf : Buffer) (pastEnd : Bool) (pos : Position) :
    buf.index (buf.nearest pastEnd pos) ≤ buf.index pos := by
  by_cases inside : pos.line < buf.lineCount
  · have line : (buf.nearest pastEnd pos).line = pos.line := by
      unfold nearest lastLine
      dsimp only
      omega
    have col : (buf.nearest pastEnd pos).col ≤ pos.col := Nat.min_le_left _ _
    rw [index_of_lt inside, index_of_lt (line.symm ▸ inside), line]
    omega
  · rw [index_of_le (Nat.not_lt.1 inside)]
    exact buf.index_le_length _

/-- Where a cursor can stand, it stays; and it goes in front of any other place of the text. -/
theorem index_nearest_lt (plain : Plain buf.text) (admits : buf.Admits true pos)
    (other : buf.nearest false pos ≠ pos) : buf.index (buf.nearest false pos) < buf.index pos := by
  refine Nat.lt_of_le_of_ne (buf.index_nearest_le false pos) fun same => other ?_
  have placed := positionOf_index_of_admits plain ((buf.admits_nearest false pos).widen true)
  rw [same, positionOf_index_of_admits plain admits] at placed
  exact placed.symm

theorem length_erase {range : Range} (lt : buf.index range.start < buf.index range.stop) :
    (buf.erase range).text.length + buf.index range.stop = buf.text.length + buf.index range.start := by
  have inside := buf.index_le_length range.stop
  unfold length at inside
  unfold erase
  dsimp only
  rw [if_neg (Nat.not_le.2 lt)]
  rw [List.length_append, List.length_take, List.length_drop]
  omega

end Buffer

namespace Pane

variable {a b pane next last : Pane} {object : TextObject} {span : Span} {range : Range} {key : Key}
  {kind : VisualKind}

/-- Behind a character comes the next place of the text. -/
theorem behind_positionOf (plain : Plain pane.buffer.text) {i : Nat} (lt : i < pane.buffer.length) :
    pane.behind (pane.buffer.positionOf i) = pane.buffer.positionOf (i + 1) := by
  have cut : pane.buffer.text = pane.buffer.text.take i ++ pane.buffer.text[i] :: pane.buffer.text.drop (i + 1) := by
    rw [← List.drop_eq_getElem_cons lt, List.take_append_drop]
  have next : pane.buffer.text.take (i + 1) = pane.buffer.text.take i ++ [pane.buffer.text[i]] :=
    (List.take_append_getElem lt).symm
  have further : pane.buffer.text = pane.buffer.text.take i ++ [pane.buffer.text[i]] ++
      pane.buffer.text.drop (i + 1) := by
    rw [← next, List.take_append_drop]
  rw [Buffer.positionOf_eq_stopOf plain (Nat.le_of_lt lt), Buffer.positionOf_eq_stopOf plain lt, next]
  have length := Buffer.lineLength_stopOf plain cut
  have below := Buffer.stopOf_line_lt plain further
  generalize pane.buffer.text.take i = front at length below
  generalize pane.buffer.text[i] = c at length below
  unfold behind
  dsimp only
  by_cases breaks : c = '\n'
  · subst breaks
    rw [Edit.stopOf_newline_end] at below ⊢
    rw [restOfLine_newline, List.length_nil, Nat.add_zero] at length
    rw [if_neg (by omega), if_pos below]
  · rw [restOfLine_char breaks, List.length_cons] at length
    rw [Edit.stopOf_char_end _ _ breaks, if_pos (by omega)]
    rfl

section Selecting

variable (plain : Plain pane.buffer.text) (found : object.span? pane.buffer pane.cursor.pos = some (.chars range))
  (more : pane.buffer.slice range ≠ [])
include found more

theorem selectObject_chars :
    pane.selectObject object = ((pane.jump false range.start).moveCursor Cursor.setAnchor).jump true
      (pane.buffer.positionOf (pane.buffer.index range.stop - 1)) := by
  have nonempty : range.isEmpty = false := by
    rw [← Bool.not_eq_true]
    intro empty
    have same : range.start = range.stop := by simpa [Range.isEmpty] using empty
    rw [Buffer.slice_ne_nil_iff, same] at more
    omega
  unfold selectObject
  rw [found]
  dsimp only [Span.chars]
  rw [nonempty]
  rfl

include plain

theorem selection?_selectObject_chars (mode : pane.mode = .visual .char) :
    (pane.selectObject object).selection? =
      some (.chars ⟨pane.buffer.nearest false range.start,
        pane.buffer.positionOf (pane.buffer.index range.stop)⟩) := by
  have lt := Buffer.slice_ne_nil_iff.1 more
  have inside := pane.buffer.index_le_length range.stop
  have admits : pane.buffer.Admits true (pane.buffer.positionOf (pane.buffer.index range.stop - 1)) :=
    pane.buffer.admits_positionOf _
  have ordered : pane.buffer.nearest false range.start ≤
      pane.buffer.positionOf (pane.buffer.index range.stop - 1) := by
    have start := pane.buffer.index_nearest_le false range.start
    have placed := Buffer.positionOf_index_of_admits plain
      ((pane.buffer.admits_nearest false range.start).widen true)
    rw [← placed]
    exact Buffer.positionOf_mono (by omega)
  have behind := behind_positionOf plain (i := pane.buffer.index range.stop - 1) (by omega)
  rw [Nat.sub_add_cancel (by omega)] at behind
  rw [selectObject_chars found more]
  unfold selection?
  rw [show Pane.mode (((pane.jump false range.start).moveCursor Cursor.setAnchor).jump true
    (pane.buffer.positionOf (pane.buffer.index range.stop - 1))) = .visual .char from mode]
  show some (Selection.chars
    ⟨(Range.between (pane.buffer.nearest false range.start) (pane.buffer.nearest true
      (pane.buffer.positionOf (pane.buffer.index range.stop - 1)))).start,
    pane.behind (Range.between (pane.buffer.nearest false range.start) (pane.buffer.nearest true
      (pane.buffer.positionOf (pane.buffer.index range.stop - 1)))).stop⟩) = _
  rw [Buffer.nearest_of_admits admits, Range.between, if_pos ordered, behind]

end Selecting

theorem selection?_selectObject_lines {first end_ : Nat}
    (found : object.span? pane.buffer pane.cursor.pos = some (.lines first end_)) (le : first ≤ end_)
    (lt : end_ < pane.buffer.lineCount) :
    (pane.selectObject object).selection? = some (.lines first end_) := by
  have above : min first pane.buffer.lastLine = first := by
    unfold Buffer.lastLine
    omega
  have below : min end_ pane.buffer.lastLine = end_ := by
    unfold Buffer.lastLine
    omega
  have span : Span.lines first end_ = ⟨⟨⟨first, 0⟩, ⟨end_, 0⟩⟩, true⟩ := if_pos le
  unfold selectObject
  rw [found, span]
  show some (Selection.lines (min (min first pane.buffer.lastLine) (min end_ pane.buffer.lastLine))
    (max (min first pane.buffer.lastLine) (min end_ pane.buffer.lastLine))) = _
  rw [above, below, Nat.min_eq_left le, Nat.max_eq_right le]

theorem operateOnSelection_delete_chars (selected : pane.selection? = some (.chars range)) :
    pane.operateOnSelection .delete = pane.exitVisual.operate .delete (.chars range) := by
  unfold operateOnSelection
  rw [selected]
  rfl

theorem operateOnSelection_delete_lines {first end_ : Nat} (selected : pane.selection? = some (.lines first end_)) :
    pane.operateOnSelection .delete = pane.exitVisual.operate .delete (.lines first end_) := by
  unfold operateOnSelection
  rw [selected]
  rfl

/-- Text and registers. -/
structure SameText (a b : Pane) : Prop where
  buffer : a.buffer = b.buffer
  registers : a.registers = b.registers
  register : a.register = b.register

theorem SameText.refl (pane : Pane) : SameText pane pane := ⟨rfl, rfl, rfl⟩

theorem SameText.trans (first : SameText a b) (second : SameText b pane) : SameText a pane :=
  ⟨first.buffer.trans second.buffer, first.registers.trans second.registers,
    first.register.trans second.register⟩

theorem exitVisual_sameText (pane : Pane) : SameText pane.exitVisual pane := by
  unfold exitVisual
  dsimp only
  split <;> exact ⟨rfl, rfl, rfl⟩

theorem selectObject_sameText (pane : Pane) (object : TextObject) : SameText (pane.selectObject object) pane := by
  unfold selectObject
  split
  · exact ⟨rfl, rfl, rfl⟩
  · split
    · exact ⟨rfl, rfl, rfl⟩
    · split <;> exact ⟨rfl, rfl, rfl⟩

/-- What deleting characters does to text and registers depends on nothing else. -/
theorem SameText.delete_chars (same : SameText a b) (more : b.buffer.slice range ≠ []) :
    (a.operate .delete (.chars range)).buffer = b.buffer.erase range ∧
      (a.operate .delete (.chars range)).registers =
        b.registers.store b.register (.of .char (b.buffer.slice range)) := by
  rw [← same.buffer, ← same.registers, ← same.register]
  rw [← same.buffer] at more
  obtain ⟨history, recorder, message, eq⟩ := operate_delete_chars more
  rw [eq]
  exact ⟨rfl, rfl⟩

theorem SameText.delete_lines (same : SameText a b) (linewise : span.linewise = true) :
    (a.operate .delete span).buffer = (b.operate .delete span).buffer ∧
      (a.operate .delete span).registers = (b.operate .delete span).registers := by
  obtain ⟨history, recorder, message, here⟩ := operate_delete_lines a linewise
  obtain ⟨history', recorder', message', there⟩ := operate_delete_lines b linewise
  rw [here, there, same.buffer, same.registers, same.register]
  exact ⟨rfl, rfl⟩

theorem selected_sameText (pane : Pane) (object : TextObject) :
    SameText ((pane.enterVisual .char).selectObject object).exitVisual pane :=
  ((exitVisual_sameText _).trans (selectObject_sameText _ _)).trans ⟨rfl, rfl, rfl⟩

/-- The characters of an object are deleted from where the cursor can stand on, which is one character more where
it cannot stand at the start. -/
theorem delete_selected_chars (plain : Plain pane.buffer.text)
    (found : object.span? pane.buffer pane.cursor.pos = some (.chars range))
    (admits : pane.buffer.Admits true range.start) (more : pane.buffer.slice range ≠ []) :
    ((((pane.enterVisual .char).selectObject object).operateOnSelection .delete).buffer.text =
        (pane.operate .delete (.chars range)).buffer.text ↔
      pane.buffer.nearest false range.start = range.start) ∧
    (pane.buffer.nearest false range.start = range.start →
      (((pane.enterVisual .char).selectObject object).operateOnSelection .delete).registers =
        (pane.operate .delete (.chars range)).registers) := by
  have selected : ((pane.enterVisual .char).selectObject object).selection? =
      some (.chars ⟨pane.buffer.nearest false range.start,
        pane.buffer.positionOf (pane.buffer.index range.stop)⟩) :=
    selection?_selectObject_chars plain found more rfl
  have behind := Buffer.slice_ne_nil_iff.1 more
  have stop : pane.buffer.index (pane.buffer.positionOf (pane.buffer.index range.stop)) =
      pane.buffer.index range.stop := Buffer.index_positionOf (pane.buffer.index_le_length _)
  have start := pane.buffer.index_nearest_le false range.start
  generalize pane.buffer.positionOf (pane.buffer.index range.stop) = place at selected stop
  have whole : pane.buffer.slice ⟨pane.buffer.nearest false range.start, place⟩ ≠ [] :=
    Buffer.slice_ne_nil_iff.2 (by
      show pane.buffer.index (pane.buffer.nearest false range.start) < pane.buffer.index place
      omega)
  obtain ⟨text, registers⟩ := (selected_sameText pane object).delete_chars whole
  obtain ⟨directText, directRegisters⟩ := (SameText.refl pane).delete_chars more
  have erased : pane.buffer.erase ⟨range.start, place⟩ = pane.buffer.erase range := by
    simp only [Buffer.erase, stop]
  have taken : pane.buffer.slice ⟨range.start, place⟩ = pane.buffer.slice range := by
    simp only [Buffer.slice, stop]
  rw [operateOnSelection_delete_chars selected, text, registers, directText, directRegisters]
  refine ⟨⟨fun texts => ?_, fun starts => by rw [starts, erased]⟩, fun starts => by rw [starts, taken]⟩
  by_contra other
  have short := Buffer.index_nearest_lt plain admits other
  have removed := Buffer.length_erase (Buffer.slice_ne_nil_iff.1 whole)
  have removedDirect := Buffer.length_erase behind
  rw [texts] at removed
  dsimp only at removed
  omega

theorem delete_selected_lines {first end_ : Nat}
    (found : object.span? pane.buffer pane.cursor.pos = some (.lines first end_)) (le : first ≤ end_)
    (lt : end_ < pane.buffer.lineCount) :
    (((pane.enterVisual .char).selectObject object).operateOnSelection .delete).buffer.text =
        (pane.operate .delete (.lines first end_)).buffer.text ∧
      (((pane.enterVisual .char).selectObject object).operateOnSelection .delete).registers =
        (pane.operate .delete (.lines first end_)).registers := by
  have selected : ((pane.enterVisual .char).selectObject object).selection? = some (.lines first end_) :=
    selection?_selectObject_lines found le lt
  have linewise : (Span.lines first end_).linewise = true := congrArg Span.linewise (if_pos le)
  obtain ⟨text, registers⟩ := (selected_sameText pane object).delete_lines linewise
  rw [operateOnSelection_delete_lines selected]
  exact ⟨congrArg Buffer.text text, registers⟩

/-- Selecting an object and deleting it leaves the same text as deleting the object itself exactly where the
cursor can stand at its start, and then the registers are the same as well. -/
theorem delete_selected (plain : Plain pane.buffer.text)
    (found : object.span? pane.buffer pane.cursor.pos = some span)
    (more : span.linewise = true ∨ pane.buffer.slice span.range ≠ []) :
    ((((pane.enterVisual .char).selectObject object).operateOnSelection .delete).buffer.text =
        (pane.operate .delete span).buffer.text ↔
      pane.buffer.nearest false span.range.start = span.range.start) ∧
    (pane.buffer.nearest false span.range.start = span.range.start →
      (((pane.enterVisual .char).selectObject object).operateOnSelection .delete).registers =
        (pane.operate .delete span).registers) := by
  rcases TextObject.span?_cases found with ⟨range, rfl, admits⟩ | ⟨first, end_, rfl, le, lt⟩
  · exact delete_selected_chars plain found admits (more.resolve_left Bool.false_ne_true)
  · obtain ⟨text, registers⟩ := delete_selected_lines found le lt
    have span : Span.lines first end_ = ⟨⟨⟨first, 0⟩, ⟨end_, 0⟩⟩, true⟩ := if_pos le
    rw [span] at text registers ⊢
    have stays : pane.buffer.nearest false ⟨first, 0⟩ = ⟨first, 0⟩ :=
      Buffer.nearest_of_admits ⟨Nat.lt_of_le_of_lt le lt, Nat.zero_le _⟩
    exact ⟨iff_of_true text stays, fun _ => registers⟩

section Keys

theorem Alike.handles_visual (alike : a.Alike b) (prompt : b.prompt = none) (mode : b.mode = .visual kind)
    (handled : ∀ pane : Pane, pane.Alike b → (pane.handleVisual kind key).Alike next) :
    ∃ last, Handles a [key] last ∧ last.Alike next := by
  refine alike.handles fun pane same => ⟨_, fun again => ?_, handled pane same⟩
  unfold Pane.dispatchWith
  rw [(same.same (·.prompt) fun _ => rfl).trans prompt, (same.same (·.mode) fun _ => rfl).trans mode]

theorem dropCount_eq (count : pane.count = none) : pane.dropCount = pane := by
  unfold dropCount
  rw [← count]

/-- Without what waits for a key, it is like the pane that did not wait. -/
theorem Alike.completed {waits : Pending} (alike : a.Alike (b.await waits)) (pending : b.pending = none) :
    Alike { a with pending := none } b := by
  have cleared := alike.through (fun pane => { pane with pending := none }) fun _ => ⟨rfl⟩
  have rests : { b with pending := none } = b := by rw [← pending]
  exact rests ▸ cleared

variable {keys : List Key} {opener deleter operator : Key}

/-- In Visual mode, the first key of an object waits for the second one, which selects it. -/
theorem handles_selectObject (aims : Aims keys (.object object)) (alike : a.Alike b)
    (prompt : b.prompt = none) (mode : b.mode = .visual kind) (pending : b.pending = none) (count : b.count = none) :
    ∃ last, Handles a keys last ∧ last.Alike (b.selectObject object) := by
  cases aims with
  | @object first key c chosen starts inner named =>
      obtain ⟨opened, front, opens⟩ : ∃ last, Handles a [first] last ∧
          last.Alike (b.await (.object none (c == 'a'))) := by
        refine alike.handles_visual prompt mode fun pane same => ?_
        have digit : first.countDigit? pane.count.isSome = none := by
          unfold Key.countDigit?
          rw [starts]
          rcases inner with rfl | rfl <;> cases pane.count <;> rfl
        unfold handleVisual acceptDigit?
        rw [(same.same (·.pending) fun _ => rfl).trans pending, digit, starts]
        dsimp only [Option.map_none]
        rw [if_pos (by simpa using inner)]
        have waits := same.dropCount.await (.object none (c == 'a'))
        rwa [dropCount_eq count] at waits
      obtain ⟨d, types, kinds⟩ := Option.bind_eq_some_iff.1 named
      obtain ⟨last, back, selects⟩ : ∃ last, Handles opened [key] last ∧
          last.Alike (b.selectObject ⟨chosen, c == 'a'⟩) := by
        refine opens.handles_visual prompt mode fun pane same => ?_
        unfold handleVisual
        rw [(same.same (·.pending) fun _ => rfl).trans (show _ = some (Pending.object none (c == 'a')) from rfl)]
        dsimp only
        rw [handlePending_of_typed types, completePending, named]
        exact (same.completed pending).selectObject _
      exact ⟨last, front.append back, selects⟩

theorem handles_delete (found : Keymap.findOrMotion? Keymap.visual deleter = some (.operator .delete))
    (alike : a.Alike b) (prompt : b.prompt = none) (mode : b.mode = .visual kind) (pending : b.pending = none)
    (count : b.count = none) : ∃ last, Handles a [deleter] last ∧ last.Alike (b.operateOnSelection .delete) := by
  refine alike.handles_visual prompt mode fun pane same => ?_
  have entries : ∀ entry ∈ Keymap.visual ++ Keymap.motions, entry.2 = .operator .delete →
      entry.1.countDigit? false = none ∧ entry.1.typed? ≠ some 'i' ∧ entry.1.typed? ≠ some 'a' := by
    decide +kernel
  obtain ⟨digit, inner, around⟩ := entries _ (Keymap.mem_of_findOrMotion? found) rfl
  rw [Keymap.countDigit?_foldShift] at digit
  rw [Keymap.typed?_foldShift] at inner around
  unfold handleVisual acceptDigit?
  rw [(same.same (·.pending) fun _ => rfl).trans pending, (same.same (·.count) fun _ => rfl).trans count,
    show Option.isSome (none : Option Nat) = false from rfl, digit, found]
  dsimp only [Option.map_none]
  rw [if_neg (not_or.2 ⟨inner, around⟩)]
  have deleted := same.dropCount.operateOnSelection .delete
  rwa [dropCount_eq count] at deleted

theorem selectObject_keeps (mode : pane.mode = .visual kind) (object : TextObject) :
    (∃ kind, (pane.selectObject object).mode = .visual kind) ∧
      (pane.selectObject object).prompt = pane.prompt ∧ (pane.selectObject object).pending = pane.pending ∧
        (pane.selectObject object).count = pane.count := by
  unfold selectObject
  split
  · exact ⟨⟨kind, mode⟩, rfl, rfl, rfl⟩
  · split
    · exact ⟨⟨.line, rfl⟩, rfl, rfl, rfl⟩
    · split <;> exact ⟨⟨kind, mode⟩, rfl, rfl, rfl⟩

theorem handles_selected (idle : pane.isIdle = true) (aims : Aims keys (.object object))
    (enters : Keymap.findOrMotion? Keymap.normal opener = some (.visual .char))
    (deletes : Keymap.findOrMotion? Keymap.visual deleter = some (.operator .delete)) :
    ∃ last, Handles pane (opener :: (keys ++ [deleter])) last ∧
      last.Alike (((pane.enterVisual .char).selectObject object).operateOnSelection .delete) := by
  obtain ⟨-, pending, count, -, prompt⟩ := isIdle_iff.1 idle
  obtain ⟨entered, first, enter⟩ : ∃ last, Handles pane [opener] last ∧ last.Alike (pane.enterVisual .char) := by
    refine (Alike.refl pane).handles_command idle enters nofun nofun fun next same counts => ?_
    have visual := same.dropCount.enterVisual .char
    rwa [dropCount_eq count] at visual
  obtain ⟨chosen, second, selects⟩ := handles_selectObject aims enter prompt rfl pending count
  have entering : (pane.enterVisual .char).mode = .visual .char := rfl
  obtain ⟨⟨kind, visual⟩, prompts, pendings, counts⟩ := selectObject_keeps entering object
  obtain ⟨last, third, deleted⟩ := handles_delete deletes selects (prompts.trans prompt) visual
    (pendings.trans pending) (counts.trans count)
  exact ⟨last, first.append (second.append third), deleted⟩

theorem handles_deleted (idle : pane.isIdle = true) (aims : Aims keys (.object object))
    (deletes : Keymap.findOrMotion? Keymap.normal operator = some (.operator .delete))
    (found : object.span? pane.buffer pane.cursor.pos = some span) :
    ∃ last, Handles pane (operator :: keys) last ∧ last.Alike (pane.operate .delete span) := by
  obtain ⟨mode, pending, count, -, prompt⟩ := isIdle_iff.1 idle
  have takes : pane.TakesCommands := ⟨prompt, mode⟩
  obtain ⟨begun, first, begins⟩ : ∃ last, Handles pane [operator] last ∧
      last.Alike (pane.await (.operator ⟨.delete, none⟩)) := by
    refine (Alike.refl pane).handles_command idle deletes nofun nofun fun next same counts => ?_
    have awaits := same.dropCount.await (.operator ⟨.delete, none⟩)
    rw [dropCount_eq count] at awaits
    exact Alike.trans ⟨by rw [← counts]; rfl⟩ awaits
  cases aims with
  | @object opener key c chosen starts inner named =>
      obtain ⟨opened, second, opens⟩ : ∃ last, Handles begun [opener] last ∧
          last.Alike (pane.await (.object (some ⟨.delete, none⟩) (c == 'a'))) := by
        refine begins.handles_awaited takes fun next same => ?_
        rw [handlePending_operator_of_object starts inner]
        exact same.await (.object (some ⟨.delete, none⟩) (c == 'a'))
      obtain ⟨d, types, -⟩ := Option.bind_eq_some_iff.1 named
      obtain ⟨last, third, deleted⟩ : ∃ last, Handles opened [key] last ∧
          last.Alike (pane.operate .delete span) := by
        refine opens.handles_awaited takes fun next same => ?_
        rw [handlePending_of_typed types, completePending, named]
        have operates := (same.completed pending).selectOrOperate (some ⟨.delete, none⟩) ⟨chosen, c == 'a'⟩
        have here : pane.selectOrOperate (some ⟨.delete, none⟩) ⟨chosen, c == 'a'⟩ = pane.operate .delete span := by
          unfold selectOrOperate
          dsimp only
          rw [found]
        rwa [here] at operates
      exact ⟨last, first.append (second.append third), deleted⟩

/-- An object is deleted with the same text left by selecting it first and by naming it behind the operator,
exactly where the cursor can stand at its start; what is then in the registers is the same. -/
theorem deletes_selected_object (plain : Plain pane.buffer.text) (idle : pane.isIdle = true)
    (aims : Aims keys (.object object))
    (enters : Keymap.findOrMotion? Keymap.normal opener = some (.visual .char))
    (deletes : Keymap.findOrMotion? Keymap.visual deleter = some (.operator .delete))
    (operates : Keymap.findOrMotion? Keymap.normal operator = some (.operator .delete))
    (found : object.span? pane.buffer pane.cursor.pos = some span)
    (more : span.linewise = true ∨ pane.buffer.slice span.range ≠ []) :
    ∃ selected direct, Handles pane (opener :: (keys ++ [deleter])) selected ∧
      Handles pane (operator :: keys) direct ∧
        (selected.buffer.text = direct.buffer.text ↔
          pane.buffer.nearest false span.range.start = span.range.start) ∧
        (pane.buffer.nearest false span.range.start = span.range.start →
          selected.registers = direct.registers) := by
  obtain ⟨selected, handled, ends⟩ := handles_selected idle aims enters deletes
  obtain ⟨direct, handles, finishes⟩ := handles_deleted idle aims operates found
  refine ⟨selected, direct, handled, handles, ?_⟩
  rw [ends.same (·.buffer.text) fun _ => rfl, finishes.same (·.buffer.text) fun _ => rfl,
    ends.same (·.registers) fun _ => rfl, finishes.same (·.registers) fun _ => rfl]
  exact delete_selected plain found more

/-- What is inside of brackets, over the end of a line. -/
theorem deletes_selected_object_lines :
    let pane := typedInto "f(a\nb)c".toList [.char 'l', .char 'l']
    ∃ selected direct, Handles pane [.char 'v', .char 'i', .char '(', .char 'd'] selected ∧
      Handles pane [.char 'd', .char 'i', .char '('] direct ∧
        selected.buffer.text = direct.buffer.text ∧ selected.registers = direct.registers ∧
          direct.buffer.text = "f()c".toList := by
  intro pane
  have aims : Aims [.char 'i', .char '('] (.object ⟨.bracket '(' ')', false⟩) := .object rfl (.inl rfl) rfl
  have found : TextObject.span? ⟨.bracket '(' ')', false⟩ pane.buffer pane.cursor.pos =
      some (.chars ⟨⟨0, 2⟩, ⟨1, 1⟩⟩) := by
    decide +kernel
  have enters : Keymap.findOrMotion? Keymap.normal (.char 'v') = some (.visual .char) := rfl
  have deletes : Keymap.findOrMotion? Keymap.visual (.char 'd') = some (.operator .delete) := rfl
  have operates : Keymap.findOrMotion? Keymap.normal (.char 'd') = some (.operator .delete) := rfl
  obtain ⟨selected, direct, handled, handles, texts, registers⟩ :=
    deletes_selected_object (by decide +kernel) (by decide +kernel) aims enters deletes operates found
      (by decide +kernel)
  have starts : pane.buffer.nearest false ⟨0, 2⟩ = ⟨0, 2⟩ := by decide +kernel
  have text : (pane.handleKeys [.char 'd', .char 'i', .char '(']).buffer.text = "f()c".toList := by decide +kernel
  rw [handles.handleKeys] at text
  exact ⟨selected, direct, handled, handles, texts.2 starts, registers starts, text⟩

/-- An object that starts behind the last character of a line is selected with that character. -/
theorem selected_object_deletes_more :
    let pane := typedInto "foo(\nbar)".toList [.char 'j']
    Plain pane.buffer.text ∧ pane.isIdle = true ∧
      TextObject.span? ⟨.bracket '(' ')', false⟩ pane.buffer pane.cursor.pos =
        some (.chars ⟨⟨0, 4⟩, ⟨1, 3⟩⟩) ∧
      (pane.handleKeys [.char 'v', .char 'i', .char '(', .char 'd']).buffer.text = "foo)".toList ∧
        (pane.handleKeys [.char 'd', .char 'i', .char '(']).buffer.text = "foo()".toList ∧
          ((pane.handleKeys [.char 'v', .char 'i', .char '(', .char 'd']).registers.get none).text =
              "(\nbar".toList ∧
            ((pane.handleKeys [.char 'd', .char 'i', .char '(']).registers.get none).text = "\nbar".toList := by
  decide +kernel

end Keys

end Pane

end ModalPanes
