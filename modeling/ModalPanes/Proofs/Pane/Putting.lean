import ModalPanes.Proofs.Pane.Handling
import ModalPanes.Proofs.Pane.Sizing
import ModalPanes.Proofs.Register.Lines
import ModalPanes.Proofs.Text.Lines

/-!
# Lines are put as lines

All that a key does to the registers is to store texts in them, one after the other.  As long as none of the
stores leaves a last line open, every register of lines ends in a line feed, and putting it any number of times
adds its lines between the lines of the buffer.
-/

namespace ModalPanes

/-- The lines that a register of lines adds to a buffer. -/
def Register.lines (reg : Register) : List (List Char) := Line.lines (Line.trimBreak reg.text)

/-- They are its rows, unless there are other line breaks in them. -/
theorem Register.lines_eq_rows {reg : Register} (line : reg.kind = .line) (plain : Plain reg.text) :
    reg.lines = reg.rows := by
  have trimmed : Plain (Line.trimBreak reg.text) := by
    unfold Line.trimBreak
    split
    · exact fun c mem => plain c ((List.dropLast_sublist _).subset mem)
    · exact plain
  unfold lines rows
  rw [if_pos line]
  exact Line.lines_eq_rows trimmed

namespace Pane

variable {alphabet : Alphabet} {origin pane next : Pane} {key : Key}

section Stores

/-- What changes in the registers is what is stored in them. -/
def Stores (pane next : Pane) : Prop := ∃ stores, next.registers = pane.registers.run stores

theorem Stores.of_eq (same : next.registers = pane.registers) : pane.Stores next := ⟨[], same⟩

theorem Stores.trans {last : Pane} (first : pane.Stores next) (second : next.Stores last) :
    pane.Stores last := by
  obtain ⟨before, eq⟩ := first
  obtain ⟨behind, eqNext⟩ := second
  exact ⟨before ++ behind, by rw [Registers.run_append, ← eq, eqNext]⟩

theorem Edits.stores (edits : Edits alphabet origin pane) : origin.Stores pane := by
  induction edits with
  | refl spelled => exact .of_eq rfl
  | @insert pane edits pos text known ih =>
      obtain ⟨history, recorder, eq⟩ := insertText_eq pane pos text
      exact ih.trans (.of_eq (by rw [eq]))
  | @erase pane edits range ih =>
      obtain ⟨history, recorder, eq⟩ := eraseRange_eq pane range
      exact ih.trans (.of_eq (by rw [eq]))
  | @store pane edits name kind text known ih => exact ih.trans ⟨[⟨name, kind, text⟩], rfl⟩
  | revise edits change known ih => exact ih.trans (.of_eq rfl)
  | remember edits last known ih => exact ih.trans (.of_eq rfl)
  | tidy edits same ih => exact ih.trans (.of_eq (congrArg Pane.registers same :))

theorem Acts.stores (acts : Acts alphabet origin pane) : origin.Stores pane := by
  induction acts with
  | edits edits => exact edits.stores
  | more acts edits ih => exact ih.trans edits.stores
  | steers acts steers spelled ih => exact ih.trans (.of_eq steers.registers)

theorem Turn.stores (turn : Turn alphabet key pane next) : pane.Stores next := by
  cases turn with
  | acts acts other => exact acts.stores
  | undo rest count => exact .of_eq (congrArg Pane.registers (revisit_eq pane.dropCount History.undo count) :)
  | redo rest count => exact .of_eq (congrArg Pane.registers (revisit_eq pane.dropCount History.redo count) :)
  | executes steers spelled idle completed file =>
      refine .of_eq ?_
      rw [execute_file_eq file]
      exact steers.registers

theorem carried_stores : Carried Stores where
  refl _ := .of_eq rfl
  trans := Stores.trans
  turn := Turn.stores
  around _ _ _ := .of_eq rfl

theorem Coherent.stores (coherent : pane.Coherent) {depth : Nat}
    (handled : handleKeyWithin depth key pane = some next) : pane.Stores next := by
  obtain ⟨settling, handed, rfl⟩ := Option.map_eq_some_iff.1 handled
  have recorded : (pane.record key).Coherent := coherent.recorded _
  have kept : Stores (pane.record key) settling := carried_stores.dispatch recorded handed
  obtain ⟨recorder, view, eq, -⟩ := settle_eq settling
  rw [eq]
  exact kept.trans (.of_eq rfl)

/-- Panes reached by keys, with all that was stored in their registers on the way. -/
inductive Stored : List Store → Pane → Prop where
  | start (buffer : Buffer) (options : Options) (width height : Nat) :
      Stored [] (showing buffer options width height)
  | key {stores more : List Store} {pane next : Pane} (stored : Stored stores pane) {depth : Nat} {key : Key}
      (handled : handleKeyWithin depth key pane = some next)
      (registers : next.registers = pane.registers.run more) : Stored (stores ++ more) next
  | resize {stores : List Store} {pane : Pane} (stored : Stored stores pane) (width height : Nat) :
      Stored stores (pane.resize width height)

theorem Reached.stored (reached : Reached pane) : ∃ stores, Stored stores pane := by
  induction reached with
  | start buffer options width height => exact ⟨[], .start buffer options width height⟩
  | key reached handled ih =>
      obtain ⟨stores, stored⟩ := ih
      obtain ⟨more, registers⟩ := reached.invariant.1.stores handled
      exact ⟨stores ++ more, stored.key handled registers⟩
  | resize reached width height ih =>
      obtain ⟨stores, stored⟩ := ih
      exact ⟨stores, stored.resize width height⟩

theorem Stored.registers {stores : List Store} (stored : Stored stores pane) :
    pane.registers = Registers.run {} stores := by
  induction stored with
  | start buffer options width height => rfl
  | key stored handled registers ih => rw [registers, ih, Registers.run_append]
  | @resize stores pane stored width height ih =>
      rw [← ih]
      unfold Pane.resize
      split <;> rfl

theorem Stored.handleKey {stores : List Store} (stored : Stored stores pane) (key : Key) (more : List Store)
    (handled : (handleKeyWithin deepestRepeat key pane).isSome = true)
    (registers : (pane.handleKey key).registers = pane.registers.run more) :
    Stored (stores ++ more) (pane.handleKey key) := by
  obtain ⟨next, eq⟩ := Option.isSome_iff_exists.1 handled
  have same : pane.handleKey key = next := by
    unfold Pane.handleKey
    rw [eq]
    rfl
  exact stored.key (same ▸ eq) registers

end Stores

section Lines

theorem buffer_insertText (pane : Pane) (pos : Position) (text : List Char) :
    (pane.insertText pos text).buffer = pane.buffer.insert pos text := by
  obtain ⟨history, recorder, eq⟩ := insertText_eq pane pos text
  rw [eq]

theorem buffer_reportMore (pane : Pane) (added : Nat) : (pane.reportMore added).buffer = pane.buffer := by
  unfold reportMore
  split <;> rfl

variable {reg : Register} {after : Bool} {count : Nat}

theorem buffer_putLines_before (pane : Pane) (reg : Register) (count : Nat) :
    (pane.putLines reg false count).buffer =
      pane.buffer.insert ⟨pane.cursor.pos.line, 0⟩ (repeatText count reg.text) := by
  unfold putLines
  exact (buffer_reportMore _ _).trans (buffer_insertText _ _ _)

theorem buffer_putLines_after (reg : Register) (count : Nat)
    (more : pane.cursor.pos.line + 1 < pane.buffer.lineCount) :
    (pane.putLines reg true count).buffer =
      pane.buffer.insert ⟨pane.cursor.pos.line + 1, 0⟩ (repeatText count reg.text) := by
  unfold putLines
  simp only [Bool.not_true, Bool.false_eq_true, if_false, if_pos more]
  exact (buffer_reportMore _ _).trans (buffer_insertText _ _ _)

theorem buffer_putLines_end (reg : Register) (count : Nat)
    (last : ¬ pane.cursor.pos.line + 1 < pane.buffer.lineCount) :
    (pane.putLines reg true count).buffer =
      pane.buffer.insert ⟨pane.cursor.pos.line, pane.buffer.lineLength pane.cursor.pos.line⟩
        ('\n' :: Line.trimBreak (repeatText count reg.text)) := by
  unfold putLines
  simp only [Bool.not_true, Bool.false_eq_true, if_false, if_neg last]
  exact (buffer_reportMore _ _).trans (buffer_insertText _ _ _)

theorem lines_settle (pane : Pane) : pane.settle.buffer.lines = pane.buffer.lines := by
  obtain ⟨recorder, view, eq, -⟩ := settle_eq pane
  rw [eq]
  rfl

/-- The number of lines above those that are put. -/
def linesAbove (pane : Pane) (after : Bool) : Nat :=
  if after then pane.cursor.pos.line + 1 else pane.cursor.pos.line

theorem lines_putLines (inside : pane.cursor.pos.line < pane.buffer.lineCount) (line : reg.kind = .line)
    (whole : reg.Whole) (plain : '\r' ∉ pane.buffer.text) (plainReg : '\r' ∉ reg.text) :
    (pane.putLines reg after (count + 1)).buffer.lines =
      pane.buffer.lines.take (pane.linesAbove after) ++ (List.replicate (count + 1) reg.lines).flatten ++
        pane.buffer.lines.drop (pane.linesAbove after) := by
  obtain ⟨text, eq⟩ := List.getLast?_eq_some_iff.1 (whole line)
  have plainText : '\r' ∉ text := by
    rw [eq] at plainReg
    exact fun mem => plainReg (List.mem_append_left _ mem)
  obtain ⟨body, repeated, plainBody, cut⟩ := Line.lines_replicate plainText count
  have lines : reg.lines = Line.lines text := by
    unfold Register.lines
    rw [eq, Line.trimBreak_append]
  have isBody : repeatText (count + 1) reg.text = body ++ ['\n'] := by
    unfold repeatText
    rw [eq, repeated]
  rw [lines, ← cut]
  unfold linesAbove
  cases after with
  | false =>
      rw [buffer_putLines_before, isBody]
      exact Buffer.lines_insert plain inside plainBody
  | true =>
      by_cases more : pane.cursor.pos.line + 1 < pane.buffer.lineCount
      · rw [buffer_putLines_after reg _ more, isBody]
        exact Buffer.lines_insert plain more plainBody
      · have last : pane.cursor.pos.line = pane.buffer.lastLine := by
          unfold Buffer.lastLine
          omega
        have all : pane.buffer.lines.length ≤ pane.buffer.lastLine + 1 := by
          rw [← last, Buffer.lines, List.length_map]
          exact Nat.not_lt.1 more
        rw [buffer_putLines_end reg _ more, isBody, Line.trimBreak_append, last, if_pos rfl,
          List.take_of_length_le all, List.drop_of_length_le all, List.append_nil]
        exact Buffer.lines_insert_end plain body

theorem put_lines (read : pane.registers.get pane.register = reg) (line : reg.kind = .line)
    (whole : reg.Whole) (short : putSize reg * max count 1 ≤ longestRepeat) :
    pane.put after count = { pane with register := none }.putLines reg after (max count 1) := by
  unfold put
  dsimp only
  rw [read, whole.isEmpty line, if_neg (Nat.not_lt.2 short), line]
  rfl

theorem runNormal_put (pane : Pane) (after : Bool) :
    pane.runNormal (if after then .putAfter else .putBefore) =
      pane.takeCount.2.put after (pane.count.getD 1) := by
  cases after <;> rfl

theorem Reached.puts_lines (reached : Reached pane) (takes : pane.TakesCommands) (rests : pane.pending = none)
    (found : Keymap.findOrMotion? Keymap.normal key = some (if after then .putAfter else .putBefore))
    (read : pane.registers.get pane.register = reg) (line : reg.kind = .line) (whole : reg.Whole)
    (short : putSize reg * max (pane.count.getD 1) 1 ≤ longestRepeat)
    (plain : '\r' ∉ pane.buffer.text) (plainReg : '\r' ∉ reg.text) :
    ∃ next, Handles pane [key] next ∧
      next.buffer.lines =
        pane.buffer.lines.take (pane.linesAbove after) ++
          (List.replicate (max (pane.count.getD 1) 1) reg.lines).flatten ++
            pane.buffer.lines.drop (pane.linesAbove after) := by
  have digit := Keymap.countDigit?_of_findOrMotion? found (by cases after <;> nofun)
  have handed := dispatchWith_command (takes.record key) rests (digit _) found (by cases after <;> nofun)
  obtain ⟨less, times⟩ : ∃ less, max (pane.count.getD 1) 1 = less + 1 :=
    ⟨max (pane.count.getD 1) 1 - 1, by omega⟩
  have puts : (pane.record key).takeCount.2.put after (pane.count.getD 1) =
      { (pane.record key).takeCount.2 with register := none }.putLines reg after (less + 1) := by
    rw [← times]
    exact put_lines read line whole short
  refine ⟨_, .one handed, ?_⟩
  rw [lines_settle, runNormal_put, show (pane.record key).count = pane.count from rfl, puts, times]
  exact lines_putLines reached.settled.line line whole plain plainReg

end Lines

/-- Registers of lines hold whole lines.  As long as no text of another shape is appended to lines without a line
feed at its end, every register of lines ends in a line feed, and only such a text can change that.  In a text
without carriage returns, putting such a register leaves all lines as they are, and adds those of the register as
often as the count says. -/
theorem Reached.puts_whole_lines (reached : Reached pane) :
    (∃ stores, Stored stores pane) ∧
      ∀ {stores : List Store}, Stored stores pane → Registers.unfrayed {} stores = true →
        pane.registers.Whole ∧
        (∀ store, (pane.registers.after store).Whole ↔ pane.registers.frays store = false) ∧
        ∀ {key : Key} {after : Bool} {reg : Register}, pane.TakesCommands → pane.pending = none →
          Keymap.findOrMotion? Keymap.normal key = some (if after then .putAfter else .putBefore) →
          pane.registers.get pane.register = reg → reg.kind = .line →
          putSize reg * max (pane.count.getD 1) 1 ≤ longestRepeat →
          '\r' ∉ pane.buffer.text → '\r' ∉ reg.text →
            ∃ next, Handles pane [key] next ∧
              next.buffer.lines =
                pane.buffer.lines.take (pane.linesAbove after) ++
                  (List.replicate (max (pane.count.getD 1) 1) reg.lines).flatten ++
                    pane.buffer.lines.drop (pane.linesAbove after) ∧
              (Plain reg.text → reg.lines = reg.rows) := by
  refine ⟨reached.stored, fun {stores} stored unfrayed => ?_⟩
  have whole : pane.registers.Whole := by
    rw [stored.registers]
    exact Registers.whole_empty.run unfrayed
  refine ⟨whole, fun _ => whole.after_iff, ?_⟩
  intro key after reg takes rests found read line short plain plainReg
  have wholeReg : reg.Whole := read ▸ whole pane.register
  obtain ⟨next, handles, lines⟩ :=
    reached.puts_lines takes rests found read line wholeReg short plain plainReg
  exact ⟨next, handles, lines, Register.lines_eq_rows line⟩

/-- A line is yanked to the end of a register and put twice. -/
theorem puts_whole_lines_appended :
    let pane := typedInto "one\ntwo".toList [.char '"', .char 'A', .char 'y', .char 'y', .char '2']
    Reached pane ∧ pane.TakesCommands ∧ pane.registers.Whole ∧
      ∃ next, Handles pane [.char 'p'] next ∧
        next.buffer.lines = ["one".toList, "one".toList, "one".toList, "two".toList] := by
  intro pane
  have stored : Stored [⟨some 'A', .line, "one\n".toList⟩] pane :=
    (((((Stored.start (.ofText "one\ntwo".toList) {} 20 5).handleKey (.char '"') []
      (by decide +kernel) (by decide +kernel)).handleKey (.char 'A') []
      (by decide +kernel) (by decide +kernel)).handleKey (.char 'y') []
      (by decide +kernel) (by decide +kernel)).handleKey (.char 'y') [⟨some 'A', .line, "one\n".toList⟩]
      (by decide +kernel) (by decide +kernel)).handleKey (.char '2') []
      (by decide +kernel) (by decide +kernel)
  have reached : Reached pane := reached_typedInto _ _
  obtain ⟨whole, -, puts⟩ := reached.puts_whole_lines.2 stored (by decide +kernel)
  have takes : pane.TakesCommands := ⟨by decide +kernel, by decide +kernel⟩
  have found : Keymap.findOrMotion? Keymap.normal (.char 'p') =
      some (if true then .putAfter else .putBefore) := rfl
  obtain ⟨next, handles, lines, -⟩ := puts takes (by decide +kernel) found rfl (by decide +kernel)
    (by decide +kernel) (by decide +kernel) (by decide +kernel)
  refine ⟨reached, takes, whole, next, handles, lines.trans ?_⟩
  decide +kernel

/-- A word appended to a line leaves the line open, and what is put joins the line below. -/
theorem puts_open_line :
    let pane := typedInto "one\ntwo".toList
      [.char '"', .char 'a', .char 'y', .char 'y', .char '"', .char 'A', .char 'y', .char 'i', .char 'w']
    Reached pane ∧ pane.registers.get (some 'a') = ⟨"one\none".toList, .line⟩ ∧
      (pane.handleKeys [.char '"', .char 'a', .char 'P']).buffer.lines =
        ["one".toList, "oneone".toList, "two".toList] := by
  intro pane
  exact ⟨reached_typedInto _ _, by decide +kernel, by decide +kernel⟩

end Pane

end ModalPanes
