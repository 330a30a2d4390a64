import ModalPanes.Proofs.Pane.Faithful

/-!
# A clean pane shows what was written

Whether a pane was changed is decided by the number of the newest step done and the one at the last write.
Numbers are never given out twice, and in between edits raise the flag of the buffer; so a pane that counts
as unchanged shows the text that was written last, and it asks to be closed unsaved only by force.
-/

namespace ModalPanes

/-- The commands that write, if there is anything to write. -/
def ExCommand.writes : ExCommand → Bool
  | write | writeQuit | exitSave => true
  | _ => false

namespace Pane

open History (Tracks textsAfter)

variable {alphabet : Alphabet} {texts : Nat → List Char} {written : List Char}
  {origin pane next : Pane} {key : Key}

section Edits

theorem unmodified_insert {buf : Buffer} {pos : Position} {text : List Char}
    (unmodified : (buf.insert pos text).modified = false) :
    buf.modified = false ∧ (buf.insert pos text).text = buf.text := by
  unfold Buffer.insert at unmodified ⊢
  split at unmodified
  · rename_i empty
    rw [if_pos empty]
    exact ⟨unmodified, rfl⟩
  · contradiction

theorem unmodified_erase {buf : Buffer} {range : Range}
    (unmodified : (buf.erase range).modified = false) :
    buf.modified = false ∧ (buf.erase range).text = buf.text := by
  unfold Buffer.erase at unmodified ⊢
  dsimp only at unmodified ⊢
  split at unmodified
  · rename_i none
    rw [if_pos none]
    exact ⟨unmodified, rfl⟩
  · contradiction

/-- Edits that leave the buffer unchanged in name did not change its text. -/
theorem Edits.unmodified (edits : Edits alphabet origin pane)
    (unmodified : pane.buffer.modified = false) :
    origin.buffer.modified = false ∧ pane.buffer.text = origin.buffer.text := by
  induction edits with
  | refl spelled => exact ⟨unmodified, rfl⟩
  | @insert pane edits pos text known ih =>
      obtain ⟨history, recorder, eq⟩ := insertText_eq pane pos text
      rw [eq] at unmodified ⊢
      obtain ⟨before, same⟩ := unmodified_insert unmodified
      exact ⟨(ih before).1, same.trans (ih before).2⟩
  | @erase pane edits range ih =>
      obtain ⟨history, recorder, eq⟩ := eraseRange_eq pane range
      rw [eq] at unmodified ⊢
      obtain ⟨before, same⟩ := unmodified_erase unmodified
      exact ⟨(ih before).1, same.trans (ih before).2⟩
  | store edits name kind known ih => exact ih unmodified
  | revise edits change known ih => exact ih unmodified
  | remember edits last known ih => exact ih unmodified
  | @tidy pane next edits same ih =>
      have buffer : next.buffer = pane.buffer := (congrArg Pane.buffer same :)
      rw [buffer] at unmodified ⊢
      exact ih unmodified

/-- What a key that acts on the text leaves of the file. -/
theorem Acts.unmodified (acts : Acts alphabet origin pane) :
    pane.savedId = origin.savedId ∧ pane.closing = origin.closing ∧
      (pane.buffer.modified = false →
        origin.buffer.modified = false ∧ pane.buffer.text = origin.buffer.text) := by
  induction acts with
  | edits edits => exact ⟨edits.keeps.savedId, edits.keeps.closing, edits.unmodified⟩
  | more acts edits ih =>
      obtain ⟨savedId, closing, unmodified⟩ := ih
      refine ⟨edits.keeps.savedId.trans savedId, edits.keeps.closing.trans closing, fun clean => ?_⟩
      obtain ⟨before, same⟩ := edits.unmodified clean
      exact ⟨(unmodified before).1, same.trans (unmodified before).2⟩
  | steers acts steers spelled ih =>
      obtain ⟨savedId, closing, unmodified⟩ := ih
      refine ⟨steers.savedId.trans savedId, steers.closing.trans closing, ?_⟩
      rw [steers.buffer]
      exact unmodified

end Edits

/-- The text written last once a key has been handled that leaves a text: that text, if the key completes
a command that writes. -/
def writtenAfter (pane : Pane) (key : Key) (text written : List Char) : List Char :=
  match pane.completed? key with
  | some command => if command.writes then text else written
  | none => written

/-- The pane is faithful and knows the text that was written last. -/
structure Saved (texts : Nat → List Char) (written : List Char) (pane : Pane) : Prop
    extends Faithful texts pane where
  savedId_le : pane.savedId ≤ pane.history.lastId
  saved : texts pane.savedId = written
  clean : pane.isDirty = false → pane.buffer.text = written

theorem saved_showing {buffer : Buffer} (plain : Plain buffer.text) (options : Options)
    (width height : Nat) :
    (showing buffer options width height).Saved (fun _ => buffer.text) buffer.text where
  toFaithful := faithful_showing plain options width height
  savedId_le := Nat.zero_le _
  saved := rfl
  clean _ := rfl

theorem Saved.reframe (saved : Saved texts written pane) (recorder : Recorder)
    (width height : Nat) (view : View) (closing : Bool) :
    Saved texts written
      { pane with
        recorder := recorder
        width := width
        height := height
        view := view
        closing := closing } where
  toFaithful := saved.toFaithful.reframe recorder width height view closing
  savedId_le := saved.savedId_le
  saved := saved.saved
  clean := saved.clean

/-- What is known of the file before a pane settles; `written` is the text written last. -/
structure Files (texts : Nat → List Char) (written : List Char) (origin next : Pane) : Prop where
  savedId_le : next.savedId ≤ origin.history.lastId
  saved : texts next.savedId = written
  clean : next.history.isOpen = true → next.isDirty = false → next.buffer.text = written

theorem stateId_le {base text : List Char} {history : History}
    (tracks : Tracks texts history base text) : history.stateId ≤ history.lastId := by
  unfold History.stateId
  cases newest : history.done with
  | nil => exact Nat.zero_le _
  | cons step rest => exact tracks.numbered step (by simp [newest])

theorem AtRest.completed? (rest : pane.AtRest) (key : Key) : pane.completed? key = none :=
  completed?_of_pending rest.prompt (by simp [rest.pending])

theorem writtenAfter_of_none (completed : pane.completed? key = none) (text : List Char) :
    pane.writtenAfter key text written = written := by
  unfold writtenAfter
  rw [completed]

theorem writtenAfter_of_some {command : ExCommand} (completed : pane.completed? key = some command)
    (text : List Char) :
    pane.writtenAfter key text written = if command.writes then text else written := by
  unfold writtenAfter
  rw [completed]

theorem writes_of_not_file {command : ExCommand} (notFile : command.isFile = false) :
    command.writes = false := by
  cases command <;> first | rfl | contradiction

/-- Where no step is under way, nothing more has to be known of the flag. -/
theorem Files.of_closed (le : next.savedId ≤ origin.history.lastId)
    (saved : texts next.savedId = written) (closed : next.history.current = none) :
    Files texts written origin next :=
  ⟨le, saved, fun isOpen => by simp [History.isOpen, closed] at isOpen⟩

/-- Going back or forth leaves the file alone. -/
theorem Saved.revisit (saved : Saved texts written pane) (rest : pane.AtRest)
    {step : History → Buffer → Option Position × History × Buffer}
    {move : History → Nat → History} (way : History.Way step move) (count : Nat) :
    Files texts written pane (pane.dropCount.revisit step count) := by
  have closed : pane.history.current = none := saved.current (by rw [rest.mode]; rfl)
  have eq := revisit_eq pane.dropCount step count
  have savedId : (pane.dropCount.revisit step count).savedId = pane.savedId :=
    (congrArg Pane.savedId eq :)
  obtain ⟨base, recorded⟩ := saved.recorded
  have dropped : pane.dropCount.Recorded texts base := recorded
  obtain ⟨led, -⟩ := dropped.revisit way closed count
  refine .of_closed (savedId ▸ saved.savedId_le) (savedId ▸ saved.saved) ?_
  exact (congrArg History.current led).trans ((way.current _ _).trans closed)

/-- A command that writes knows the text that it writes, and one that only closes leaves it at that. -/
theorem Saved.execute (saved : Saved texts written pane) (idle : pane.mode.cursorPastEnd = false)
    (steers : pane.Steers next) {command : ExCommand} (file : command.isFile = true) :
    Files texts (if command.writes then next.buffer.text else written) pane
      (next.execute command) := by
  have closed := saved.current idle
  obtain ⟨base, recorded⟩ := saved.recorded
  obtain rfl := Tracks.closed recorded closed
  have present : texts next.history.stateId = next.buffer.text := by
    rw [steers.history, steers.buffer, (Tracks.done recorded).eq_texts_stateId]
  have le : next.history.stateId ≤ pane.history.lastId := by
    rw [steers.history]
    exact stateId_le recorded
  have kept : Files texts written pane next :=
    .of_closed (steers.savedId ▸ saved.savedId_le) (steers.savedId ▸ saved.saved)
      (steers.history ▸ closed)
  have closed : next.history.current = none := steers.history ▸ closed
  cases command <;> first | (cases file; done) | skip
  case write | writeQuit => exact .of_closed le present closed
  case forceQuit => exact { kept with }
  case quit =>
    cases dirty : next.isDirty <;> simp only [Pane.execute, dirty]
    · exact { kept with }
    · exact { kept with }
  case exitSave =>
    cases dirty : next.isDirty <;> simp only [Pane.execute, dirty]
    · have text : next.buffer.text = written := by
        rw [Pane.isDirty, steers.buffer] at dirty
        rw [steers.buffer]
        exact saved.clean dirty
      exact .of_closed kept.savedId_le (kept.saved.trans text.symm) closed
    · exact .of_closed le present closed

theorem Saved.turn (saved : Saved texts written pane) (turn : Turn .plain key pane next) :
    Files texts (pane.writtenAfter key next.buffer.text written) pane next := by
  cases turn with
  | acts acts other =>
      obtain ⟨savedId, -, unmodified⟩ := acts.unmodified
      have same : pane.writtenAfter key next.buffer.text written = written := by
        unfold writtenAfter
        split
        · rename_i command completed
          rw [writes_of_not_file (other command completed)]
          rfl
        · rfl
      rw [same]
      refine ⟨savedId ▸ saved.savedId_le, savedId ▸ saved.saved, fun _ clean => ?_⟩
      obtain ⟨before, text⟩ := unmodified clean
      exact text.trans (saved.clean before)
  | undo rest count =>
      rw [writtenAfter_of_none (rest.completed? key)]
      exact saved.revisit rest History.undo_way count
  | redo rest count =>
      rw [writtenAfter_of_none (rest.completed? key)]
      exact saved.revisit rest History.redo_way count
  | @executes middle steers spelled idle command completed file =>
      rw [writtenAfter_of_some completed, (execute_file_keeps middle file).1]
      exact saved.execute idle steers file

/-- A turn that asks to be closed completes a command, and unless that is by force, the text is the one
written last. -/
theorem Saved.closing_turn (saved : Saved texts written pane) (opened : pane.closing = false)
    (turn : Turn .plain key pane next) (closing : next.closing = true) :
    ∃ command, pane.completed? key = some command ∧
      (command = .forceQuit ∨
        next.buffer.text = pane.writtenAfter key next.buffer.text written) := by
  cases turn with
  | acts acts other =>
      rw [acts.unmodified.2.1, opened] at closing
      contradiction
  | undo rest count =>
      have same : (pane.dropCount.undo count).closing = pane.closing :=
        closing_revisit pane.dropCount History.undo count
      rw [same, opened] at closing
      contradiction
  | redo rest count =>
      have same : (pane.dropCount.redo count).closing = pane.closing :=
        closing_revisit pane.dropCount History.redo count
      rw [same, opened] at closing
      contradiction
  | @executes middle steers spelled idle command completed file =>
      refine ⟨command, completed, ?_⟩
      rw [writtenAfter_of_some completed, (execute_file_keeps middle file).1]
      have opened : middle.closing = false := steers.closing.trans opened
      cases command <;> first | (cases file; done) | skip
      case forceQuit => exact .inl rfl
      case writeQuit | exitSave => exact .inr rfl
      case write =>
        rw [show (middle.execute .write).closing = middle.closing from rfl, opened] at closing
        contradiction
      case quit =>
        cases dirty : middle.isDirty <;> simp only [Pane.execute, dirty] at closing
        · rw [isDirty, steers.buffer] at dirty
          rw [steers.buffer]
          exact .inr (saved.clean dirty)
        · exact absurd (opened.symm.trans closing) Bool.false_ne_true

theorem settle_text (pane : Pane) : (settle pane).buffer.text = pane.buffer.text := by
  obtain ⟨recorder, view, eq, -⟩ := settle_eq pane
  rw [eq]

/-- Settling marks a pane as unchanged only at the text that was written last. -/
theorem Files.settles {origin : Pane} (files : Files texts written origin next)
    (arrives : Arrives texts key origin next) :
    (settle next).Saved
      (textsAfter texts origin.history (settle next).history (settle next).buffer.text) written := by
  have faithful := arrives.settles
  have kept := arrives.textsAfter_of_le files.savedId_le
  have given := arrives.lastId_settle
  obtain ⟨recorder, view, eq, -⟩ := settle_eq next
  generalize textsAfter texts _ _ _ = known at faithful kept ⊢
  rw [eq] at faithful given ⊢
  refine { faithful with savedId_le := ?_, saved := kept.trans files.saved, clean := ?_ }
  · have le := files.savedId_le
    dsimp only at given ⊢
    omega
  · intro unmodified
    dsimp only [isDirty] at unmodified ⊢
    split at unmodified
    · rename_i isOpen
      have same : next.settledHistory = next.history := by
        unfold settledHistory
        rw [settledHistory_isOpen isOpen]
        rfl
      exact files.clean (same ▸ isOpen) unmodified
    · -- equal numbers name equal texts, as no number is given out twice
      rename_i closed
      have current := History.current_of_not_open (by simpa using closed)
      obtain ⟨base, recorded⟩ := faithful.recorded
      obtain rfl := Tracks.closed recorded current
      rw [(Tracks.done recorded).eq_texts_stateId,
        show next.settledHistory.stateId = next.savedId by simpa using unmodified]
      exact kept.trans files.saved

section Key

variable (saved : Saved texts written pane) (known : key.Known .plain)
  (never : pane.runsRepeat key = false)
include saved known never

/-- What a plain key comes to that does not repeat the last change. -/
theorem Saved.recording :
    ∃ next, pane.handleKey key = settle next ∧ Arrives texts key (pane.record key) next ∧
      Saved texts written (pane.record key) := by
  obtain ⟨next, handled, arrives⟩ := saved.arrives known never
  exact ⟨next, handled, arrives, saved.reframe _ pane.width pane.height pane.view pane.closing⟩

/-- The pane goes on to know the text that was written last. -/
theorem Saved.handleKey :
    ∃ texts, (pane.handleKey key).Saved texts
      (pane.writtenAfter key (pane.handleKey key).buffer.text written) := by
  obtain ⟨next, handled, arrives, recording⟩ := saved.recording known never
  rw [handled, settle_text]
  exact ⟨_, (recording.turn arrives.turn).settles arrives⟩

/-- A key on which the pane asks to be closed completes a command, and unless that is by force, the text
is the one written last. -/
theorem Saved.closing (opened : pane.closing = false)
    (closing : (pane.handleKey key).closing = true) :
    ∃ command, pane.completed? key = some command ∧
      (command = .forceQuit ∨ (pane.handleKey key).buffer.text =
        pane.writtenAfter key (pane.handleKey key).buffer.text written) := by
  obtain ⟨next, handled, arrives, recording⟩ := saved.recording known never
  obtain ⟨recorder, view, eq, -⟩ := settle_eq next
  have same : (settle next).closing = next.closing := (congrArg Pane.closing eq :)
  rw [handled, same] at closing
  rw [handled, settle_text]
  exact recording.closing_turn opened arrives.turn closing

end Key

/-- Ctrl-B completes no command line. -/
theorem completed?_ctrl_b (pane : Pane) : pane.completed? (.ctrl 'b') = none := by
  unfold completed?
  split
  · rename_i state prompt
    have pending : (state.prompt.handleKey (.ctrl 'b')).2 = .pending := by
      simp [Prompt.handleKey, Key.isCtrl, Key.ctrl, Key.typed?]
    rw [pending]
    split <;> simp_all
  · have noKey : Keymap.find? Keymap.afterZ (.ctrl 'b') = none := by decide
    rw [noKey]
    split <;> simp_all

end Pane

end ModalPanes
