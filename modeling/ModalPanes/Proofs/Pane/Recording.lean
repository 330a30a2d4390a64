import ModalPanes.Proofs.History.Travel
import ModalPanes.Proofs.Pane.Reaching

/-!
# Every key is recorded faithfully

In a plain text an edit stands in the history under exactly the position and the text that take it back.
So the history of a pane tracks its text through everything that a key can do, as long as no key repeats
the last change: edits go into the step under way, settling commits it, and going back or forth only moves
along the steps.
-/

namespace ModalPanes

theorem plain_of_spells {text : List Char} (spells : Alphabet.plain.Spells text) : Plain text := spells

theorem cut_between {α : Type} (text : List α) {i j : Nat} (le : i ≤ j) :
    text = text.take i ++ (text.take j).drop i ++ text.drop j := by
  have front : (text.take j).take i = text.take i := by rw [List.take_take, Nat.min_eq_left le]
  rw [← front, List.take_append_drop, List.take_append_drop]

namespace Pane

open History (Tracks)

variable {texts : Nat → List Char} {base : List Char} {origin pane next : Pane}

/-- The history of a pane tracks its text. -/
def Recorded (texts : Nat → List Char) (base : List Char) (pane : Pane) : Prop :=
  Tracks texts pane.history base pane.buffer.text

section Edits

variable (recorded : pane.Recorded texts base)
include recorded

theorem Recorded.beginChange :
    pane.beginChange.Recorded texts base ∧ pane.beginChange.history.current ≠ none ∧
      pane.beginChange.history.lastId = pane.history.lastId ∧
        pane.beginChange.buffer = pane.buffer := by
  unfold Pane.beginChange
  dsimp only
  split
  · rename_i isOpen
    refine ⟨recorded, ?_, rfl, rfl⟩
    change pane.history.current ≠ none
    simpa [History.isOpen, Option.isSome_iff_ne_none] using isOpen
  · rename_i closed
    have closed : pane.history.current = none := by simpa [History.isOpen] using closed
    have started := recorded.start closed pane.cursor.pos
    refine ⟨started, ?_, ?_, rfl⟩
    · simp [markChange, History.start]
    · simp [markChange, History.start, History.commit, closed]

theorem Recorded.edit {edit : Edit} {after : List Char}
    (turns : edit.Turns pane.buffer.text after) (plain : Plain after) :
    Tracks texts (pane.beginChange.history.record edit) base after ∧
      (pane.beginChange.history.record edit).lastId = pane.history.lastId := by
  obtain ⟨begun, isOpen, lastId, buffer⟩ := recorded.beginChange
  rw [← buffer] at turns
  refine ⟨begun.record isOpen turns plain, ?_⟩
  rw [← lastId]
  unfold History.record
  split <;> rfl

theorem Recorded.insertText (pos : Position) {text : List Char} (plain : Plain text) :
    (pane.insertText pos text).Recorded texts base ∧
      (pane.insertText pos text).history.lastId = pane.history.lastId := by
  have textPlain : Plain pane.buffer.text := Tracks.plain recorded
  have cut := (List.take_append_drop (pane.buffer.index pos) pane.buffer.text).symm
  have place : pane.inside pos = Edit.stopOf .zero (pane.buffer.text.take (pane.buffer.index pos)) :=
    Buffer.positionOf_eq_stopOf textPlain (pane.buffer.index_le_length pos)
  have inserted := Buffer.text_insert textPlain cut text
  have turns := Edit.Turns.insert (pane.buffer.text.take (pane.buffer.index pos)) text
    (pane.buffer.text.drop (pane.buffer.index pos))
  rw [← place] at inserted turns
  rw [← cut] at turns
  have after := fun n => Plain.append_iff.2
    ⟨Plain.append_iff.2 ⟨textPlain.take n, plain⟩, textPlain.drop n⟩
  obtain ⟨tracks, lastId⟩ := recorded.edit turns (after _)
  unfold Pane.insertText
  split
  · exact ⟨recorded, rfl⟩
  · refine ⟨?_, lastId⟩
    change Tracks texts _ base (pane.beginChange.buffer.insert (pane.inside pos) text).text
    rw [recorded.beginChange.2.2.2, inserted]
    exact tracks

theorem Recorded.eraseRange (range : Range) :
    (pane.eraseRange range).Recorded texts base ∧
      (pane.eraseRange range).history.lastId = pane.history.lastId := by
  have textPlain : Plain pane.buffer.text := Tracks.plain recorded
  have place : pane.inside range.start =
      Edit.stopOf .zero (pane.buffer.text.take (pane.buffer.index range.start)) :=
    Buffer.positionOf_eq_stopOf textPlain (pane.buffer.index_le_length range.start)
  have taken : pane.buffer.slice ⟨pane.inside range.start, pane.inside range.stop⟩ =
      (pane.buffer.text.take (pane.buffer.index range.stop)).drop
        (pane.buffer.index range.start) := by
    simp only [Buffer.slice, index_inside]
  obtain ⟨begun, isOpen, lastId, buffer⟩ := recorded.beginChange
  unfold Pane.eraseRange
  dsimp only
  split
  · exact ⟨recorded, rfl⟩
  · rw [taken, buffer]
    rcases Nat.lt_or_ge (pane.buffer.index range.start) (pane.buffer.index range.stop) with lt | ge
    · have cut := cut_between pane.buffer.text (Nat.le_of_lt lt)
      have turns := Edit.Turns.erase (pane.buffer.text.take (pane.buffer.index range.start))
        ((pane.buffer.text.take (pane.buffer.index range.stop)).drop (pane.buffer.index range.start))
        (pane.buffer.text.drop (pane.buffer.index range.stop))
      rw [← place, ← cut] at turns
      have after := fun n m => Plain.append_iff.2 ⟨textPlain.take n, textPlain.drop m⟩
      obtain ⟨tracks, lastId⟩ := recorded.edit turns (after _ _)
      refine ⟨?_, lastId⟩
      simpa [Recorded, Buffer.erase, index_inside, Nat.not_le.2 lt] using tracks
    · have nothing : (pane.buffer.text.take (pane.buffer.index range.stop)).drop
          (pane.buffer.index range.start) = [] := by
        rw [List.drop_eq_nil_iff, List.length_take]
        omega
      rw [nothing]
      refine ⟨?_, lastId⟩
      simpa [Recorded, Buffer.erase, index_inside, ge, History.record, Edit.text, buffer] using begun

end Edits

theorem Edits.recorded (edits : Edits .plain origin pane) (recorded : origin.Recorded texts base) :
    pane.Recorded texts base ∧ pane.history.lastId = origin.history.lastId := by
  induction edits with
  | refl spelled => exact ⟨recorded, rfl⟩
  | insert edits pos known ih =>
      obtain ⟨inserted, lastId⟩ := ih.1.insertText pos (plain_of_spells known)
      exact ⟨inserted, lastId.trans ih.2⟩
  | erase edits range ih =>
      obtain ⟨erased, lastId⟩ := ih.1.eraseRange range
      exact ⟨erased, lastId.trans ih.2⟩
  | store edits name kind known ih => exact ih
  | revise edits change known ih => exact ih
  | remember edits last known ih => exact ih
  | @tidy pane next edits same ih =>
      have history : next.history = pane.history := (congrArg Pane.history same :)
      have buffer : next.buffer = pane.buffer := (congrArg Pane.buffer same :)
      rw [Recorded, history, buffer]
      exact ih

theorem Acts.recorded (acts : Acts .plain origin pane) (recorded : origin.Recorded texts base) :
    pane.Recorded texts base ∧ pane.history.lastId = origin.history.lastId := by
  induction acts with
  | edits edits => exact edits.recorded recorded
  | more acts edits ih =>
      obtain ⟨edited, lastId⟩ := edits.recorded ih.1
      exact ⟨edited, lastId.trans ih.2⟩
  | steers acts steers spelled ih =>
      rw [Recorded, steers.history, steers.buffer]
      exact ih

section Travel

variable {step : History → Buffer → Option Position × History × Buffer}
  {move : History → Nat → History} (way : History.Way step move)
include way

theorem travel_tracks (count : Nat) (reached : Option Position × History × Buffer)
    (closed : reached.2.1.current = none)
    (tracks : Tracks texts reached.2.1 reached.2.2.text reached.2.2.text) :
    (travel step count reached).2.1 = move reached.2.1 count ∧
      Tracks texts (move reached.2.1 count) (travel step count reached).2.2.text
        (travel step count reached).2.2.text := by
  induction count generalizing reached with
  | zero =>
      rw [way.zero]
      exact ⟨rfl, tracks⟩
  | succ count ih =>
      have taken := way.taken reached.2.2 closed
      have tracksAfter := way.tracks closed tracks
      unfold travel
      split
      · rename_i pos history buffer event
        rw [event] at taken tracksAfter
        obtain rfl : history = move reached.2.1 1 := taken
        have later := ih (some pos, move reached.2.1 1, buffer)
          ((way.current _ 1).trans closed) tracksAfter
        dsimp only at later
        rwa [way.add, Nat.add_comm 1 count] at later
      · rename_i history buffer event
        obtain ⟨same, stays⟩ := way.stuck reached.2.2 closed (by rw [event])
        have unmoved : (history, buffer) = reached.2 := congrArg Prod.snd (event.symm.trans same)
        obtain ⟨rfl, rfl⟩ := Prod.mk.inj unmoved
        rw [stays]
        exact ⟨rfl, tracks⟩

/-- Going back or forth in the history leads where the way does, and the pane is recorded there. -/
theorem Recorded.revisit (recorded : pane.Recorded texts base)
    (closed : pane.history.current = none) (count : Nat) :
    (pane.revisit step count).history = move pane.history (max count 1) ∧
      (pane.revisit step count).Recorded texts (pane.revisit step count).buffer.text := by
  obtain rfl := Tracks.closed recorded closed
  obtain ⟨led, tracks⟩ := travel_tracks way (max count 1) (none, pane.history, pane.buffer) closed
    recorded
  rw [← led] at tracks
  unfold Pane.revisit Recorded
  dsimp only
  split
  · rw [syncModified_eq]
    exact ⟨led, tracks⟩
  · exact ⟨led, tracks⟩

/-- Where no step can be taken, nothing changes. -/
theorem revisit_of_stuck (closed : pane.history.current = none)
    (refused : (step pane.history pane.buffer).1 = none) (count : Nat) :
    pane.revisit step count = pane := by
  obtain ⟨same, -⟩ := way.stuck pane.buffer closed refused
  have stays : travel step (max count 1) (none, pane.history, pane.buffer) =
      (none, pane.history, pane.buffer) := by
    obtain ⟨less, eq⟩ : ∃ less, max count 1 = less + 1 := ⟨max count 1 - 1, by omega⟩
    rw [eq]
    unfold travel
    simp only [same]
  unfold Pane.revisit
  dsimp only
  rw [stays]

end Travel

/-- The parts of a pane that going back or forth changes. -/
theorem revisit_eq (pane : Pane)
    (step : History → Buffer → Option Position × History × Buffer) (count : Nat) :
    pane.revisit step count =
      { pane with
        history := (pane.revisit step count).history
        buffer := (pane.revisit step count).buffer
        cursor := (pane.revisit step count).cursor } := by
  unfold Pane.revisit
  dsimp only
  split
  · rw [syncModified_eq]
    rfl
  · rfl

theorem closing_revisit (pane : Pane) (step : History → Buffer → Option Position × History × Buffer)
    (count : Nat) : (pane.revisit step count).closing = pane.closing := by
  rw [revisit_eq]

/-- The parts of a pane that a command that writes or closes changes. -/
theorem execute_file_eq {command : ExCommand} (file : command.isFile = true) :
    pane.execute command =
      { pane with
        savedId := (pane.execute command).savedId
        buffer := { pane.buffer with modified := (pane.execute command).buffer.modified }
        message := (pane.execute command).message
        closing := (pane.execute command).closing } := by
  cases command <;> first | (cases file; done) | skip
  case write | forceQuit | writeQuit => rfl
  case quit | exitSave =>
    unfold Pane.execute
    dsimp only
    split <;> rfl

end Pane

end ModalPanes
