import ModalPanes.Proofs.Pane.Spelling
import ModalPanes.Proofs.Text.Place

/-!
# What commands are made of

A command edits the text, stores texts in registers, revises the typing under way, and does small things
that come and go: it moves the cursor, scrolls, or says something.  Whatever is made of these alone leaves
the mode, the prompt, the pending key and the selection as they were, and stays in the alphabet of the
texts that the pane knows.
-/

namespace ModalPanes

/-- What was typed, and what it replaced, is spelled in an alphabet. -/
structure InsertSession.Spelled (alphabet : Alphabet) (session : InsertSession) : Prop where
  typed : alphabet.Spells session.typed
  replaced : ∀ old ∈ session.replaced, ∀ c ∈ old, alphabet.Has c

namespace Pane

/-- Every text that a pane may write is spelled in an alphabet. -/
structure Spelled (alphabet : Alphabet) (pane : Pane) : Prop where
  text : alphabet.Spells pane.buffer.text
  registers : pane.registers.Spelled alphabet
  insert : ∀ session ∈ pane.insert, session.Spelled alphabet
  prompt : ∀ state ∈ pane.prompt, alphabet.Spells state.prompt.line.text
  replacement : ∀ last ∈ pane.lastSubstitute, alphabet.Spells last.replacement

/-- A pane without what comes and goes: where the cursor stands, what is shown and searched for, and what
of a command has been typed or recorded. -/
def bare (pane : Pane) : Pane :=
  { pane with
    cursor := ⟨.zero, .column 0, pane.cursor.anchor⟩
    search := {}
    view := {}
    count := none
    register := none
    message := none
    lastFind := none
    recorder := {}
    lastVisual := none }

/-- Panes reached from a pane by edits and by what comes and goes. -/
inductive Edits (alphabet : Alphabet) (origin : Pane) : Pane → Prop where
  | refl (spelled : origin.Spelled alphabet) : Edits alphabet origin origin
  | insert {pane : Pane} (edits : Edits alphabet origin pane) (pos : Position) {text : List Char}
      (known : alphabet.Spells text) : Edits alphabet origin (pane.insertText pos text)
  | erase {pane : Pane} (edits : Edits alphabet origin pane) (range : Range) :
      Edits alphabet origin (pane.eraseRange range)
  | store {pane : Pane} (edits : Edits alphabet origin pane) (name : Option Char)
      (kind : RegisterKind) {text : List Char} (known : alphabet.Spells text) :
      Edits alphabet origin (pane.store name kind text)
  | revise {pane : Pane} (edits : Edits alphabet origin pane)
      (change : InsertSession → InsertSession)
      (known : ∀ session : InsertSession,
        session.Spelled alphabet → (change session).Spelled alphabet) :
      Edits alphabet origin (pane.revise change)
  | remember {pane : Pane} (edits : Edits alphabet origin pane) (last : LastSubstitute)
      (known : alphabet.Spells last.replacement) :
      Edits alphabet origin { pane with lastSubstitute := some last }
  | tidy {pane next : Pane} (edits : Edits alphabet origin pane) (same : next.bare = pane.bare) :
      Edits alphabet origin next

/-- What edits leave as it was. -/
structure Keeps (origin pane : Pane) : Prop where
  mode : pane.mode = origin.mode
  prompt : pane.prompt = origin.prompt
  pending : pane.pending = origin.pending
  insert : pane.insert.isSome = origin.insert.isSome
  anchor : pane.cursor.anchor = origin.cursor.anchor
  savedId : pane.savedId = origin.savedId
  closing : pane.closing = origin.closing
  size : pane.size = origin.size

variable {alphabet : Alphabet} {origin pane next : Pane}

theorem spelled_bare : pane.bare.Spelled alphabet ↔ pane.Spelled alphabet :=
  ⟨fun spelled => { spelled with }, fun spelled => { spelled with }⟩

theorem keeps_bare : Keeps origin pane.bare ↔ Keeps origin pane :=
  ⟨fun keeps => { keeps with }, fun keeps => { keeps with }⟩

section Bare

variable (pane)

theorem setTop_bare (line : Nat) : (pane.setTop line).bare = pane.bare := rfl

theorem jumpToLine_bare (pastEnd : Bool) (line : Nat) :
    (pane.jumpToLine pastEnd line).bare = pane.bare := rfl

theorem moveCursor_bare {move : Cursor → Cursor}
    (anchor : (move pane.cursor).anchor = pane.cursor.anchor) :
    (pane.moveCursor move).bare = pane.bare := by
  simp only [bare, moveCursor, anchor]

end Bare

section Text

variable (pane) (pos : Position) (range : Range) (text : List Char)

theorem index_inside : pane.buffer.index (pane.inside pos) = pane.buffer.index pos :=
  Buffer.index_positionOf (pane.buffer.index_le_length pos)

/-- Putting text in changes the text, and marks the change. -/
theorem insertText_eq :
    ∃ history recorder, pane.insertText pos text =
      { pane with
        buffer := pane.buffer.insert pos text
        history := history
        recorder := recorder } := by
  have place : pane.buffer.insert (pane.inside pos) text = pane.buffer.insert pos text := by
    simp only [Buffer.insert, index_inside]
  unfold insertText
  split
  · rename_i empty
    exact ⟨pane.history, pane.recorder, by simp [Buffer.insert, empty]⟩
  · rw [← place]
    unfold beginChange markChange
    split <;> exact ⟨_, _, rfl⟩

/-- Taking text out changes the text, and marks the change. -/
theorem eraseRange_eq :
    ∃ history recorder, pane.eraseRange range =
      { pane with
        buffer := pane.buffer.erase range
        history := history
        recorder := recorder } := by
  have place : pane.buffer.erase ⟨pane.inside range.start, pane.inside range.stop⟩ =
      pane.buffer.erase range := by
    simp only [Buffer.erase, index_inside]
  rw [← place]
  unfold eraseRange
  dsimp only
  split
  · rename_i none
    exact ⟨pane.history, pane.recorder, by simp [Buffer.erase, none]⟩
  · unfold beginChange markChange
    split <;> exact ⟨_, _, rfl⟩

end Text

namespace Edits

theorem spelled (edits : Edits alphabet origin pane) : pane.Spelled alphabet := by
  induction edits with
  | refl spelled => exact spelled
  | @insert pane edits pos text known ih =>
      obtain ⟨history, recorder, eq⟩ := insertText_eq pane pos text
      rw [eq]
      exact { ih with text := Buffer.spells_insert ih.text _ known }
  | @erase pane edits range ih =>
      obtain ⟨history, recorder, eq⟩ := eraseRange_eq pane range
      rw [eq]
      exact { ih with text := Buffer.spells_erase ih.text _ }
  | store edits name kind known ih =>
      exact { ih with registers := ih.registers.store name (Registers.spells_of kind known) }
  | revise edits change known ih =>
      refine { ih with insert := fun session mem => ?_ }
      obtain ⟨earlier, earlierMem, rfl⟩ := Option.map_eq_some_iff.1 mem
      exact known earlier (ih.insert earlier earlierMem)
  | remember edits last known ih =>
      refine { ih with replacement := fun other mem => ?_ }
      obtain rfl := Option.mem_some.1 mem
      exact known
  | tidy edits same ih =>
      rw [← spelled_bare] at ih ⊢
      exact same ▸ ih

theorem ite (p : Prop) [Decidable p] (yes : Edits alphabet origin pane)
    (no : Edits alphabet origin next) : Edits alphabet origin (if p then pane else next) := by
  split <;> assumption

theorem keeps (edits : Edits alphabet origin pane) : Keeps origin pane := by
  induction edits with
  | refl spelled => exact ⟨rfl, rfl, rfl, rfl, rfl, rfl, rfl, rfl⟩
  | @insert pane edits pos text known ih =>
      obtain ⟨history, recorder, eq⟩ := insertText_eq pane pos text
      rw [eq]
      exact { ih with }
  | @erase pane edits range ih =>
      obtain ⟨history, recorder, eq⟩ := eraseRange_eq pane range
      rw [eq]
      exact { ih with }
  | store edits name kind known ih => exact { ih with }
  | revise edits change known ih => exact { ih with insert := by simpa [Pane.revise] using ih.insert }
  | remember edits last known ih => exact { ih with }
  | tidy edits same ih =>
      rw [← keeps_bare] at ih ⊢
      exact same ▸ ih

end Edits

end Pane

end ModalPanes
