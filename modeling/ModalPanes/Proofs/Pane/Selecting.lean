import ModalPanes.Proofs.Pane.Landing

/-!
# Commands on a selection

In Visual mode both ends of the selection lie in the text.  A command on the selection leaves the mode
first, so that it starts from a pane at rest; text objects move both ends.
-/

namespace ModalPanes

variable {alphabet : Alphabet}

theorem Buffer.spells_joinRows {rows : List (List Char)}
    (known : ∀ row ∈ rows, alphabet.Spells row) : alphabet.Spells (Pane.joinRows rows) := by
  unfold Pane.joinRows List.intercalate
  induction rows with
  | nil => exact .nil
  | cons row rows ih =>
      obtain ⟨knownRow, knownRows⟩ := List.forall_mem_cons.1 known
      have later := ih knownRows
      cases rows with
      | nil => exact knownRow.append .nil
      | cons next rows => exact knownRow.append (.cons alphabet.newline later)

namespace Pane

/-- A selection with both ends in the text. -/
structure Selecting (pane : Pane) : Prop where
  mode : ∃ kind, pane.mode = .visual kind
  prompt : pane.prompt = none
  insert : pane.insert = none
  anchor : ∃ anchor, pane.cursor.anchor = some anchor ∧ pane.buffer.Admits true anchor
  placed : pane.Placed true

variable {origin pane : Pane}

/-- Visual mode starts at the cursor. -/
theorem AtRest.enterVisual (rest : pane.AtRest) (kind : VisualKind) :
    (pane.enterVisual kind).Selecting where
  mode := ⟨kind, rfl⟩
  prompt := rest.prompt
  insert := rest.insert
  anchor := ⟨pane.cursor.pos, rfl, rest.placed.widen true⟩
  placed := rest.placed.widen true

namespace Selecting

variable (selecting : pane.Selecting)
include selecting

/-- Visual mode is left at a place where the cursor may stand. -/
theorem exitVisual (pending : pane.pending = none) : pane.exitVisual.AtRest := by
  have admits := pane.buffer.admits_nearest false pane.cursor.pos
  unfold Pane.exitVisual
  split
  all_goals
    exact
      { mode := rfl
        prompt := selecting.prompt
        pending := pending
        insert := selecting.insert
        anchor := rfl
        placed := admits }

theorem swapAnchor : (pane.moveCursor Cursor.swapAnchor).Selecting := by
  obtain ⟨anchor, isAnchor, admits⟩ := selecting.anchor
  have swapped : (pane.moveCursor Cursor.swapAnchor).cursor =
      ⟨anchor, .column anchor.col, some pane.cursor.pos⟩ := by
    simp [moveCursor, Cursor.swapAnchor, isAnchor]
  exact
    { mode := selecting.mode
      prompt := selecting.prompt
      insert := selecting.insert
      anchor := ⟨pane.cursor.pos, by rw [swapped], selecting.placed⟩
      placed := by
        rw [Placed, swapped]
        exact admits }

theorem selectObject (object : TextObject) : (pane.selectObject object).Selecting := by
  unfold Pane.selectObject
  split
  · exact selecting
  · rename_i span _
    split
    · exact
        { mode := ⟨.line, rfl⟩
          prompt := selecting.prompt
          insert := selecting.insert
          anchor := ⟨_, rfl, (pane.buffer.admits_nearest false _).widen true⟩
          placed := (pane.buffer.admits_nearest false _).widen true }
    · split
      · exact selecting
      · exact
          { mode := selecting.mode
            prompt := selecting.prompt
            insert := selecting.insert
            anchor := ⟨_, rfl, (pane.buffer.admits_nearest false _).widen true⟩
            placed := pane.buffer.admits_nearest true _ }

/-- Moving the cursor alone, within the text, goes on selecting. -/
theorem after {next : Pane} (same : next.bare = pane.bare) (placed : next.Placed true) :
    next.Selecting := by
  have mode : next.mode = pane.mode := (congrArg Pane.mode same :)
  have prompt : next.prompt = pane.prompt := (congrArg Pane.prompt same :)
  have insert : next.insert = pane.insert := (congrArg Pane.insert same :)
  have buffer : next.buffer = pane.buffer := (congrArg Pane.buffer same :)
  have anchor : next.cursor.anchor = pane.cursor.anchor :=
    (congrArg (fun pane : Pane => pane.cursor.anchor) same :)
  exact
    { mode := mode ▸ selecting.mode
      prompt := prompt.trans selecting.prompt
      insert := insert.trans selecting.insert
      anchor := by
        rw [anchor, buffer]
        exact selecting.anchor
      placed := placed }

theorem selection? : ∃ selection, pane.selection? = some selection := by
  obtain ⟨kind, mode⟩ := selecting.mode
  obtain ⟨anchor, isAnchor, -⟩ := selecting.anchor
  unfold Pane.selection?
  rw [mode, isAnchor]
  cases kind <;> exact ⟨_, rfl⟩

end Selecting

theorem Edits.operateOnBlock (edits : Edits alphabet origin pane) (op : Operator) (block : Block)
    (toLineEnd : Bool) :
    Ends alphabet origin (op = .change) (pane.operateOnBlock op block toLineEnd) := by
  have rows : ∀ lines : List Nat, alphabet.Spells (joinRows (lines.map fun line =>
      pane.buffer.slice (pane.blockRange block toLineEnd line))) := by
    intro lines
    refine Buffer.spells_joinRows fun row mem => ?_
    obtain ⟨line, -, rfl⟩ := List.mem_map.1 mem
    exact Buffer.spells_slice edits.spelled.text _
  have dropped : Edits alphabet origin { pane with register := none } := edits.tidy rfl
  have stored := dropped.store pane.register .block (rows (linesBetween block.top block.bottom))
  have erased : ∀ (lines : List Nat) (other : Pane), Edits alphabet origin other →
      Edits alphabet origin (lines.foldl
        (fun pane line => pane.eraseRange (pane.blockRange block toLineEnd line)) other) := by
    intro lines
    induction lines with
    | nil => exact fun _ edits => edits
    | cons line lines ih => exact fun other edits => ih _ (edits.erase _)
  unfold Pane.operateOnBlock
  cases op with
  | yank => exact .done ((Edits.ite _ (stored.say _) stored).jump false _)
  | delete => exact .done ((erased _ _ stored).jump false _)
  | change => exact .typing rfl ((erased _ _ stored).jump true _) _ _

namespace Selecting

variable (selecting : pane.Selecting) (spelled : pane.exitVisual.Spelled alphabet)
include selecting spelled

theorem operateOnSelection (pending : pane.pending = none) (op : Operator) :
    Ends alphabet pane.exitVisual (op = .change) (pane.operateOnSelection op) := by
  obtain ⟨selection, selected⟩ := selecting.selection?
  have rest := selecting.exitVisual pending
  have edits := Edits.refl spelled
  have operated : ∀ (span : Span) (start : Position),
      Ends alphabet pane.exitVisual (op = .change)
        (if op = .yank then (pane.exitVisual.operate op span).jump false start
          else pane.exitVisual.operate op span) := by
    intro span start
    have ends := edits.operate rest.placed op span
    split
    · rename_i yank
      generalize pane.exitVisual.operate op span = next at ends ⊢
      cases ends with
      | done lands => exact .done (lands.edits.jump false start)
      | typing change lands kind count => exact absurd (yank.symm.trans change) (by decide)
    · exact ends
  unfold Pane.operateOnSelection
  simp only [selected]
  cases selection with
  | chars range => exact operated _ _
  | lines first last => exact operated _ _
  | block block toLineEnd => exact edits.operateOnBlock op block toLineEnd

theorem toggleSelectionCase :
    Lands alphabet pane.exitVisual false pane.toggleSelectionCase := by
  obtain ⟨selection, selected⟩ := selecting.selection?
  have swapped : ∀ (ranges : List Range) (other : Pane), Edits alphabet pane.exitVisual other →
      Edits alphabet pane.exitVisual (ranges.foldl swapCaseIn other) := by
    intro ranges
    induction ranges with
    | nil => exact fun _ edits => edits
    | cons range ranges ih => exact fun other edits => ih _ (edits.swapCaseIn range)
  unfold Pane.toggleSelectionCase
  simp only [selected]
  exact (swapped _ _ (.refl spelled)).markChange.jump false _

theorem joinSelection (pending : pane.pending = none) :
    Lands alphabet pane.exitVisual false pane.joinSelection :=
  (Edits.refl spelled).joinLines (selecting.exitVisual pending).placed _ _

end Selecting

/-- Typing at a side of the selection starts from a pane at rest. -/
theorem Selecting.insertAtSelection (selecting : pane.Selecting)
    (spelled : pane.dropCount.exitVisual.Spelled alphabet) (append : Bool) :
    Ends alphabet pane.dropCount.exitVisual True (pane.insertAtSelection append) := by
  obtain ⟨selection, selected⟩ := selecting.selection?
  have edits := Edits.refl spelled
  unfold Pane.insertAtSelection
  simp only [selected]
  cases selection with
  | chars range => exact .typing trivial (edits.jump true _) _ _
  | lines first last => exact .typing trivial (edits.jump true _) _ _
  | block block toLineEnd =>
      have filled := fun pos n => edits.insert pos (.replicate alphabet.space n)
      exact .typing trivial ((Edits.ite _ (filled _ _) edits).jump true _) _ _

end Pane

end ModalPanes
