import ModalPanes.Proofs.Pane.Saving
import ModalPanes.Proofs.Pane.Sizing

/-!
# Keys on which a pane asks to be closed

A pane asks to be closed at the end of a command line, behind `Z`, or where it repeats a change whose keys
come to one of these.  All other keys leave it at what it asked for before, in every mode.
-/

namespace ModalPanes

/-- Some pane may come to ask to be closed on the key: it submits what was typed, stands behind `Z`, or
repeats the last change. -/
def Key.mayClose (key : Key) : Bool :=
  key.code == .enter || (Keymap.find? Keymap.afterZ key).isSome ||
    Keymap.findOrMotion? Keymap.normal key == some .repeatChange

namespace Pane

variable {alphabet : Alphabet} {pane next : Pane} {key : Key}

theorem completed?_isSome (completed : (pane.completed? key).isSome = true) : key.mayClose = true := by
  unfold completed? at completed
  unfold Key.mayClose
  cases prompt : pane.prompt with
  | some state =>
      rw [prompt] at completed
      dsimp only at completed
      split at completed
      · rename_i text _ submitted
        have enter := (Prompt.eq_of_submit (Prod.ext rfl submitted)).1
        simp [enter]
      · contradiction
  | none =>
      rw [prompt] at completed
      dsimp only at completed
      split at completed
      · rename_i found
        simp [found]
      · rename_i found
        simp [found]
      · contradiction

/-- A turn after which the pane asks to be closed completes a command, if it did not ask before. -/
theorem Turn.closing (turn : Turn alphabet key pane next) (asks : next.closing = true) :
    pane.closing = true ∨ (pane.completed? key).isSome = true := by
  cases turn with
  | acts acts other => exact .inl (acts.unmodified.2.1 ▸ asks)
  | undo rest count => exact .inl (closing_revisit pane.dropCount History.undo count ▸ asks)
  | redo rest count => exact .inl (closing_revisit pane.dropCount History.redo count ▸ asks)
  | executes steers spelled idle completed file => exact .inr (completed ▸ rfl)

theorem Coherent.closing_handleKey (coherent : pane.Coherent)
    (asks : (pane.handleKey key).closing = true) : pane.closing = true ∨ key.mayClose = true := by
  unfold Pane.handleKey at asks
  cases handled : handleKeyWithin deepestRepeat key pane with
  | none =>
      rw [handled] at asks
      exact .inl asks
  | some next =>
      rw [handled, Option.getD_some] at asks
      obtain ⟨settling, handed, rfl⟩ := Option.map_eq_some_iff.1 handled
      obtain ⟨recorder, view, settled, -⟩ := settle_eq settling
      have asks : settling.closing = true := (congrArg Pane.closing settled).symm.trans asks
      obtain ⟨again, eq⟩ := exists_dispatchWith deepestRepeat
      have recorded : (pane.record key).Coherent := coherent.recorded _
      have known : key.Known .every := fun _ _ => trivial
      rcases recorded.dispatchWith (pane.record key).spelled_every known again with
        ⟨repeats, -, -⟩ | ⟨-, other, same, -, turn⟩
      · unfold runsRepeat at repeats
        rw [Bool.and_eq_true] at repeats
        refine .inr ?_
        unfold Key.mayClose
        rw [repeats.2, Bool.or_true]
      · rw [eq, same] at handed
        obtain rfl := Option.some.inj handed
        exact (turn.closing asks).imp id completed?_isSome

end Pane

end ModalPanes
