import ModalPanes.Proofs.Pane.Commands

/-!
# Commands of Visual mode keep panes coherent

A motion or a text object goes on selecting; every other command of Visual mode leaves it and acts from a
pane at rest.
-/

namespace ModalPanes

namespace Pane

variable {alphabet : Alphabet} {pane : Pane}

theorem Selecting.cursorPastEnd (selecting : pane.Selecting) : pane.mode.cursorPastEnd = false := by
  obtain ⟨kind, mode⟩ := selecting.mode
  rw [mode]
  rfl

namespace Selecting

variable (selecting : pane.Selecting) (spelled : pane.Spelled alphabet)
include selecting spelled

theorem goes_await {next : Pane} (idles : pane.Idles next) {awaited : Pending}
    (fits : awaited.InVisual) : Goes alphabet pane (next.await awaited) := by
  have here : Lands alphabet pane true pane := ⟨.refl spelled, selecting.placed⟩
  have waiting := selecting.after idles.bare (here.tidy idles).placed
  refine ⟨.visual { waiting with } fun other mem => ?_, ?_⟩
  · obtain rfl := Option.some.inj mem
    exact fits
  · exact (Acts.tidy spelled idles.bare).trans
      (.pending (here.tidy idles).edits.spelled (some awaited))

variable (pending : pane.pending = none)
include pending

/-- The cursor moves, or nothing does: the selection goes on. -/
theorem goes {next : Pane} (same : next.bare = pane.bare) (placed : next.Placed true) :
    Goes alphabet pane next := by
  have still : next.pending = pane.pending := (congrArg Pane.pending same :)
  exact ⟨(selecting.after same placed).coherent (still.trans pending), .tidy spelled same⟩

theorem goes_cancel : Goes alphabet pane pane.cancelCommand :=
  selecting.goes spelled pending (by simp [bare, Pane.cancelCommand, pending]) selecting.placed

theorem goes_move {next : Pane} (idles : pane.Idles next) (motion : Motion) (count : Option Nat) :
    Goes alphabet pane (next.move motion count) := by
  have here : Lands alphabet pane true pane := ⟨.refl spelled, selecting.placed⟩
  have mode := selecting.cursorPastEnd
  exact selecting.goes spelled pending ((next.move_bare motion count).trans idles.bare)
    ((here.tidy idles).move mode motion count).placed

theorem goes_scroll {next : Pane} (idles : pane.Idles next) (way : Scroll) (count : Option Nat) :
    Goes alphabet pane (next.scroll way count) := by
  have here : Lands alphabet pane true pane := ⟨.refl spelled, selecting.placed⟩
  have there := here.tidy idles
  have mode : next.mode.cursorPastEnd = false := by
    rw [there.edits.keeps.mode]
    exact selecting.cursorPastEnd
  exact selecting.goes spelled pending ((next.scroll_bare way count).trans idles.bare)
    (there.edits.scroll there.placed mode way count).placed

/-- Selecting a text object moves the selection and nothing else. -/
theorem goes_selectObject (object : TextObject) : Goes alphabet pane (pane.selectObject object) := by
  have here := Acts.refl spelled
  have steered : Acts alphabet pane (pane.selectObject object) ∧
      (pane.selectObject object).pending = pane.pending := by
    unfold Pane.selectObject
    split
    · exact ⟨here, rfl⟩
    · split
      · exact ⟨here.steers ⟨rfl, rfl, rfl, rfl, rfl, rfl⟩ { spelled with }, rfl⟩
      · split
        · exact ⟨here, rfl⟩
        · exact ⟨here.steers ⟨rfl, rfl, rfl, rfl, rfl, rfl⟩ { spelled with }, rfl⟩
  exact ⟨(selecting.selectObject object).coherent (steered.2.trans pending), steered.1⟩

theorem completePending {awaited : Pending} (fits : awaited.InVisual) (key : Key) :
    Goes alphabet pane (pane.completePending awaited key) := by
  have cancelled := selecting.goes_cancel spelled pending
  unfold Pane.completePending
  cases awaited with
  | register =>
      dsimp only
      split
      · exact selecting.goes spelled pending rfl selecting.placed
      · exact cancelled
  | g op count =>
      cases op with
      | some op => exact absurd fits id
      | none =>
          dsimp only
          split
          · exact selecting.goes_move spelled pending ⟨rfl, rfl⟩ _ count
          · exact cancelled
  | z => exact absurd fits id
  | find find op count =>
      cases op with
      | some op => exact absurd fits id
      | none =>
          dsimp only
          split
          · apply selecting.goes_move spelled pending
            exact ⟨rfl, rfl⟩
          · exact cancelled
  | replace count => exact absurd fits id
  | operator op => exact absurd fits id
  | object op around =>
      cases op with
      | some op => exact absurd fits id
      | none =>
          dsimp only
          split
          · exact selecting.goes_selectObject spelled pending _
          · exact cancelled

/-- Leaving Visual mode comes to rest. -/
theorem goes_exitVisual {next : Pane} (idles : pane.Idles next) :
    Goes alphabet pane next.exitVisual := by
  have here : Lands alphabet pane true pane := ⟨.refl spelled, selecting.placed⟩
  have there := here.tidy idles
  have still : next.pending = pane.pending := there.edits.keeps.pending
  exact ⟨((selecting.after idles.bare there.placed).exitVisual (still.trans pending)).coherent,
    (Acts.edits there.edits).trans (.exitVisual there.edits.spelled)⟩

theorem runVisual (kind : VisualKind) (command : Command) :
    Goes alphabet pane (pane.runVisual kind command) := by
  have cancelled := selecting.goes_cancel spelled pending
  have taken : pane.Idles pane.takeCount.2 := ⟨rfl, rfl⟩
  have dropped : pane.Idles pane.dropCount := ⟨rfl, rfl⟩
  have droppedActs : Acts alphabet pane pane.dropCount := .tidy spelled rfl
  have droppedSelecting := selecting.after dropped.bare selecting.placed
  have rest := droppedSelecting.exitVisual pending
  have exited : Acts alphabet pane.dropCount pane.dropCount.exitVisual := .exitVisual droppedActs.spelled
  have left := droppedActs.trans exited
  unfold Pane.runVisual withUnrecordedCount withCount
  cases command with
  | motion motion => exact selecting.goes_move spelled pending taken motion _
  | awaitFind find => exact selecting.goes_await spelled taken trivial
  | awaitG => exact selecting.goes_await spelled taken trivial
  | awaitRegister => exact selecting.goes_await spelled ⟨rfl, rfl⟩ trivial
  | operator op =>
      exact ((droppedSelecting.operateOnSelection exited.spelled pending op).goes
        rest.toQuiet).after left
  | toggleCase =>
      exact ((droppedSelecting.toggleSelectionCase exited.spelled).goes rest.toQuiet).after left
  | joinLines =>
      exact ((droppedSelecting.joinSelection exited.spelled pending).goes rest.toQuiet).after left
  | swapSelectionEnds =>
      exact ⟨selecting.swapAnchor.coherent pending,
        (Acts.refl spelled).steers ⟨rfl, rfl, rfl, rfl, rfl, rfl⟩ { spelled with }⟩
  | blockInsert =>
      exact ((selecting.insertAtSelection exited.spelled false).goes rest.toQuiet).after left
  | blockAppend =>
      exact ((selecting.insertAtSelection exited.spelled true).goes rest.toQuiet).after left
  | visual other =>
      dsimp only
      split
      · exact selecting.goes_exitVisual spelled pending dropped
      · have other : Selecting { pane.dropCount with mode := .visual other } :=
          { droppedSelecting with mode := ⟨other, rfl⟩ }
        exact ⟨other.coherent pending,
          droppedActs.steers ⟨rfl, rfl, rfl, rfl, rfl, rfl⟩ { droppedActs.spelled with }⟩
  | commandLine =>
      have cancelled : Lands alphabet pane.dropCount.exitVisual false
          pane.dropCount.exitVisual.cancelRecording :=
        ⟨(Edits.refl exited.spelled).tidy rfl, rest.placed⟩
      exact (rest.goes_openPrompt cancelled .command alphabet.marks none none).after left
  | scroll way => exact selecting.goes_scroll spelled pending dropped way _
  | escape =>
      exact selecting.goes_exitVisual spelled pending
        ⟨by simp [bare, Pane.cancelCommand, pending], rfl⟩
  | _ => exact cancelled

/-- Every key of Visual mode that completes nothing. -/
theorem handleVisual (kind : VisualKind) (key : Key) :
    Goes alphabet pane (pane.handleVisual kind key) := by
  have dropped : pane.Idles pane.dropCount := ⟨rfl, rfl⟩
  unfold Pane.handleVisual
  simp only [pending]
  split
  · rename_i next accepted
    have idles := idles_of_digit accepted
    have here : Lands alphabet pane true pane := ⟨.refl spelled, selecting.placed⟩
    exact selecting.goes spelled pending idles.bare (here.tidy idles).placed
  · split
    · exact selecting.goes_await spelled dropped trivial
    · split
      · exact selecting.runVisual spelled pending kind _
      · exact selecting.goes_cancel spelled pending

end Selecting

end Pane

end ModalPanes
