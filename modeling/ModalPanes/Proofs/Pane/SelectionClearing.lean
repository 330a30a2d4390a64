import ModalPanes.Proofs.Pane.Clearing

/-!
# Counts and registers in Visual mode

A selection is left for Normal mode by a command that acts on it, which takes the register or has no use for
one, or by one that gives it up.  All others stay in Visual mode or go on to typing.
-/

namespace ModalPanes

namespace Pane

variable {pane next : Pane} {key : Key}

theorem selectObject_visual (object : TextObject) (selects : pane.mode ≠ .normal) :
    (pane.selectObject object).mode ≠ .normal := by
  unfold selectObject
  split
  · exact selects
  · split
    · exact ne_of_beq_false rfl
    · split
      · exact selects
      · exact selects

theorem insertAtSelection_visual (append : Bool) (selects : pane.mode ≠ .normal) :
    (pane.insertAtSelection append).mode ≠ .normal := by
  unfold insertAtSelection
  split
  · exact selects
  · split <;> exact ne_of_beq_false rfl

section Visual

variable {kind : VisualKind} (prompt : pane.prompt = none) (mode : pane.mode = .visual kind)
include prompt mode

/-- In Visual mode a key that completes another one only selects. -/
theorem handlePending_leaves_visual {pending : Pending} (fits : pending.InVisual) (key : Key) :
    pane.Leaves key (pane.handlePending pending key) := by
  have stays : ∀ {next : Pane}, next.prefixes.pending = none → next.prefixes.prompt = none →
      next.mode ≠ .normal → pane.Leaves key next :=
    fun pending prompt selects => .of_mode (.of_idle pending prompt) selects
  have visual : pane.mode ≠ .normal := by simp [mode]
  have moved : ∀ (find : Option (Find × Char)) (motion : Motion) (asked : Option Nat), pane.Leaves key
      (move { pane with pending := none, lastFind := find } motion asked) := by
    intro find motion asked
    have same := prefixes_move { pane with pending := none, lastFind := find } asked motion
    have bare := move_bare { pane with pending := none, lastFind := find } motion asked
    refine stays ?_ ?_ ?_
    · rw [same]
      rfl
    · rw [same]
      exact prompt
    · exact (congrArg Pane.mode bare :).trans_ne visual
  unfold handlePending completePending
  split
  · exact .of_cancel _
  · cases pending with
    | register =>
        dsimp only
        split
        · exact stays rfl prompt visual
        · exact .of_cancel _
    | g op asked =>
        cases op with
        | some op => exact fits.elim
        | none =>
            dsimp only
            split
            · exact moved pane.lastFind _ _
            · exact .of_cancel _
    | find find op asked =>
        cases op with
        | some op => exact fits.elim
        | none =>
            dsimp only
            split
            · exact moved _ _ _
            · exact .of_cancel _
    | object op around =>
        cases op with
        | some op => exact fits.elim
        | none =>
            dsimp only
            split
            · rename_i kind named
              have same := prefixes_selectObject { pane with pending := none } ⟨kind, around⟩
              refine stays ?_ ?_ (selectObject_visual _ visual)
              · exact congrArg Prefixes.pending same
              · exact (congrArg Prefixes.prompt same).trans prompt
            · exact .of_cancel _
    | z => exact fits.elim
    | replace asked => exact fits.elim
    | operator op => exact fits.elim

theorem keepsRegister_visual (waits : pane.pending = none) {command : Command}
    (found : Keymap.findOrMotion? Keymap.visual key = some command) :
    pane.keepsRegister key = command.keepsRegister pane.cursor.pos.col := by
  unfold keepsRegister
  rw [prompt, mode, waits, found]
  rfl

/-- A command on the selection has taken the register when it is done, if it has a use for one. -/
theorem runVisual_leaves (waits : pane.pending = none) {command : Command}
    (found : Keymap.findOrMotion? Keymap.visual key = some command) :
    pane.Leaves key (pane.runVisual kind command) := by
  have keeps := keepsRegister_visual prompt mode waits found
  have visual : pane.mode ≠ .normal := by simp [mode]
  have stays : ∀ {next : Pane}, next.count = none → next.mode ≠ .normal → pane.Leaves key next :=
    fun count selects => .of_mode (.of_count count) selects
  have exited := prefixes_exitVisual pane.dropCount
  have inserts : ∀ append, pane.Leaves key (pane.insertAtSelection append) := by
    intro append
    have typing := insertAtSelection_visual append visual
    cases selected : pane.selection? with
    | none =>
        unfold insertAtSelection
        rw [selected]
        exact .of_mode (.of_idle waits prompt) visual
    | some selection =>
        have same := prefixes_insertAtSelection pane append selected
        exact stays (congrArg Prefixes.count same :) typing
  unfold runVisual
  split
  · rename_i motion
    refine stays ?_ ?_
    · exact (congrArg Prefixes.count (prefixes_move pane.takeCount.2 _ motion) :)
    · exact (congrArg Pane.mode (move_bare pane.takeCount.2 motion _) :).trans_ne visual
  · exact stays rfl visual
  · exact stays rfl visual
  · refine .of_pending ⟨fun pending mem took => ?_, by simp [prefixes, await, prompt]⟩ rfl
    obtain rfl := Option.some.inj mem
    contradiction
  · rename_i op
    cases selected : pane.dropCount.selection? with
    | none =>
        unfold operateOnSelection
        rw [selected]
        exact stays rfl visual
    | some selection => exact .of_unnamed (prefixes_operateOnSelection _ op selected) rfl
  · exact .of_kept (prefixes_toggleSelectionCase _) rfl rfl keeps
  · exact .of_kept (prefixes_joinSelection _) rfl rfl keeps
  · exact .of_mode (.of_idle waits prompt) visual
  · exact inserts false
  · exact inserts true
  · split
    · exact .of_kept exited rfl rfl keeps
    · exact stays rfl (ne_of_beq_false rfl)
  · exact .of_prompt (congrArg Prefixes.count exited :) rfl
  · rename_i way
    refine stays ?_ ?_
    · exact (congrArg Prefixes.count (prefixes_scroll pane.dropCount way _) :)
    · exact (congrArg Pane.mode (scroll_bare pane.dropCount way _) :).trans_ne visual
  · have same := prefixes_exitVisual pane.cancelCommand
    exact ⟨.of_count (congrArg Prefixes.count same :), fun _ _ _ _ =>
      ⟨(congrArg Prefixes.count same :), (congrArg Prefixes.register same :)⟩⟩
  · exact .of_cancel _

theorem handleVisual_leaves (awaited : ∀ pending ∈ pane.pending, pending.InVisual) (key : Key) :
    pane.Leaves key (pane.handleVisual kind key) := by
  have visual : pane.mode ≠ .normal := by simp [mode]
  unfold handleVisual
  split
  · rename_i pending waits
    exact handlePending_leaves_visual prompt mode (awaited pending waits) key
  · rename_i waits
    split
    · rename_i counted digit
      obtain ⟨value, -, rfl⟩ := Option.map_eq_some_iff.1 digit
      exact .of_mode (.of_idle waits prompt) visual
    · split
      · exact .of_pending (.of_count rfl) rfl
      · split
        · rename_i command found
          exact runVisual_leaves prompt mode waits found
        · exact .of_cancel _

end Visual

end Pane

end ModalPanes
