import ModalPanes.Pane.Normal

/-!
# Visual mode

Motions and text objects change the selection; a command acts on the whole of it and leaves the mode.
-/

namespace ModalPanes

namespace Pane

variable (pane : Pane)

/-- Run a command of Visual mode, which is of the given kind. -/
def runVisual (kind : VisualKind) (command : Command) : Pane :=
  match command with
  | .motion motion => pane.withCount fun pane count => pane.move motion count
  | .awaitFind find => pane.withCount fun pane count => pane.await (.find find none count)
  | .awaitG => pane.withCount fun pane count => pane.await (.g none count)
  | .awaitRegister => pane.await .register
  | .operator op => pane.dropCount.operateOnSelection op
  | .toggleCase => pane.dropCount.toggleSelectionCase
  | .joinLines => pane.dropCount.joinSelection
  | .swapSelectionEnds => pane.moveCursor Cursor.swapAnchor
  | .blockInsert => pane.insertAtSelection false
  | .blockAppend => pane.insertAtSelection true
  | .visual other =>
      let pane := pane.dropCount
      if other = kind then pane.exitVisual else { pane with mode := .visual other }
  | .commandLine =>
      pane.dropCount.exitVisual.cancelRecording.openPrompt .command "'<,'>".toList none none
  | .scroll way => pane.withUnrecordedCount fun pane count => pane.scroll way count
  | .escape => pane.cancelCommand.exitVisual
  | _ => pane.cancelCommand

def handleVisual (kind : VisualKind) (key : Key) : Pane :=
  match pane.pending with
  | some pending => pane.handlePending pending key
  | none =>
      match pane.acceptDigit? key with
      | some pane => pane
      | none =>
          if key.typed? = some 'i' ∨ key.typed? = some 'a' then
            pane.dropCount.await (.object none (key.typed? == some 'a'))
          else
            match Keymap.findOrMotion? Keymap.visual key with
            | some command => pane.runVisual kind command
            | none => pane.cancelCommand

end Pane

end ModalPanes
