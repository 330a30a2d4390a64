import ModalPanes.Proofs.Pane.Selecting
import ModalPanes.Proofs.Pane.Substituting
import ModalPanes.Proofs.Pane.Typing

/-!
# What a key can do

The mode of a pane, its prompt, its selection and the typing under way fit together: the pane is in Normal
mode, types, selects, or has a prompt open, and each of these has exactly what belongs to it.  A key keeps
this up, and what it does with the text is one of few things: it edits, steers through the modes, goes back
or forth in the history, or carries out a command that writes or closes.
-/

namespace ModalPanes

namespace Pending

/-- The keys awaited in Normal mode: all but the one of a text object to select. -/
def InNormal : Pending → Prop
  | object none _ => False
  | _ => True

/-- The keys awaited in Visual mode: none that an operator waits for. -/
def InVisual : Pending → Prop
  | register | g none _ | find _ none _ | object none _ => True
  | _ => False

end Pending

/-- The commands that write or close. -/
def ExCommand.isFile : ExCommand → Bool
  | write | quit | forceQuit | writeQuit | exitSave => true
  | _ => false

namespace Pane

/-- The parts of a pane fit together. -/
inductive Coherent (pane : Pane) : Prop where
  | normal (rest : { pane with pending := none }.AtRest)
      (awaited : ∀ pending ∈ pane.pending, pending.InNormal)
  | typing (mode : pane.mode.isTyping = true) (session : pane.insert.isSome)
      (quiet : { pane with insert := none, mode := .normal }.Quiet) (placed : pane.Placed true)
  | visual (selecting : pane.Selecting) (awaited : ∀ pending ∈ pane.pending, pending.InVisual)
  | prompting (state : PromptState) (mode : pane.mode = .commandLine)
      (prompt : pane.prompt = some state)
      (rest : { pane with prompt := none, mode := state.origin }.AtRest)

/-- The text and its history stay as they are, and so do the registers, the size and what is known of the
file. -/
structure Steers (pane next : Pane) : Prop where
  buffer : next.buffer = pane.buffer
  registers : next.registers = pane.registers
  history : next.history = pane.history
  savedId : next.savedId = pane.savedId
  closing : next.closing = pane.closing
  size : next.size = pane.size

/-- Panes reached by edits and by steering through the modes. -/
inductive Acts (alphabet : Alphabet) (origin : Pane) : Pane → Prop where
  | edits {pane : Pane} (edits : Edits alphabet origin pane) : Acts alphabet origin pane
  | more {pane next : Pane} (acts : Acts alphabet origin pane) (edits : Edits alphabet pane next) :
      Acts alphabet origin next
  | steers {pane next : Pane} (acts : Acts alphabet origin pane) (steers : pane.Steers next)
      (spelled : next.Spelled alphabet) : Acts alphabet origin next

/-- The command line that a key completes: one typed at the prompt, or one of the two behind `Z`. -/
def completed? (pane : Pane) (key : Key) : Option ExCommand :=
  match pane.prompt with
  | some state =>
      match state.prompt.kind, (state.prompt.handleKey key).2 with
      | .command, .submit text => some (Ex.parse text)
      | _, _ => none
  | none =>
      match pane.mode, pane.pending, Keymap.find? Keymap.afterZ key with
      | .normal, some .z, some .exitSave => some .exitSave
      | .normal, some .z, some .forceQuit => some .forceQuit
      | _, _, _ => none

/-- What a key does: it acts on the text, goes back or forth in the history, or completes a command that
writes or closes. -/
inductive Turn (alphabet : Alphabet) (key : Key) (origin : Pane) : Pane → Prop where
  | acts {next : Pane} (acts : Acts alphabet origin next)
      (other : ∀ command ∈ origin.completed? key, command.isFile = false) :
      Turn alphabet key origin next
  | undo (rest : origin.AtRest) (count : Nat) : Turn alphabet key origin (origin.dropCount.undo count)
  | redo (rest : origin.AtRest) (count : Nat) : Turn alphabet key origin (origin.dropCount.redo count)
  | executes {base : Pane} (steers : origin.Steers base) (spelled : base.Spelled alphabet)
      (idle : origin.mode.cursorPastEnd = false) {command : ExCommand}
      (completed : origin.completed? key = some command) (file : command.isFile = true) :
      Turn alphabet key origin (base.execute command)

/-- What an action comes to: the parts of the pane fit together again. -/
structure Goes (alphabet : Alphabet) (origin next : Pane) : Prop where
  coherent : next.Coherent
  acts : Acts alphabet origin next

variable {alphabet : Alphabet} {origin base pane next : Pane} {mayType : Prop}

namespace Acts

theorem refl (spelled : pane.Spelled alphabet) : Acts alphabet pane pane := .edits (.refl spelled)

theorem spelled (acts : Acts alphabet origin pane) : pane.Spelled alphabet := by
  cases acts with
  | edits edits => exact edits.spelled
  | more acts edits => exact edits.spelled
  | steers acts steers spelled => exact spelled

theorem trans (first : Acts alphabet origin pane) (second : Acts alphabet pane next) :
    Acts alphabet origin next := by
  induction second with
  | edits edits => exact first.more edits
  | more acts edits ih => exact ih.more edits
  | steers acts steers spelled ih => exact ih.steers steers spelled

end Acts

namespace AtRest

variable (rest : pane.AtRest)
include rest

theorem coherent : pane.Coherent :=
  .normal { rest with pending := rfl } (by simp [rest.pending])

theorem await {pending : Pending} (fits : pending.InNormal) : (pane.await pending).Coherent := by
  refine .normal { rest with pending := rfl } fun other mem => ?_
  obtain rfl := Option.some.inj mem
  exact fits

theorem openPrompt (kind : PromptKind) (text : List Char) (operator : Option PendingOperator)
    (count : Option Nat) : (pane.openPrompt kind text operator count).Coherent :=
  .prompting _ rfl rfl { rest with prompt := rfl }

end AtRest

theorem Selecting.coherent (selecting : pane.Selecting) (pending : pane.pending = none) :
    pane.Coherent :=
  .visual selecting (by simp [pending])

theorem Lands.beginTyping (quiet : base.Quiet) (lands : Lands alphabet base true pane) {mode : Mode}
    (typing : mode.isTyping = true) (kind : InsertKind) (count : Nat) :
    (pane.beginTyping mode kind count).Coherent := by
  have keeps := lands.edits.keeps
  exact .typing typing rfl
    { mode := rfl
      prompt := keeps.prompt.trans quiet.prompt
      pending := keeps.pending.trans quiet.pending
      insert := rfl
      anchor := keeps.anchor.trans quiet.anchor } lands.placed

theorem Ends.coherent (quiet : base.Quiet) (ends : Ends alphabet base mayType next) :
    next.Coherent := by
  cases ends with
  | done lands => exact (quiet.after lands).coherent
  | typing may lands kind count => exact lands.beginTyping quiet rfl kind count

theorem Acts.beginTyping (acts : Acts alphabet origin pane) (mode : Mode) (kind : InsertKind)
    (count : Nat) : Acts alphabet origin (pane.beginTyping mode kind count) := by
  refine acts.steers ⟨rfl, rfl, rfl, rfl, rfl, rfl⟩ { acts.spelled with insert := fun session mem => ?_ }
  obtain rfl := Option.some.inj mem
  exact ⟨.nil, nofun⟩

theorem Ends.acts (ends : Ends alphabet base mayType next) : Acts alphabet base next := by
  cases ends with
  | done lands => exact .edits lands.edits
  | typing may lands kind count => exact (Acts.edits lands.edits).beginTyping _ _ _

theorem Ends.goes (quiet : base.Quiet) (ends : Ends alphabet base mayType next) :
    Goes alphabet base next :=
  ⟨ends.coherent quiet, ends.acts⟩

theorem Lands.goes (quiet : base.Quiet) (lands : Lands alphabet base false next) :
    Goes alphabet base next :=
  ⟨(quiet.after lands).coherent, .edits lands.edits⟩

theorem Goes.after (goes : Goes alphabet base next) (acts : Acts alphabet origin base) :
    Goes alphabet origin next :=
  ⟨goes.coherent, acts.trans goes.acts⟩

end Pane

end ModalPanes
