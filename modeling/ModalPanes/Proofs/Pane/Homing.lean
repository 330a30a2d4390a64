import ModalPanes.Proofs.Pane.Handling
import ModalPanes.Proofs.Pane.Spending

/-!
# Escape

Escape ends whatever is under way: it closes a prompt, ends typing, gives up a half-typed command, or leaves the
selection.  Each of these may leave a count, a register or the selection behind, and a second Escape drops those.
So two of them lead from every reachable pane back to Normal mode with nothing begun.
-/

namespace ModalPanes

def Key.escape : Key := .plain .escape

namespace Pane

/-- Normal mode with nothing begun: no command half-typed, no prompt, no typing, no selection and no step of the
history under way. -/
structure AtHome (pane : Pane) : Prop where
  mode : pane.mode = .normal
  pending : pane.pending = none
  count : pane.count = none
  register : pane.register = none
  prompt : pane.prompt = none
  insert : pane.insert = none
  anchor : pane.cursor.anchor = none
  history : pane.history.isOpen = false

/-- Normal or Visual mode with no other key awaited. -/
structure Calm (pane : Pane) : Prop where
  mode : pane.mode = .normal ∨ ∃ kind, pane.mode = .visual kind
  pending : pane.pending = none
  prompt : pane.prompt = none

variable {pane next : Pane}

theorem handlePending_escape (pending : Pending) :
    pane.handlePending pending .escape = { pane with pending := none }.cancelCommand := by
  simp [handlePending, Key.escape, Key.plain]

section Fresh

variable (prompt : pane.prompt = none) (pending : pane.pending = none)
include prompt pending

theorem dispatchWith_escape_normal (mode : pane.mode = .normal) (again : Option Nat → Pane → Option Pane) :
    dispatchWith again .escape pane = some pane.cancelCommand := by
  simp only [dispatchWith, prompt, mode, handleNormal, pending]
  rfl

theorem dispatchWith_escape_visual {kind : VisualKind} (mode : pane.mode = .visual kind)
    (again : Option Nat → Pane → Option Pane) :
    dispatchWith again .escape pane = some pane.cancelCommand.exitVisual := by
  simp only [dispatchWith, prompt, mode, handleVisual, pending]
  rfl

end Fresh

theorem dispatchWith_escape_pending {waits : Pending} (prompt : pane.prompt = none)
    (mode : pane.mode = .normal ∨ ∃ kind, pane.mode = .visual kind) (pending : pane.pending = some waits)
    (again : Option Nat → Pane → Option Pane) :
    dispatchWith again .escape pane = some { pane with pending := none }.cancelCommand := by
  obtain mode | ⟨kind, mode⟩ := mode
  · simp only [dispatchWith, prompt, mode, handleNormal, pending, handlePending_escape]
  · simp only [dispatchWith, prompt, mode, handleVisual, pending, handlePending_escape]

theorem dispatchWith_escape_typing (prompt : pane.prompt = none) (mode : pane.mode.isTyping = true)
    (again : Option Nat → Pane → Option Pane) : dispatchWith again .escape pane = some pane.endTyping := by
  rcases isTyping_iff.1 mode with mode | mode <;>
    simp only [dispatchWith, prompt, mode, handleTyping_of_ends (by decide : endsTyping .escape = true)]

theorem dispatchWith_escape_prompt {state : PromptState} (prompt : pane.prompt = some state)
    (again : Option Nat → Pane → Option Pane) :
    dispatchWith again .escape pane =
      some { pane with prompt := none, mode := state.origin }.cancelCommand := by
  simp only [dispatchWith, prompt]
  rfl

/-- One Escape ends what another key could complete. -/
theorem Coherent.escape_calms (coherent : pane.Coherent) :
    ∃ next, (∀ again, Pane.dispatchWith again .escape pane = some next) ∧ next.Calm := by
  cases coherent with
  | normal rest awaited =>
      have mode : pane.mode = .normal := rest.mode
      have prompt : pane.prompt = none := rest.prompt
      cases pending : pane.pending with
      | none =>
          exact ⟨_, dispatchWith_escape_normal prompt pending mode, ⟨.inl mode, rfl, prompt⟩⟩
      | some waits =>
          exact ⟨_, dispatchWith_escape_pending prompt (.inl mode) pending, ⟨.inl mode, rfl, prompt⟩⟩
  | typing mode session quiet placed =>
      have ended := quiet.after (endTyping_lands pane.spelled_every session)
      exact ⟨_, dispatchWith_escape_typing quiet.prompt mode, ⟨.inl ended.mode, ended.pending, ended.prompt⟩⟩
  | visual selecting awaited =>
      obtain ⟨kind, mode⟩ := selecting.mode
      cases pending : pane.pending with
      | none =>
          have left := prefixes_exitVisual pane.cancelCommand
          refine ⟨_, dispatchWith_escape_visual selecting.prompt pending mode, ⟨.inl rfl, ?_, ?_⟩⟩
          · exact congrArg Prefixes.pending left
          · exact (congrArg Prefixes.prompt left :).trans selecting.prompt
      | some waits =>
          exact ⟨_, dispatchWith_escape_pending selecting.prompt (.inr ⟨kind, mode⟩) pending,
            ⟨.inr ⟨kind, mode⟩, rfl, selecting.prompt⟩⟩
  | prompting state mode prompt rest =>
      exact ⟨_, dispatchWith_escape_prompt prompt, ⟨.inl rest.mode, rfl, rfl⟩⟩

/-- Where no other key is awaited, Escape drops the count and the register and leaves the selection. -/
theorem Calm.escape_drops (calm : pane.Calm) :
    ∃ next, (∀ again, Pane.dispatchWith again .escape pane = some next) ∧
      next.mode = .normal ∧ next.prefixes = ⟨none, none, none, none⟩ := by
  have dropped : pane.cancelCommand.prefixes = ⟨none, none, none, none⟩ := by
    rw [Pane.prefixes, cancelCommand, calm.prompt]
  obtain mode | ⟨kind, mode⟩ := calm.mode
  · exact ⟨_, dispatchWith_escape_normal calm.prompt calm.pending mode, mode, dropped⟩
  · exact ⟨_, dispatchWith_escape_visual calm.prompt calm.pending mode, rfl,
      (prefixes_exitVisual _).trans dropped⟩

theorem Calm.settle (calm : pane.Calm) : pane.settle.Calm := by
  obtain ⟨recorder, view, eq, -⟩ := settle_eq pane
  rw [eq]
  exact { calm with }

/-- A pane is at home if no command has been begun in Normal mode: the rest belongs to other modes. -/
theorem Settled.atHome (settled : pane.Settled) (mode : pane.mode = .normal)
    (begun : pane.prefixes = ⟨none, none, none, none⟩) : pane.AtHome where
  mode := mode
  pending := congrArg Prefixes.pending begun
  count := congrArg Prefixes.count begun
  register := congrArg Prefixes.register begun
  prompt := congrArg Prefixes.prompt begun
  insert := by
    have typing := settled.typing
    simpa [mode] using typing
  anchor := by
    have selection := settled.selection
    simpa [mode] using selection
  history := by
    have history := settled.history
    simpa [mode] using history

/-- From every reachable pane, two Escapes lead back to Normal mode with nothing begun. -/
theorem Reached.escapes_home (reached : Reached pane) :
    ∃ home, Handles pane [.escape, .escape] home ∧ home.AtHome := by
  obtain ⟨first, calmed, calm⟩ := (reached.invariant.1.recorded (pane.record .escape).recorder).escape_calms
  have waits : ({ first.settle with recorder := (first.settle.record .escape).recorder } : Pane).Calm :=
    { calm.settle with }
  obtain ⟨last, dropped, mode, begun⟩ := waits.escape_drops
  have handles : Handles pane [.escape, .escape] last.settle :=
    (Handles.one calmed).append (Handles.one dropped)
  refine ⟨_, handles, ?_⟩
  -- The pane that the keys lead to is reachable itself, and so the mode alone decides what is open.
  have settled : last.settle.Settled := by
    rw [← handles.handleKeys]
    exact (reached.handleKeys _).settled
  refine settled.atHome ?_ ((prefixes_settle last).trans begun)
  obtain ⟨recorder, view, eq, -⟩ := settle_eq last
  rw [eq]
  exact mode

/-- The register that was named in front of typing is still there when typing ends, and is dropped after that. -/
theorem escapes_home_named :
    ∃ pane, Reached pane ∧ pane.mode = .insert ∧ pane.register = some 'a' ∧
      ∃ home, Handles pane [.escape, .escape] home ∧ home.AtHome := by
  have reached := (Reached.start (.ofText "ab\ncd".toList) {} 20 5).handleKeys
    [.char '"', .char 'a', .char '3', .char 'i', .char 'x']
  exact ⟨_, reached, by decide +kernel, by decide +kernel, reached.escapes_home⟩

end Pane

end ModalPanes
