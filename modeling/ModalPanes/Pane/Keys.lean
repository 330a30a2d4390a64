import ModalPanes.Pane.Typing
import ModalPanes.Pane.Visual

/-!
# Keys

Every key goes to the open prompt or to the present mode; afterwards the pane settles: a change of Normal
mode is committed, the written state is compared, a finished change is remembered and the view follows
the cursor.  Repeating a change hands its keys out once more.  Among them can be the key that repeats, so
that handling a key within a number of nested repetitions may come to no end, which is `none`.
-/

namespace ModalPanes

namespace Pane

/-- Hand the keys of the last change out again, with a count in place of its own.  Without a last
change nothing happens. -/
def repeatChange (step : Key → Pane → Option Pane) (count : Option Nat) (pane : Pane) : Option Pane :=
  match pane.recorder.last with
  | none => some pane
  | some change =>
      let pane :=
        { pane with
          count := count.or change.count
          recorder := { pane.recorder with replaying := true } }
      (change.keys.foldlM (fun pane key => step key pane) pane).map fun pane =>
        { pane with recorder := { pane.recorder with replaying := false } }

/-- A key in Normal mode; `again` repeats the last change. -/
def handleNormal (again : Option Nat → Pane → Option Pane) (key : Key) (pane : Pane) : Option Pane :=
  match pane.pending with
  | some pending => some (pane.handlePending pending key)
  | none =>
      match pane.acceptDigit? key with
      | some pane => some pane
      | none =>
          match Keymap.findOrMotion? Keymap.normal key with
          | some .repeatChange => again pane.count pane.dropCount
          | some command => some (pane.runNormal command)
          | none => some pane.cancelCommand

/-- Hand a key to the open prompt or to the present mode. -/
def dispatchWith (again : Option Nat → Pane → Option Pane) (key : Key) (pane : Pane) : Option Pane :=
  match pane.prompt with
  | some state => some (pane.handlePromptKey state key)
  | none =>
      match pane.mode with
      | .normal => handleNormal again key pane
      | .insert | .replace => some (pane.handleTyping key)
      | .visual kind => some (pane.handleVisual kind key)
      | .commandLine => some { pane with mode := .normal }

/-- Hand a key out, within a number of nested repetitions. -/
def dispatch : Nat → Key → Pane → Option Pane
  | 0 => dispatchWith (repeatChange fun _ _ => none)
  | depth + 1 => dispatchWith (repeatChange (dispatch depth))

/-- The number of repetitions matters to nothing but a key that repeats. -/
theorem exists_dispatchWith (depth : Nat) : ∃ again, dispatch depth = dispatchWith again := by
  cases depth <;> exact ⟨_, rfl⟩

/-- What happens after every key. -/
def settle (pane : Pane) : Pane :=
  let pane :=
    if !pane.mode.cursorPastEnd && pane.history.isOpen then
      { pane with history := (pane.history.commit pane.cursor.pos).1 }
    else pane
  let pane := pane.syncModified
  (if pane.isIdle then { pane with recorder := pane.recorder.finish } else pane).follow

/-- A key is recorded; the first one of a command starts the recording. -/
def record (key : Key) (pane : Pane) : Pane :=
  let recorder := if pane.isIdle then pane.recorder.start else pane.recorder
  { pane with recorder := recorder.push key }

def handleKeyWithin (depth : Nat) (key : Key) (pane : Pane) : Option Pane :=
  (dispatch depth key (pane.record key)).map settle

/-- More nested repetitions than fit into any memory. -/
def deepestRepeat : Nat := UInt64.size

/-- Handle a key.  One that would come to no end changes nothing. -/
def handleKey (pane : Pane) (key : Key) : Pane :=
  (handleKeyWithin deepestRepeat key pane).getD pane

def handleKeys (pane : Pane) (keys : List Key) : Pane := keys.foldl handleKey pane

end Pane

end ModalPanes
