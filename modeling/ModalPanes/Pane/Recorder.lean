import ModalPanes.Key.Basic
import ModalPanes.Text.Numeral

/-!
# Recording changes

The keys of the command under way are recorded, so that a finished change can be made again.  Count
digits are no part of the keys; all counts of a command are folded into one.  Nothing is recorded of a
command that is being replayed.
-/

namespace ModalPanes

/-- The product of two counts, where one that was not typed counts for nothing. -/
def mergeCounts : Option Nat → Option Nat → Option Nat
  | some a, some b => some (Numeral.saturate (a * b))
  | a, b => a.or b

theorem mergeCounts_none (count : Option Nat) : mergeCounts count none = count := by cases count <;> rfl

theorem none_mergeCounts (count : Option Nat) : mergeCounts none count = count := by cases count <;> rfl

/-- A finished change: its keys and its count. -/
structure RecordedChange where
  keys : List Key
  count : Option Nat
deriving DecidableEq

/-- A recording under way: its keys, the latest first, its count, and whether the text changed. -/
structure Recording where
  keys : List Key := []
  count : Option Nat := none
  changed : Bool := false
deriving DecidableEq

/-- The recording under way, whether a change is being replayed, and the last finished change. -/
structure Recorder where
  recording : Option Recording := none
  replaying : Bool := false
  last : Option RecordedChange := none
deriving DecidableEq, Inhabited

namespace Recorder

/-- Start recording, unless that is already under way. -/
def start (recorder : Recorder) : Recorder :=
  match recorder.recording with
  | some _ => recorder
  | none => { recorder with recording := some {} }

def push (recorder : Recorder) (key : Key) : Recorder :=
  { recorder with
    recording := recorder.recording.map fun rec => { rec with keys := key :: rec.keys } }

/-- Change the recording under way, unless a change is being replayed. -/
def revise (recorder : Recorder) (change : Recording → Recording) : Recorder :=
  if recorder.replaying then recorder
  else { recorder with recording := recorder.recording.map change }

/-- The key just recorded was a count digit. -/
def dropDigit (recorder : Recorder) : Recorder :=
  recorder.revise fun rec => { rec with keys := rec.keys.tail }

/-- Fold in a count that the command takes. -/
def noteCount (recorder : Recorder) (count : Option Nat) : Recorder :=
  recorder.revise fun rec => { rec with count := mergeCounts rec.count count }

def markChange (recorder : Recorder) : Recorder :=
  recorder.revise fun rec => { rec with changed := true }

/-- Give the recording up: the command cannot be made again. -/
def cancel (recorder : Recorder) : Recorder :=
  if recorder.replaying then recorder else { recorder with recording := none }

/-- The command is finished; if it changed the text, it is the last change. -/
def finish (recorder : Recorder) : Recorder :=
  match recorder.recording with
  | none => recorder
  | some rec =>
      let last :=
        if rec.changed && !rec.keys.isEmpty then some ⟨rec.keys.reverse, rec.count⟩
        else recorder.last
      { recorder with recording := none, last := last }

end Recorder

end ModalPanes
