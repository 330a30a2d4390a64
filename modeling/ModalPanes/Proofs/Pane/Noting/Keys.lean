import ModalPanes.Proofs.Pane.Likeness.Keys
import ModalPanes.Proofs.Pane.Noting.Commands

/-!
# What a key adds to a recording

A key that is taken for a digit takes itself back.  Any other notes the count it takes, if it takes one, and
does what its command does.  So the keys and the count of a command are what was recorded when it is finished.
-/

namespace ModalPanes

namespace Recorder

/-- The keys and the count of a command are recorded, the latest key first, unless it has been given up. -/
structure Holds (last : Option RecordedChange) (keys : List Key) (count : Option Nat) (recorder : Recorder) :
    Prop where
  live : recorder.replaying = false
  last : recorder.last = last
  recording : ∀ rec ∈ recorder.recording, rec.keys = keys ∧ rec.count = count

namespace Holds

variable {origin recorder after : Recorder} {last : Option RecordedChange} {keys : List Key} {count : Option Nat}

theorem of_notes (notes : Notes origin keys count recorder) (live : origin.replaying = false) :
    Holds origin.last keys count recorder := by
  cases notes with
  | live live => exact ⟨rfl, rfl, fun rec mem => Option.some.inj mem ▸ ⟨rfl, rfl⟩⟩
  | replaying replaying unchanged => simp [live] at replaying

variable (holds : Holds last keys count recorder)
include holds

theorem push (key : Key) : Holds last (key :: keys) count (recorder.push key) where
  live := holds.live
  last := holds.last
  recording rec mem := by
    obtain ⟨before, here, rfl⟩ := Option.map_eq_some_iff.1 (Option.mem_def.1 mem)
    obtain ⟨same, counted⟩ := holds.recording before here
    exact ⟨congrArg (key :: ·) same, counted⟩

theorem stays (stays : recorder.Stays after) : Holds last keys count after := by
  induction stays with
  | refl => exact holds
  | @mark recorder stays ih =>
      have marked : recorder.markChange =
          { recorder with recording := recorder.recording.map fun rec => { rec with changed := true } } := by
        rw [markChange, revise, ih.live]
        rfl
      rw [marked]
      refine ⟨ih.live, ih.last, fun rec mem => ?_⟩
      obtain ⟨before, here, rfl⟩ := Option.map_eq_some_iff.1 (Option.mem_def.1 mem)
      exact ih.recording before here
  | @cancel recorder stays ih =>
      have canceled : recorder.cancel = { recorder with recording := none } := by
        rw [Recorder.cancel, ih.live]
        rfl
      rw [canceled]
      exact ⟨ih.live, ih.last, fun rec mem => absurd mem (Option.not_mem_none rec)⟩

/-- When the command is finished, it is the last change, or the one before it still is. -/
theorem finish : recorder.finish.last = last ∨ recorder.finish.last = some ⟨keys.reverse, count⟩ := by
  unfold Recorder.finish
  split
  · exact .inl holds.last
  · rename_i rec recording
    obtain ⟨rfl, rfl⟩ := holds.recording rec recording
    dsimp only
    split
    · exact .inr rfl
    · exact .inl holds.last

end Holds

end Recorder

/-- Whether a command of Normal mode takes the count in front of it. -/
def Command.takesCount : Command → Bool
  | .awaitZ | .awaitRegister | .undo | .redo | .repeatChange | .visual _ | .commandLine | .search _ | .scroll _
  | .exitSave | .forceQuit | .escape | .swapSelectionEnds | .blockInsert | .blockAppend => false
  | _ => true

namespace Pane

open Recorder (Stays)

variable {pane next : Pane} {key : Key}

theorem stays_runNormal {command : Command} (takes : command.takesCount = true) :
    (pane.recorder.noteCount pane.count).Stays (pane.runNormal command).recorder := by
  have taken : (pane.recorder.noteCount pane.count).Stays pane.takeCount.2.recorder := .refl
  cases command with
  | motion motion => exact taken.move motion pane.count
  | awaitFind find => exact taken
  | awaitG => exact taken
  | awaitReplace => exact taken
  | operator op => exact taken
  | insert => exact taken.mark
  | append => exact taken.appendHere (pane.count.getD 1)
  | insertAtLineStart => exact taken.mark
  | appendAtLineEnd => exact taken.mark
  | openBelow => exact (taken.openLine true).mark
  | openAbove => exact (taken.openLine false).mark
  | deleteChar => exact taken.operateOnCharsHere .delete (pane.count.getD 1)
  | substituteChar => exact taken.operateOnCharsHere .change (pane.count.getD 1)
  | deleteCharBefore => exact taken.eraseCharsBefore (pane.count.getD 1)
  | substituteLine => exact taken.operateOnLinesHere .change (pane.count.getD 1)
  | yankLine => exact taken.operateOnLinesHere .yank (pane.count.getD 1)
  | deleteToEnd => exact taken.operateByMotion ⟨.delete, pane.count⟩ .lineEnd none
  | changeToEnd => exact taken.operateByMotion ⟨.change, pane.count⟩ .lineEnd none
  | putAfter => exact taken.put true (pane.count.getD 1)
  | putBefore => exact taken.put false (pane.count.getD 1)
  | joinLines => exact taken.joinLines pane.cursor.pos.line (pane.count.getD 2)
  | toggleCase => exact taken.toggleCase (pane.count.getD 1)
  | replaceMode => exact taken.mark
  | _ => contradiction

/-- No other command notes one. -/
theorem stays_runNormal_uncounted {command : Command} (leaves : command.takesCount = false) :
    pane.recorder.Stays (pane.runNormal command).recorder := by
  have dropped : pane.recorder.Stays pane.dropCount.recorder := .refl
  cases command with
  | undo => exact dropped.revisit History.undo (pane.count.getD 1)
  | redo => exact dropped.revisit History.redo (pane.count.getD 1)
  | scroll way => exact dropped.scroll way pane.count
  | commandLine => exact .cancel .refl
  | search direction => exact .cancel .refl
  | exitSave => exact Stays.refl.execute .exitSave
  | forceQuit => exact .refl
  | visual kind => exact .refl
  | awaitZ => exact .refl
  | awaitRegister => exact .refl
  | repeatChange => exact .refl
  | escape => exact .refl
  | swapSelectionEnds => exact .refl
  | blockInsert => exact .refl
  | blockAppend => exact .refl
  | _ => contradiction

/-- Behind an operator that waits, a key other than a digit opens a text object, gives the command up, or takes
the count. -/
theorem handleOperatorKey_notes (pane : Pane) (pending : PendingOperator)
    (other : key.countDigit? pane.count.isSome = none) :
    (∃ c ∈ key.typed?, (c = 'i' ∨ c = 'a') ∧
        pane.handleOperatorKey pending key = pane.await (.object (some pending) (c == 'a'))) ∨
      pane.handleOperatorKey pending key = pane.cancelCommand ∨
        (pane.recorder.noteCount pane.count).Stays (pane.handleOperatorKey pending key).recorder := by
  have taken : (pane.recorder.noteCount pane.count).Stays pane.takeCount.2.recorder := .refl
  unfold handleOperatorKey acceptDigit?
  rw [other]
  dsimp only [Option.map_none]
  split
  · split
    · exact .inr (.inr (taken.operateByMotion pending _ pane.count))
    · exact .inr (.inr taken)
    · exact .inr (.inr taken)
    · exact .inr (.inl rfl)
  · rename_i c typed
    split
    · exact .inr (.inr (taken.operateOnLinesHere pending.op ((mergeCounts pending.count pane.count).getD 1)))
    · split
      · rename_i opens
        exact .inl ⟨c, typed, opens, rfl⟩
      · split
        · exact .inr (.inr taken)
        · split
          · exact .inr (.inr taken)
          · split
            · exact .inr (.inr (taken.operateByMotion pending _ pane.count))
            · exact .inr (.inr taken)
            · exact .inr (.inr taken)
            · exact .inr (.inl rfl)

/-- What a key does to the recording: it is taken out again if it was a digit; otherwise the count is noted if
the key takes it, and the recording stays. -/
inductive Records (pane next : Pane) : Prop where
  | digit (counts : next.count.isSome = true) (drops : next.recorder = pane.recorder.dropDigit)
  | takes (stays : (pane.recorder.noteCount pane.count).Stays next.recorder)
  | leaves (stays : pane.recorder.Stays next.recorder)

namespace Records

theorem replaying (records : pane.Records next) : next.recorder.replaying = pane.recorder.replaying := by
  have revised : ∀ change, (pane.recorder.revise change).replaying = pane.recorder.replaying := by
    intro change
    unfold Recorder.revise
    split <;> rfl
  cases records with
  | digit counts drops => exact drops ▸ revised _
  | takes stays => exact stays.replaying.trans (revised _)
  | leaves stays => exact stays.replaying

/-- Without a count, nothing is noted. -/
theorem stays (records : pane.Records next) (uncounted : pane.count = none) (still : next.count = none) :
    pane.recorder.Stays next.recorder := by
  cases records with
  | digit counts drops => simp [still] at counts
  | takes stays =>
      rw [uncounted, Recorder.noteCount_none] at stays
      exact stays
  | leaves stays => exact stays

end Records

theorem records_acceptDigit {counted : Pane} (accepted : pane.acceptDigit? key = some counted) :
    pane.Records counted := by
  obtain ⟨digit, -, rfl⟩ := Option.map_eq_some_iff.1 accepted
  exact .digit rfl rfl

theorem records_handlePending (pending : Pending) (key : Key) : pane.Records (pane.handlePending pending key) := by
  have ended : pane.recorder.Stays (Pane.recorder { pane with pending := none }) := .refl
  unfold handlePending
  split
  · exact .leaves ended
  · cases pending with
    | register =>
        unfold completePending
        dsimp only
        split <;> exact .leaves ended
    | g op count =>
        unfold completePending
        dsimp only
        split
        · exact .leaves (ended.moveOrOperate _ _ _)
        · exact .leaves ended
    | z =>
        unfold completePending
        dsimp only
        split
        · exact .leaves (ended.execute _)
        · exact .leaves (ended.execute _)
        · exact .leaves ended
    | find find op count =>
        unfold completePending
        dsimp only
        split
        · rename_i c typed
          have found : pane.recorder.Stays
            (Pane.recorder { pane with pending := none, lastFind := some (find, c) }) := ended
          exact .leaves (found.moveOrOperate _ _ _)
        · exact .leaves ended
    | replace count => exact .leaves (ended.replaceChars _ _)
    | object op around =>
        unfold completePending
        dsimp only
        split
        · exact .leaves (ended.selectOrOperate _ _)
        · exact .leaves ended
    | operator op =>
        unfold completePending
        dsimp only
        cases digit : key.countDigit? pane.count.isSome with
        | some value =>
            unfold handleOperatorKey acceptDigit?
            rw [digit]
            exact .digit rfl rfl
        | none =>
            rcases handleOperatorKey_notes { pane with pending := none } op digit with
              ⟨c, -, -, opened⟩ | canceled | stays
            · rw [opened]
              exact .leaves ended
            · rw [canceled]
              exact .leaves ended
            · exact .takes stays

/-- The key behind an operator gives it up or takes the count, unless it opens a text object. -/
theorem handlePending_operator_notes (pane : Pane) (pending : PendingOperator)
    (other : key.countDigit? pane.count.isSome = none) (object : ∀ c ∈ key.typed?, ¬ (c = 'i' ∨ c = 'a')) :
    pane.handlePending (.operator pending) key = pane.cancelCommand ∨
      (pane.recorder.noteCount pane.count).Stays (pane.handlePending (.operator pending) key).recorder := by
  unfold handlePending
  split
  · exact .inl rfl
  · rcases handleOperatorKey_notes { pane with pending := none } pending other with
      ⟨c, typed, opens, -⟩ | notes
    · exact absurd opens (object c typed)
    · exact notes

theorem records_runNormal (command : Command) : pane.Records (pane.runNormal command) := by
  cases takes : command.takesCount with
  | true => exact .takes (stays_runNormal takes)
  | false => exact .leaves (stays_runNormal_uncounted takes)

theorem records_handleVisual (kind : VisualKind) (key : Key) : pane.Records (pane.handleVisual kind key) := by
  have taken : (pane.recorder.noteCount pane.count).Stays pane.takeCount.2.recorder := .refl
  have dropped : pane.recorder.Stays pane.dropCount.recorder := .refl
  unfold handleVisual
  split
  · exact records_handlePending _ key
  · split
    · rename_i accepted
      exact records_acceptDigit accepted
    · split
      · exact .leaves dropped
      · split
        · rename_i command found
          cases command with
          | motion motion => exact .takes (taken.move motion pane.count)
          | awaitFind find => exact .takes taken
          | awaitG => exact .takes taken
          | operator op => exact .leaves (dropped.operateOnSelection op)
          | toggleCase => exact .leaves dropped.toggleSelectionCase
          | joinLines => exact .leaves dropped.joinSelection
          | blockInsert => exact .leaves (Stays.refl.insertAtSelection false)
          | blockAppend => exact .leaves (Stays.refl.insertAtSelection true)
          | visual other =>
              refine .leaves ?_
              unfold runVisual
              exact .ite dropped.exitVisual dropped
          | commandLine => exact .leaves dropped.exitVisual.cancel
          | scroll way => exact .leaves (dropped.scroll way pane.count)
          | escape =>
              have canceled : pane.recorder.Stays pane.cancelCommand.recorder := .refl
              exact .leaves canceled.exitVisual
          | _ => exact .leaves .refl
        · exact .leaves .refl

/-- Whatever a key is handed to, it does no more to the recording, unless it repeats the last change. -/
theorem records_dispatchWith (other : pane.runsRepeat key = false) {again : Option Nat → Pane → Option Pane}
    (handed : dispatchWith again key pane = some next) : pane.Records next := by
  unfold dispatchWith at handed
  unfold runsRepeat at other
  split at handed
  · obtain rfl := Option.some.inj handed
    exact .leaves (Stays.refl.handlePromptKey _ key)
  · rename_i prompt
    split at handed
    · rename_i mode
      unfold handleNormal at handed
      split at handed
      · obtain rfl := Option.some.inj handed
        exact records_handlePending _ key
      · rename_i waits
        split at handed
        · rename_i accepted
          obtain rfl := Option.some.inj handed
          exact records_acceptDigit accepted
        · rename_i digit
          split at handed
          · rename_i found
            simp [prompt, mode, waits, digit, found] at other
          · obtain rfl := Option.some.inj handed
            exact records_runNormal _
          · obtain rfl := Option.some.inj handed
            exact .leaves .refl
    · obtain rfl := Option.some.inj handed
      exact .leaves (Stays.refl.handleTyping key)
    · obtain rfl := Option.some.inj handed
      exact .leaves (Stays.refl.handleTyping key)
    · obtain rfl := Option.some.inj handed
      exact records_handleVisual _ key
    · obtain rfl := Option.some.inj handed
      exact .leaves .refl

/-- Settling finishes the recording of a command, and the view follows the cursor. -/
theorem settle_finishes (pane : Pane) :
    pane.settle.recorder = (if pane.isIdle then pane.recorder.finish else pane.recorder) ∧
      pane.settle.view = pane.follow.view := by
  have settled : ∀ tidied : Pane, tidied.isIdle = pane.isIdle → tidied.recorder = pane.recorder →
      tidied.follow.view = pane.follow.view →
      ((if tidied.isIdle then { tidied with recorder := tidied.recorder.finish } else tidied).follow).recorder =
          (if pane.isIdle then pane.recorder.finish else pane.recorder) ∧
        ((if tidied.isIdle then { tidied with recorder := tidied.recorder.finish } else tidied).follow).view =
          pane.follow.view := by
    intro tidied idle recorder view
    rw [← idle, ← recorder, ← view]
    split <;> exact ⟨rfl, rfl⟩
  unfold settle syncModified
  dsimp only
  split <;> split <;> exact settled _ rfl rfl rfl

theorem recording_finish (recorder : Recorder) : recorder.finish.recording = none := by
  unfold Recorder.finish
  split
  · assumption
  · rfl

/-- Where nothing is half-typed, nothing is being recorded. -/
theorem Reached.recording (reached : Reached pane) (idle : pane.isIdle = true) :
    pane.recorder.recording = none := by
  induction reached with
  | start buffer options width height => rfl
  | @key pane next reached depth key handled ih =>
      obtain ⟨last, -, rfl⟩ := Option.map_eq_some_iff.1 handled
      have rests : last.isIdle = true := ((Alike.settle last).same (·.isIdle) fun _ => rfl).symm.trans idle
      rw [(settle_finishes last).1, rests]
      exact recording_finish _
  | @resize pane reached width height ih =>
      unfold Pane.resize at idle ⊢
      split at idle
      · rename_i same
        rw [if_pos same]
        exact ih idle
      · rename_i other
        rw [if_neg other]
        exact ih idle

theorem not_replaying_of_repeatChange (live : pane.recorder.replaying = false)
    {step : Key → Pane → Option Pane} {count : Option Nat}
    (repeated : repeatChange step count pane = some next) : next.recorder.replaying = false := by
  unfold repeatChange at repeated
  split at repeated
  · obtain rfl := Option.some.inj repeated
    exact live
  · obtain ⟨last, -, rfl⟩ := Option.map_eq_some_iff.1 repeated
    rfl

theorem replaying_record (pane : Pane) (key : Key) :
    (pane.record key).recorder.replaying = pane.recorder.replaying := by
  unfold record Recorder.push Recorder.start
  dsimp only
  split
  · split <;> rfl
  · rfl

theorem replaying_settle (pane : Pane) : pane.settle.recorder.replaying = pane.recorder.replaying := by
  have finished : pane.recorder.finish.replaying = pane.recorder.replaying := by
    unfold Recorder.finish
    split <;> rfl
  rw [(settle_finishes pane).1]
  split
  · exact finished
  · rfl

/-- Between keys, no change is being replayed. -/
theorem Reached.not_replaying (reached : Reached pane) : pane.recorder.replaying = false := by
  induction reached with
  | start buffer options width height => rfl
  | @key pane next reached depth key handled ih =>
      obtain ⟨last, handed, rfl⟩ := Option.map_eq_some_iff.1 handled
      obtain ⟨step, eq⟩ : ∃ step, dispatch depth = dispatchWith (repeatChange step) := by
        cases depth <;> exact ⟨_, rfl⟩
      have recorded : (pane.record key).recorder.replaying = false := (pane.replaying_record key).trans ih
      rw [replaying_settle]
      rw [eq] at handed
      cases repeats : (pane.record key).runsRepeat key with
      | false => exact (records_dispatchWith repeats handed).replaying.trans recorded
      | true =>
          rw [dispatchWith_of_repeat repeats] at handed
          have dropped : (pane.record key).dropCount.recorder.replaying = false := recorded
          exact not_replaying_of_repeatChange dropped handed
  | @resize pane reached width height ih =>
      unfold Pane.resize
      split <;> exact ih

end Pane

end ModalPanes
