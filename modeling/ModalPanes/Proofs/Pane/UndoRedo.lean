import ModalPanes.Proofs.Pane.Faithful
import Mathlib.Logic.Function.Iterate

/-!
# Undo and redo are exact

The chronicle of a pane goes along with its keys and takes down the text whenever a step is committed.
Between changes the present text is the one taken down last; going back any number of steps comes to
exactly the text taken down that many steps earlier, and going as far forth again to the present one.
-/

namespace ModalPanes

namespace History

variable {texts : Nat → List Char} {history : History} {text : List Char}

/-- The texts that a history comes back to: the first one, and behind it those at which the steps done
were committed, the oldest first. -/
def stages (texts : Nat → List Char) (history : History) : List (List Char) :=
  texts 0 :: history.done.reverse.map fun step => texts step.id

theorem Done.stage (tracked : Done texts history.done text) :
    (history.stages texts)[history.done.length]? = some text := by
  unfold stages
  generalize history.done = done at tracked ⊢
  cases tracked with
  | nil plain => rfl
  | cons earlier leads => simp

theorem stages_back (history : History) {count : Nat} (le : count ≤ history.done.length) :
    (history.back count).stages texts =
      (history.stages texts).take (history.done.length - count + 1) := by
  simp only [stages, back, List.take_succ_cons, ← List.map_take, List.take_reverse]
  rw [Nat.sub_sub_self le]

/-- The text some steps back is the one taken down that many steps earlier. -/
theorem Done.stage_back {count : Nat} (le : count ≤ history.done.length)
    (tracked : Done texts (history.back count).done text) :
    (history.stages texts)[history.done.length - count]? = some text := by
  have stage := tracked.stage
  rw [stages_back history le] at stage
  simpa [back] using stage

end History

namespace Pane

open History (Tracks textsAfter)

variable {texts : Nat → List Char} {base first : List Char} {pane next : Pane} {key : Key}

section Ways

variable {step : History → Buffer → Option Position × History × Buffer}
  {move : History → Nat → History} (way : History.Way step move)
include way

/-- Going back or forth one step at a time. -/
theorem Recorded.iterate (recorded : pane.Recorded texts pane.buffer.text)
    (closed : pane.history.current = none) (count : Nat) :
    ((·.revisit step 1)^[count] pane).history = move pane.history count ∧
      ((·.revisit step 1)^[count] pane).Recorded texts
        ((·.revisit step 1)^[count] pane).buffer.text := by
  induction count with
  | zero =>
      rw [way.zero]
      exact ⟨rfl, recorded⟩
  | succ count ih =>
      rw [Function.iterate_succ_apply']
      obtain ⟨led, recordedAfter⟩ := ih
      obtain ⟨ledOn, recordedOn⟩ := recordedAfter.revisit way
        (by rw [led, way.current]; exact closed) 1
      rw [led, Nat.max_self, way.add] at ledOn
      exact ⟨ledOn, recordedOn⟩

end Ways

section Keys

/-- Where nothing is half-typed, a key that is no digit runs its command. -/
theorem dispatchWith_of_idle (idle : pane.isIdle = true) (noDigit : key.countDigit? false = none)
    {command : Command} (found : Keymap.findOrMotion? Keymap.normal key = some command)
    (ordinary : command ≠ .repeatChange) (again : Option Nat → Pane → Option Pane) :
    dispatchWith again key pane = some (pane.runNormal command) := by
  obtain ⟨mode, pending, count, -, prompt⟩ := isIdle_iff.1 idle
  unfold dispatchWith handleNormal acceptDigit?
  simp only [prompt, mode, pending, count, Option.isSome_none, noDigit, Option.map_none, found]

variable {step : History → Buffer → Option Position × History × Buffer}
  {move : History → Nat → History}

/-- A key that goes one step back or forth. -/
structure Steps (step : History → Buffer → Option Position × History × Buffer) (key : Key)
    (command : Command) : Prop where
  noDigit : key.countDigit? false = none
  found : Keymap.findOrMotion? Keymap.normal key = some command
  ordinary : command ≠ .repeatChange
  runs (pane : Pane) : pane.runNormal command = pane.dropCount.revisit step (pane.count.getD 1)

theorem undo_steps : Steps History.undo (.char 'u') .undo where
  noDigit := rfl
  found := by decide
  ordinary := by decide
  runs _ := rfl

theorem redo_steps : Steps History.redo (.ctrl 'r') .redo where
  noDigit := rfl
  found := by decide
  ordinary := by decide
  runs _ := rfl

variable {command : Command} (way : History.Way step move) (steps : Steps step key command)
include way steps

/-- Where nothing is half-typed, the key goes one step and leaves nothing half-typed. -/
theorem Recorded.handleKey (recorded : pane.Recorded texts pane.buffer.text)
    (closed : pane.history.current = none) (idle : pane.isIdle = true) :
    (pane.handleKey key).history = move pane.history 1 ∧
      (pane.handleKey key).Recorded texts (pane.handleKey key).buffer.text ∧
        (pane.handleKey key).isIdle = true := by
  have recording : (pane.record key).isIdle = true := idle
  have run := dispatchWith_of_idle recording steps.noDigit steps.found steps.ordinary
  have counted : ((pane.record key).count.getD 1) = 1 := by
    rw [show (pane.record key).count = none from (isIdle_iff.1 recording).2.2.1]
    rfl
  rw [steps.runs, counted] at run
  have dropped : (pane.record key).dropCount.Recorded texts pane.buffer.text := recorded
  obtain ⟨led, tracks⟩ := dropped.revisit way closed 1
  have eq := revisit_eq (pane.record key).dropCount step 1
  have handled : pane.handleKey key = settle ((pane.record key).dropCount.revisit step 1) := by
    obtain ⟨again, eq⟩ := exists_dispatchWith deepestRepeat
    unfold Pane.handleKey handleKeyWithin
    rw [eq, run]
    rfl
  generalize (pane.record key).dropCount.revisit step 1 = next at led tracks eq handled
  have closedNext : next.history.current = none :=
    (congrArg History.current led).trans ((way.current _ _).trans closed)
  have settled : next.settledHistory = next.history := by
    unfold settledHistory
    rw [if_neg]
    simp [History.isOpen, closedNext]
  obtain ⟨recorder, view, settledEq, -⟩ := settle_eq next
  rw [handled, settledEq, settled]
  refine ⟨led, tracks, ?_⟩
  obtain ⟨mode, pending, -, register, prompt⟩ := isIdle_iff.1 recording
  rw [eq]
  exact isIdle_iff.2 ⟨mode, pending, rfl, register, prompt⟩

/-- Where nothing is half-typed, the key pressed some times goes as many steps. -/
theorem Recorded.handleKeys (recorded : pane.Recorded texts pane.buffer.text)
    (closed : pane.history.current = none) (idle : pane.isIdle = true) (count : Nat) :
    (pane.handleKeys (.replicate count key)).history = move pane.history count ∧
      (pane.handleKeys (.replicate count key)).Recorded texts
        (pane.handleKeys (.replicate count key)).buffer.text ∧
          (pane.handleKeys (.replicate count key)).isIdle = true := by
  induction count generalizing pane with
  | zero =>
      rw [way.zero]
      exact ⟨rfl, recorded, idle⟩
  | succ count ih =>
      obtain ⟨led, tracks, idleAfter⟩ := recorded.handleKey way steps closed idle
      obtain ⟨ledOn, rest⟩ := ih tracks ((congrArg History.current led).trans
        ((way.current _ _).trans closed)) idleAfter
      rw [led, way.add, Nat.add_comm 1 count] at ledOn
      exact ⟨ledOn, rest⟩

end Keys

/-- The chronicle of a pane: plain keys lead to it from a first pane, and none of them repeats the last
change; `texts` has the text at which every step was committed, by the number given out for it, and the
first text under zero. -/
inductive Chronicle (first : Pane) : (Nat → List Char) → Pane → Prop where
  | start : Chronicle first (fun _ => first.buffer.text) first
  | key {texts : Nat → List Char} {pane : Pane} (chronicle : Chronicle first texts pane) {key : Key}
      (known : key.Known .plain) (never : pane.runsRepeat key = false) :
      Chronicle first
        (textsAfter texts pane.history (pane.handleKey key).history (pane.handleKey key).buffer.text)
        (pane.handleKey key)

/-- What undo and redo come to in a pane that no step is under way in. -/
structure Retraces (texts : Nat → List Char) (first : List Char) (pane : Pane) : Prop where
  /-- The first text and the present one are the first and the last of the stages. -/
  first : (pane.history.stages texts)[0]? = some first
  present : (pane.history.stages texts)[pane.history.done.length]? = some pane.buffer.text
  /-- Undoing some steps comes to exactly the text that many stages earlier. -/
  undo : ∀ count ≤ pane.history.done.length,
    (pane.history.stages texts)[pane.history.done.length - count]? =
      some ((·.undo 1)^[count] pane).buffer.text
  /-- Redoing as many steps comes to the present text again. -/
  redo : ∀ count ≤ pane.history.done.length,
    ((·.redo 1)^[count] ((·.undo 1)^[count] pane)).buffer.text = pane.buffer.text
  /-- A count does the same. -/
  counted : ∀ count, 1 ≤ count → count ≤ pane.history.done.length →
    (pane.undo count).buffer.text = ((·.undo 1)^[count] pane).buffer.text ∧
      ((pane.undo count).redo count).buffer.text = pane.buffer.text
  /-- Where nothing is half-typed, so do the keys. -/
  keys : pane.isIdle = true → ∀ count ≤ pane.history.done.length,
    (pane.handleKeys (.replicate count (.char 'u'))).buffer.text =
        ((·.undo 1)^[count] pane).buffer.text ∧
      ((pane.handleKeys (.replicate count (.char 'u'))).handleKeys
        (.replicate count (.ctrl 'r'))).buffer.text = pane.buffer.text
  /-- Before the first text and behind the newest one nothing changes. -/
  oldest : ∀ more, ((·.undo 1)^[pane.history.done.length] pane).undo more =
    (·.undo 1)^[pane.history.done.length] pane
  newest : ∀ more, ((·.redo 1)^[pane.history.undone.length] pane).redo more =
    (·.redo 1)^[pane.history.undone.length] pane

/-- One text stands wherever the steps done are the same. -/
theorem Recorded.text_eq {other : Pane} (recorded : pane.Recorded texts pane.buffer.text)
    (otherRecorded : other.Recorded texts other.buffer.text) (same : other.history = pane.history) :
    other.buffer.text = pane.buffer.text := by
  rw [(Tracks.done otherRecorded).eq_texts_stateId, (Tracks.done recorded).eq_texts_stateId, same]

/-- Wherever a pane stands some steps back, it shows the text taken down that many steps earlier. -/
theorem Recorded.stage_back {other : Pane} {count : Nat} (le : count ≤ pane.history.done.length)
    (otherRecorded : other.Recorded texts other.buffer.text)
    (led : other.history = pane.history.back count) :
    (pane.history.stages texts)[pane.history.done.length - count]? = some other.buffer.text := by
  refine History.Done.stage_back le ?_
  rw [← led]
  exact Tracks.done otherRecorded

/-- Some steps back and as many forth again, a pane shows the same text. -/
theorem Recorded.text_forth {other : Pane} {count : Nat} (le : count ≤ pane.history.done.length)
    (recorded : pane.Recorded texts pane.buffer.text)
    (otherRecorded : other.Recorded texts other.buffer.text)
    (led : other.history = (pane.history.back count).forth count) :
    other.buffer.text = pane.buffer.text :=
  recorded.text_eq otherRecorded (led.trans (History.forth_back le))

theorem Recorded.retraces (recorded : pane.Recorded texts pane.buffer.text)
    (closed : pane.history.current = none) : pane.Retraces texts (texts 0) := by
  have back := recorded.iterate History.undo_way closed
  have forth := recorded.iterate History.redo_way closed
  have closedBack : ∀ count, ((·.undo 1)^[count] pane).history.current = none := fun count =>
    (congrArg History.current (back count).1).trans closed
  refine
    { first := rfl
      present := (Tracks.done recorded).stage
      undo := fun count le => Recorded.stage_back le (back count).2 (back count).1
      redo := ?_
      counted := ?_
      keys := ?_
      oldest := ?_
      newest := ?_ }
  · intro count le
    obtain ⟨led, tracks⟩ := (back count).2.iterate History.redo_way (closedBack count) count
    rw [(back count).1] at led
    exact recorded.text_forth le tracks led
  · intro count positive le
    obtain ⟨led, tracks⟩ := recorded.revisit History.undo_way closed count
    rw [Nat.max_eq_left positive] at led
    refine ⟨(back count).2.text_eq tracks (led.trans (back count).1.symm), ?_⟩
    obtain ⟨ledForth, tracksForth⟩ := Recorded.revisit History.redo_way tracks
      ((congrArg History.current led).trans closed) count
    rw [Nat.max_eq_left positive] at ledForth
    exact recorded.text_forth le tracksForth (ledForth.trans (congrArg (·.forth count) led))
  · intro idle count le
    obtain ⟨led, tracks, idleBack⟩ := recorded.handleKeys History.undo_way undo_steps closed idle count
    refine ⟨(back count).2.text_eq tracks (led.trans (back count).1.symm), ?_⟩
    obtain ⟨ledForth, tracksForth, -⟩ := tracks.handleKeys History.redo_way redo_steps
      ((congrArg History.current led).trans closed) idleBack count
    exact recorded.text_forth le tracksForth (ledForth.trans (congrArg (·.forth count) led))
  · intro more
    refine revisit_of_stuck History.undo_way (closedBack _) ?_ more
    rw [History.undo_of_done (closedBack _)]
    exact (congrArg History.done (back _).1).trans List.drop_length
  · intro more
    refine revisit_of_stuck History.redo_way
      ((congrArg History.current (forth _).1).trans closed) ?_ more
    rw [History.redo_of_undone]
    exact (congrArg History.undone (forth _).1).trans List.drop_length

theorem Chronicle.invariant {first : Pane} (chronicle : Chronicle first texts pane)
    (start : first.Faithful fun _ => first.buffer.text) :
    pane.Faithful texts ∧ texts 0 = first.buffer.text := by
  induction chronicle with
  | start => exact ⟨start, rfl⟩
  | key chronicle known never ih =>
      obtain ⟨faithful, firstText⟩ := ih
      refine ⟨faithful.handleKey known never, ?_⟩
      obtain ⟨next, handled, arrives⟩ := faithful.arrives known never
      rw [← firstText, handled]
      exact arrives.textsAfter_of_le (Nat.zero_le _)

/-- From any plain text, whatever plain keys are pressed short of repeating the last change: where no
step is under way, undo and redo come to exactly the texts at which the steps were committed, and once a
key commits a change there is nothing to redo. -/
theorem Chronicle.undo_redo_exact {buffer : Buffer} (plain : Plain buffer.text) {options : Options}
    {width height : Nat} (chronicle : Chronicle (showing buffer options width height) texts pane) :
    (pane.history.current = none → pane.Retraces texts buffer.text) ∧
      ∀ key : Key, key.Known .plain → pane.runsRepeat key = false →
        (pane.handleKey key).history.lastId ≠ pane.history.lastId →
          (pane.handleKey key).history.undone = [] ∧
            ∀ count, (pane.handleKey key).redo count = pane.handleKey key := by
  obtain ⟨faithful, firstText⟩ := chronicle.invariant (faithful_showing plain options width height)
  constructor
  · intro closed
    obtain ⟨base, recorded⟩ := faithful.recorded
    obtain rfl := Tracks.closed recorded closed
    exact firstText ▸ Recorded.retraces recorded closed
  · intro key known never given
    obtain ⟨next, handled, arrives⟩ := faithful.arrives known never
    rw [handled] at given ⊢
    rcases arrives.lastId_settle with same | ⟨-, closed, undone⟩
    · contradiction
    · refine ⟨undone, fun count => revisit_of_stuck History.redo_way closed ?_ count⟩
      rw [History.redo_of_undone undone]

/-- A character and a line are deleted: three texts to go back and forth between. -/
theorem undo_redo_exact_deletions :
    ∃ texts pane, Chronicle (showing (.ofText "ab\ncd".toList) {} 20 5) texts pane ∧
      pane.history.stages texts = ["ab\ncd".toList, "b\ncd".toList, "cd".toList] ∧
        pane.Retraces texts "ab\ncd".toList := by
  have known : ∀ c, IsPlain c → (Key.char c).Known .plain := by
    rintro c plain _ ⟨⟩
    exact plain
  have fresh := @Chronicle.start (showing (.ofText "ab\ncd".toList) {} 20 5)
  have once := fresh.key (known 'x' (by decide)) (by decide +kernel)
  have half := once.key (known 'd' (by decide)) (by decide +kernel)
  have twice := half.key (known 'd' (by decide)) (by decide +kernel)
  have plain : Plain (Buffer.ofText "ab\ncd".toList).text := by decide
  refine ⟨_, _, twice, by decide +kernel, (twice.undo_redo_exact plain).1 (by decide +kernel)⟩

end Pane

end ModalPanes
