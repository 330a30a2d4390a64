import ModalPanes.Proofs.Pane.Reaching

/-!
# Repeating a change comes to an end

A repeated change hands its keys out once more, and a key among them that repeats would start the change
again.  Such a key is never recorded as a command; it is there as typed text, or as the character of a
search or of a register.  A replay that comes to it with typing under way types it once more.  But where the
command in front of it fails, the typed text is read as commands, and the change repeats itself for ever.
-/

namespace ModalPanes

namespace Pane

variable {pane next : Pane} {key : Key} {keys : List Key}

/-- The pane in which the keys of a change are handed out again. -/
def replayOf (pane : Pane) (change : RecordedChange) : Pane :=
  { pane with
    count := pane.count.or change.count
    recorder := { pane.recorder with replaying := true } }

/-- The pane once they have been handed out. -/
def replayed (pane : Pane) : Pane :=
  { pane with recorder := { pane.recorder with replaying := false } }

theorem repeatChange_eq {change : RecordedChange} (last : pane.recorder.last = some change)
    (step : Key → Pane → Option Pane) :
    repeatChange step pane.count pane.dropCount =
      (change.keys.foldlM (fun pane key => step key pane) (pane.replayOf change)).map replayed := by
  unfold repeatChange
  rw [show pane.dropCount.recorder.last = some change from last]
  rfl

/-- The keys are handed out one after the other, and none of them repeats the last change. -/
inductive Replays : Pane → List Key → Pane → Prop where
  | nil (pane : Pane) : Replays pane [] pane
  | cons {pane middle next : Pane} {key : Key} {keys : List Key} (other : pane.runsRepeat key = false)
      (handed : ∀ again, dispatchWith again key pane = some middle) (rest : Replays middle keys next) :
      Replays pane (key :: keys) next

/-- A key that does not repeat the last change is handed out, whatever repeating it would do. -/
theorem exists_dispatchWith_of_not_repeat (other : pane.runsRepeat key = false) :
    ∃ next, ∀ again, dispatchWith again key pane = some next := by
  unfold dispatchWith
  unfold runsRepeat at other
  cases prompt : pane.prompt with
  | some state => exact ⟨_, fun again => rfl⟩
  | none =>
      cases mode : pane.mode with
      | normal =>
          unfold handleNormal
          cases waits : pane.pending with
          | some pending => exact ⟨_, fun again => rfl⟩
          | none =>
              cases digit : pane.acceptDigit? key with
              | some counted => exact ⟨_, fun again => rfl⟩
              | none =>
                  cases found : Keymap.findOrMotion? Keymap.normal key with
                  | none => exact ⟨_, fun again => rfl⟩
                  | some command =>
                      have ordinary : command ≠ .repeatChange := by
                        rintro rfl
                        simp [prompt, mode, waits, digit, found] at other
                      refine ⟨pane.runNormal command, fun again => ?_⟩
                      dsimp only
                      split <;> simp_all
      | insert => exact ⟨_, fun again => rfl⟩
      | replace => exact ⟨_, fun again => rfl⟩
      | visual kind => exact ⟨_, fun again => rfl⟩
      | commandLine => exact ⟨_, fun again => rfl⟩

theorem handleKey_of_handed (handed : ∀ again, dispatchWith again key (pane.record key) = some next) :
    pane.handleKey key = next.settle := by
  obtain ⟨again, eq⟩ := exists_dispatchWith deepestRepeat
  unfold Pane.handleKey handleKeyWithin
  rw [eq, handed again]
  rfl

theorem dispatchWith_of_repeat (repeats : pane.runsRepeat key = true)
    (again : Option Nat → Pane → Option Pane) :
    dispatchWith again key pane = again pane.count pane.dropCount := by
  simp only [runsRepeat, Bool.and_eq_true, Option.isNone_iff_eq_none, beq_iff_eq] at repeats
  obtain ⟨⟨⟨⟨prompt, mode⟩, waits⟩, digit⟩, found⟩ := repeats
  unfold dispatchWith handleNormal
  rw [prompt, mode, waits, digit, found]

namespace Replays

theorem append {middle : Pane} {front back : List Key} (first : Replays pane front middle)
    (second : Replays middle back next) : Replays pane (front ++ back) next := by
  induction first with
  | nil pane => exact second
  | cons other handed rest ih => exact .cons other handed (ih second)

/-- Such a replay takes no further repetition. -/
theorem foldlM (replays : Replays pane keys next) (again : Option Nat → Pane → Option Pane) :
    keys.foldlM (fun pane key => dispatchWith again key pane) pane = some next := by
  induction replays with
  | nil pane => rfl
  | cons other handed rest ih =>
      rw [List.foldlM_cons, handed again]
      exact ih

theorem coherent (replays : Replays pane keys next) (coherent : pane.Coherent) : next.Coherent := by
  induction replays with
  | nil pane => exact coherent
  | cons other handed rest ih =>
      refine ih (coherent.handOut (fun _ none => ?_) (handed fun _ _ => none))
      contradiction

end Replays

theorem Replays.handleKeyWithin (repeats : (pane.record key).runsRepeat key = true)
    {change : RecordedChange} (last : (pane.record key).recorder.last = some change)
    (replays : Replays ((pane.record key).replayOf change) change.keys next) (depth : Nat) :
    pane.handleKeyWithin (depth + 1) key = some next.replayed.settle := by
  obtain ⟨again, eq⟩ := exists_dispatchWith depth
  unfold Pane.handleKeyWithin dispatch
  rw [dispatchWith_of_repeat repeats, repeatChange_eq last, eq, replays.foldlM again]
  rfl

theorem Replays.handleKey (repeats : (pane.record key).runsRepeat key = true)
    {change : RecordedChange} (last : (pane.record key).recorder.last = some change)
    (replays : Replays ((pane.record key).replayOf change) change.keys next) :
    pane.handleKey key = next.replayed.settle := by
  unfold Pane.handleKey
  rw [show deepestRepeat = UInt64.size - 1 + 1 from rfl, replays.handleKeyWithin repeats last]
  rfl

theorem record_last (pane : Pane) (key : Key) :
    (pane.record key).recorder.last = pane.recorder.last := by
  unfold record Recorder.push Recorder.start
  dsimp only
  split
  · split <;> rfl
  · rfl

/-- The next key is taken for a command of Normal mode. -/
def takesCommand (pane : Pane) : Bool :=
  pane.prompt.isNone && pane.mode == .normal && pane.pending.isNone

/-- The keys of a change do not repeat it when they are handed out again: a key that repeats where a command
is expected is handed out only where none is, as typed text or as the character of a search or of a
register. -/
inductive Retypes : Pane → List Key → Prop where
  | nil (pane : Pane) : Retypes pane []
  | cons {pane : Pane} {key : Key} {keys : List Key}
      (text : Keymap.findOrMotion? Keymap.normal key = some .repeatChange → pane.takesCommand = false)
      (rest : ∀ middle, (∀ again, dispatchWith again key pane = some middle) → Retypes middle keys) :
      Retypes pane (key :: keys)

theorem runsRepeat_of_text
    (text : Keymap.findOrMotion? Keymap.normal key = some .repeatChange → pane.takesCommand = false) :
    pane.runsRepeat key = false := by
  rw [← Bool.not_eq_true]
  intro repeats
  simp only [runsRepeat, Bool.and_eq_true, beq_iff_eq] at repeats
  obtain ⟨⟨⟨⟨prompt, mode⟩, waits⟩, -⟩, found⟩ := repeats
  simpa [takesCommand, prompt, mode, waits] using text found

theorem dispatchWith_typing (prompt : pane.prompt = none) (typing : pane.mode.isTyping = true)
    (again : Option Nat → Pane → Option Pane) (key : Key) :
    pane.runsRepeat key = false ∧ dispatchWith again key pane = some (pane.handleTyping key) := by
  unfold runsRepeat dispatchWith
  cases mode : pane.mode <;> simp_all [Mode.isTyping]

namespace Retypes

theorem replays (retypes : pane.Retypes keys) : ∃ next, Replays pane keys next := by
  induction retypes with
  | nil pane => exact ⟨pane, .nil pane⟩
  | cons text rest ih =>
      have other := runsRepeat_of_text text
      obtain ⟨middle, handed⟩ := exists_dispatchWith_of_not_repeat other
      obtain ⟨next, replays⟩ := ih middle handed
      exact ⟨next, .cons other handed replays⟩

theorem append {front back : List Key} (first : pane.Retypes front)
    (second : ∀ middle, Replays pane front middle → middle.Retypes back) : pane.Retypes (front ++ back) := by
  induction first with
  | nil pane => exact second pane (.nil pane)
  | cons text rest ih =>
      refine .cons text fun middle handed => ih middle handed fun next replays => second next ?_
      exact .cons (runsRepeat_of_text text) handed replays

/-- Keys that do not repeat in Normal mode do not do it anywhere. -/
theorem of_others (others : ∀ key ∈ keys, Keymap.findOrMotion? Keymap.normal key ≠ some .repeatChange)
    (pane : Pane) : pane.Retypes keys := by
  induction keys generalizing pane with
  | nil => exact .nil pane
  | cons key keys ih =>
      obtain ⟨first, rest⟩ := List.forall_mem_cons.1 others
      exact .cons (fun repeats => absurd repeats first) fun middle _ => ih rest middle

end Retypes

def typedInto (text : List Char) (keys : List Key) : Pane :=
  (showing (.ofText text) {} 20 5).handleKeys keys

theorem reached_typedInto (text : List Char) (keys : List Key) : Reached (typedInto text keys) :=
  (Reached.start _ _ _ _).handleKeys keys

section Loops

variable {change : RecordedChange} {front back : List Key}

end Loops

end Pane

end ModalPanes
