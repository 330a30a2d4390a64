import ModalPanes.Proofs.Pane.Turns
import ModalPanes.Proofs.View.Scrolling

/-!
# Every reachable pane is settled

From any text and at any size, keys and changes of size lead only to panes whose parts fit together: the
cursor and both ends of a selection stand in the text, the prompt, the typing under way and the selection
are there in exactly the modes that they belong to, a step of the history is under way only while typing,
and the view starts on a line of the buffer.  A repeated change hands its keys out without settling in
between; they keep the pane coherent all the same, at every depth of repetitions.
-/

namespace ModalPanes

namespace Pane

/-- Panes reached from a new one by keys that come to an end and by changes of size. -/
inductive Reached : Pane → Prop where
  | start (buffer : Buffer) (options : Options) (width height : Nat) :
      Reached (showing buffer options width height)
  | key {pane next : Pane} (reached : Reached pane) {depth : Nat} {key : Key}
      (handled : handleKeyWithin depth key pane = some next) : Reached next
  | resize {pane : Pane} (reached : Reached pane) (width height : Nat) :
      Reached (pane.resize width height)

/-- What the parts of a pane have to do with each other between keys. -/
structure Settled (pane : Pane) : Prop where
  /-- The cursor is on a line of the buffer, and not behind its end. -/
  line : pane.cursor.pos.line < pane.buffer.lineCount
  col : pane.cursor.pos.col ≤ pane.buffer.lineLength pane.cursor.pos.line
  /-- In Normal mode and at a prompt it is on a character. -/
  onCharacter : pane.mode = .normal ∨ pane.mode = .commandLine →
    pane.cursor.pos.col ≤ pane.buffer.lineLength pane.cursor.pos.line - 1
  /-- A prompt is open at the command line alone, and returns to Normal mode. -/
  prompt : pane.prompt.isSome ↔ pane.mode = .commandLine
  origin : ∀ state ∈ pane.prompt, state.origin = .normal
  /-- There is typing under way in Insert and Replace mode alone. -/
  typing : pane.insert.isSome ↔ pane.mode = .insert ∨ pane.mode = .replace
  /-- There is a selection in Visual mode alone, and its fixed end is in the buffer. -/
  selection : pane.cursor.anchor.isSome ↔ ∃ kind, pane.mode = .visual kind
  anchor : ∀ anchor ∈ pane.cursor.anchor,
    anchor.line < pane.buffer.lineCount ∧ anchor.col ≤ pane.buffer.lineLength anchor.line
  /-- A step of the history is under way only while typing. -/
  history : pane.history.isOpen → pane.mode = .insert ∨ pane.mode = .replace
  /-- The view starts on a line of the buffer. -/
  top : pane.view.top < pane.buffer.lineCount

variable {pane next : Pane} {key : Key}

theorem isIdle_iff :
    pane.isIdle = true ↔ pane.mode = .normal ∧ pane.pending = none ∧ pane.count = none ∧
      pane.register = none ∧ pane.prompt = none := by
  simp [isIdle, and_assoc]

theorem spelled_every (pane : Pane) : pane.Spelled .every where
  text _ _ := trivial
  registers := ⟨fun _ _ => trivial, fun _ _ _ _ => trivial⟩
  insert _ _ := ⟨fun _ _ => trivial, fun _ _ _ _ => trivial⟩
  prompt _ _ _ _ := trivial
  replacement _ _ _ _ := trivial

/-- What happens around every key leaves the parts of a pane together. -/
theorem Coherent.around (coherent : pane.Coherent) (history : History) (modified : Bool)
    (recorder : Recorder) (width height : Nat) (view : View) (closing : Bool) :
    Coherent
      { pane with
        history := history
        buffer := { pane.buffer with modified := modified }
        recorder := recorder
        width := width
        height := height
        view := view
        closing := closing } := by
  cases coherent with
  | normal rest awaited => exact .normal { rest with } awaited
  | typing mode session quiet placed => exact .typing mode session { quiet with } placed
  | visual selecting awaited => exact .visual { selecting with } awaited
  | prompting state mode prompt rest => exact .prompting state mode prompt { rest with }

theorem Coherent.recorded (coherent : pane.Coherent) (recorder : Recorder) :
    Coherent { pane with recorder := recorder } :=
  coherent.around pane.history pane.buffer.modified recorder pane.width pane.height pane.view
    pane.closing

theorem Coherent.resize (coherent : pane.Coherent) (width height : Nat) :
    (pane.resize width height).Coherent := by
  unfold Pane.resize
  split
  · exact coherent
  · exact coherent.around pane.history pane.buffer.modified pane.recorder width height _ pane.closing

/-- Handing out a key keeps a pane coherent, if repeating the last change does. -/
theorem Coherent.handOut (coherent : pane.Coherent) {again : Option Nat → Pane → Option Pane}
    (repeats : ∀ {count : Option Nat} {pane next : Pane},
      pane.AtRest → again count pane = some next → next.Coherent)
    (handed : Pane.dispatchWith again key pane = some next) : next.Coherent := by
  have known : key.Known .every := fun _ _ => trivial
  rcases coherent.dispatchWith pane.spelled_every known again with
    ⟨-, rest, same⟩ | ⟨-, other, same, turns⟩
  · rw [same] at handed
    have dropped : pane.dropCount.AtRest := { rest with }
    exact repeats dropped handed
  · obtain rfl := Option.some.inj (same.symm.trans handed)
    exact turns.1

/-- What every key keeps is kept by all keys that are handed out. -/
theorem foldlM_keeps {kept : Pane → Prop} {step : Key → Pane → Option Pane}
    (steps : ∀ {key : Key} {pane next : Pane}, kept pane → step key pane = some next → kept next)
    {keys : List Key} (start : kept pane)
    (done : keys.foldlM (fun pane key => step key pane) pane = some next) : kept next := by
  induction keys generalizing pane with
  | nil =>
      obtain rfl := Option.some.inj done
      exact start
  | cons key keys ih =>
      rw [List.foldlM_cons] at done
      obtain ⟨middle, first, later⟩ := Option.bind_eq_some_iff.1 done
      exact ih (steps start first) later

/-- Repeating a change keeps a pane coherent, if handing out a key does. -/
theorem AtRest.repeatChange (rest : pane.AtRest) {step : Key → Pane → Option Pane}
    (steps : ∀ {key : Key} {pane next : Pane},
      pane.Coherent → step key pane = some next → next.Coherent)
    {count : Option Nat} (repeated : Pane.repeatChange step count pane = some next) :
    next.Coherent := by
  unfold Pane.repeatChange at repeated
  split at repeated
  · obtain rfl := Option.some.inj repeated
    exact rest.coherent
  · obtain ⟨last, done, rfl⟩ := Option.map_eq_some_iff.1 repeated
    have replayed : last.Coherent := by
      refine foldlM_keeps steps ?_ done
      exact AtRest.coherent { rest with }
    exact replayed.recorded _

/-- Within any number of nested repetitions, a key keeps a pane coherent. -/
theorem Coherent.dispatch (coherent : pane.Coherent) {depth : Nat}
    (handed : Pane.dispatch depth key pane = some next) : next.Coherent := by
  induction depth generalizing key pane next with
  | zero =>
      -- nothing is handed out at the innermost level, so there is nothing to show of it
      refine coherent.handOut (fun rest repeated => rest.repeatChange ?_ repeated) handed
      exact fun _ none => nomatch none
  | succ depth ih =>
      exact coherent.handOut (fun rest repeated => rest.repeatChange ih repeated) handed

/-- The history once a pane has settled: the step under way ends, unless typing goes on. -/
def settledHistory (pane : Pane) : History :=
  if !pane.mode.cursorPastEnd && pane.history.isOpen then (pane.history.commit pane.cursor.pos).1
  else pane.history

theorem syncModified_eq (pane : Pane) :
    pane.syncModified =
      { pane with
        buffer :=
          { pane.buffer with
            modified :=
              if pane.history.isOpen then pane.buffer.modified
              else pane.history.stateId != pane.savedId } } := by
  unfold syncModified
  split <;> simp_all

theorem settle_eq (pane : Pane) :
    ∃ recorder view, settle pane =
        { pane with
          history := pane.settledHistory
          buffer :=
            { pane.buffer with
              modified :=
                if pane.settledHistory.isOpen then pane.buffer.modified
                else pane.settledHistory.stateId != pane.savedId }
          recorder := recorder
          view := view } ∧
      view.top < pane.buffer.lineCount := by
  have closed : (if (!pane.mode.cursorPastEnd && pane.history.isOpen) = true then
      { pane with history := (pane.history.commit pane.cursor.pos).1 } else pane) =
        { pane with history := pane.settledHistory } := by
    unfold settledHistory
    split <;> rfl
  have synced := syncModified_eq { pane with history := pane.settledHistory }
  unfold settle
  dsimp only
  rw [closed]
  generalize syncModified { pane with history := pane.settledHistory } = next at synced ⊢
  subst synced
  generalize isIdle _ = idle
  cases idle with
  | true => exact ⟨_, _, rfl, View.scrollTo_lt _ _ _ _ _⟩
  | false => exact ⟨_, _, rfl, View.scrollTo_lt _ _ _ _ _⟩

theorem commit_closed (history : History) (cursor : Position) :
    (history.commit cursor).1.current = none := by
  unfold History.commit
  split
  · assumption
  · split <;> rfl

theorem settledHistory_isOpen (isOpen : pane.settledHistory.isOpen = true) :
    pane.mode.cursorPastEnd = true := by
  unfold settledHistory at isOpen
  split at isOpen
  · simp [History.isOpen, commit_closed] at isOpen
  · simp_all

theorem cursorPastEnd_iff {mode : Mode} :
    mode.cursorPastEnd = true ↔ mode = .insert ∨ mode = .replace := by
  cases mode <;> simp [Mode.cursorPastEnd]

theorem isTyping_iff {mode : Mode} : mode.isTyping = true ↔ mode = .insert ∨ mode = .replace := by
  cases mode <;> simp [Mode.isTyping]

section Phases

variable (history : pane.history.isOpen = true → pane.mode = .insert ∨ pane.mode = .replace)
  (top : pane.view.top < pane.buffer.lineCount)
include history top

theorem AtRest.settled_normal (rest : { pane with pending := none }.AtRest) : pane.Settled := by
  have mode : pane.mode = .normal := rest.mode
  have prompt : pane.prompt = none := rest.prompt
  have insert : pane.insert = none := rest.insert
  have anchor : pane.cursor.anchor = none := rest.anchor
  exact
    { line := rest.placed.1
      col := (rest.placed.widen true).2
      onCharacter := fun _ => rest.placed.2
      prompt := by simp [mode, prompt]
      origin := by simp [prompt]
      typing := by simp [mode, insert]
      selection := by simp [mode, anchor]
      anchor := by simp [anchor]
      history := history
      top := top }

theorem Quiet.settled_typing (quiet : { pane with insert := none, mode := .normal }.Quiet)
    (mode : pane.mode = .insert ∨ pane.mode = .replace) (session : pane.insert.isSome)
    (placed : pane.Placed true) : pane.Settled := by
  have prompt : pane.prompt = none := quiet.prompt
  have anchor : pane.cursor.anchor = none := quiet.anchor
  exact
    { line := placed.1
      col := placed.2
      onCharacter := by rcases mode with mode | mode <;> simp [mode]
      prompt := by rcases mode with mode | mode <;> simp [mode, prompt]
      origin := by simp [prompt]
      typing := ⟨fun _ => mode, fun _ => session⟩
      selection := by rcases mode with mode | mode <;> simp [mode, anchor]
      anchor := by simp [anchor]
      history := history
      top := top }

theorem Selecting.settled_visual (selecting : pane.Selecting) : pane.Settled := by
  obtain ⟨kind, mode⟩ := selecting.mode
  obtain ⟨anchor, isAnchor, admits⟩ := selecting.anchor
  exact
    { line := selecting.placed.1
      col := selecting.placed.2
      onCharacter := by simp [mode]
      prompt := by simp [mode, selecting.prompt]
      origin := by simp [selecting.prompt]
      typing := by simp [mode, selecting.insert]
      selection := by simp [mode, isAnchor]
      anchor := by
        rw [isAnchor]
        rintro _ ⟨⟩
        exact admits
      history := history
      top := top }

theorem AtRest.settled_prompting {state : PromptState}
    (rest : { pane with prompt := none, mode := state.origin }.AtRest)
    (mode : pane.mode = .commandLine) (prompt : pane.prompt = some state) : pane.Settled := by
  have insert : pane.insert = none := rest.insert
  have anchor : pane.cursor.anchor = none := rest.anchor
  exact
    { line := rest.placed.1
      col := (rest.placed.widen true).2
      onCharacter := fun _ => rest.placed.2
      prompt := by simp [mode, prompt]
      origin := by
        rw [prompt]
        rintro _ ⟨⟩
        exact rest.mode
      typing := by simp [mode, insert]
      selection := by simp [mode, anchor]
      anchor := by simp [anchor]
      history := history
      top := top }

end Phases

/-- A coherent pane is settled once its history is closed and its view has followed the cursor. -/
theorem Coherent.settled_of_closed (coherent : pane.Coherent)
    (history : pane.history.isOpen = true → pane.mode.cursorPastEnd = true)
    (top : pane.view.top < pane.buffer.lineCount) : pane.Settled := by
  rw [cursorPastEnd_iff] at history
  cases coherent with
  | normal rest awaited => exact AtRest.settled_normal history top rest
  | typing mode session quiet placed =>
      exact Quiet.settled_typing history top quiet (isTyping_iff.1 mode) session placed
  | visual selecting awaited => exact Selecting.settled_visual history top selecting
  | prompting state mode prompt rest => exact AtRest.settled_prompting history top rest mode prompt

/-- The invariant of `Reached`: the pane is coherent, its history is closed unless it types, and its view
starts in the buffer. -/
theorem Reached.invariant (reached : Reached pane) :
    pane.Coherent ∧ (pane.history.isOpen = true → pane.mode.cursorPastEnd = true) ∧
      pane.view.top < pane.buffer.lineCount := by
  induction reached with
  | start buffer options width height =>
      refine ⟨AtRest.coherent ?_, nofun, buffer.lineCount_pos⟩
      exact
        { mode := rfl
          prompt := rfl
          pending := rfl
          insert := rfl
          anchor := rfl
          placed := buffer.admits_zero false }
  | @key pane next reached depth key handled ih =>
      obtain ⟨settling, handed, rfl⟩ := Option.map_eq_some_iff.1 handled
      have coherent := (ih.1.recorded _).dispatch handed
      obtain ⟨recorder, view, eq, top⟩ := settle_eq settling
      rw [eq]
      refine ⟨?_, settledHistory_isOpen, top⟩
      exact coherent.around _ _ _ settling.width settling.height _ settling.closing
  | resize reached width height ih =>
      obtain ⟨coherent, closed, top⟩ := ih
      refine ⟨coherent.resize width height, ?_⟩
      unfold Pane.resize
      split
      · exact ⟨closed, top⟩
      · exact ⟨closed, View.scrollTo_lt _ _ _ _ _⟩

/-- However deep a change repeats itself, handling a key leads to a pane that is reached: one that comes
to no end leaves the pane as it was. -/
theorem Reached.handleKey (reached : Reached pane) (key : Key) : Reached (pane.handleKey key) := by
  unfold Pane.handleKey
  cases handled : handleKeyWithin deepestRepeat key pane with
  | none => exact reached
  | some next => exact reached.key handled

theorem Reached.handleKeys (reached : Reached pane) (keys : List Key) :
    Reached (pane.handleKeys keys) := by
  unfold Pane.handleKeys
  induction keys generalizing pane with
  | nil => exact reached
  | cons key keys ih => exact ih (reached.handleKey key)

/-- Every pane that keys and changes of size lead to is settled. -/
theorem Reached.settled (reached : Reached pane) : pane.Settled := by
  obtain ⟨coherent, closed, top⟩ := reached.invariant
  exact coherent.settled_of_closed closed top

/-- A deletion, and a selection of lines. -/
theorem settled_selecting :
    ∃ pane, Reached pane ∧ pane.mode = .visual .line ∧ pane.Settled := by
  have reached := ((Reached.start (.ofText "ab\ncd".toList) {} 20 5).handleKey (.char 'x')).handleKey
    (.char 'V')
  exact ⟨_, reached, by decide +kernel, reached.settled⟩

end Pane

end ModalPanes
