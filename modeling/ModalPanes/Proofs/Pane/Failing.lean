import ModalPanes.Proofs.Pane.Missing

/-!
# Repeating a change that fails

Where the motion, the find or the text object of a change leads nowhere, its operator is given up.  Nothing
is lost by that, but the keys that were typed as text are handed out all the same, and are read as commands
of Normal mode then.  So the change leaves everything as it was if its text only roams, and may do anything
otherwise.
-/

namespace ModalPanes

namespace Pane

/-- The keys of an operator with what it acts on, behind the names of registers and in front of a text. -/
inductive Operates (op : Operator) (aim : Aim) (text : List Key) : List Key → Prop where
  | operator {key : Key} {keys : List Key}
      (found : Keymap.findOrMotion? Keymap.normal key = some (.operator op)) (aims : Aims keys aim) :
      Operates op aim text (key :: (keys ++ text))
  | register {quote name : Key} {c : Char} {keys : List Key}
      (quotes : Keymap.findOrMotion? Keymap.normal quote = some .awaitRegister)
      (names : name.typed? = some c) (rest : Operates op aim text keys) :
      Operates op aim text (quote :: name :: keys)

variable {pane next : Pane} {op : Operator} {aim : Aim} {count : Option Nat} {key : Key}
  {keys text : List Key} {first second : Option Nat}

section Operators

theorem Replays.awaited (takes : pane.TakesCommands) {pending : Pending} (waits : pane.pending = some pending)
    (key : Key) : Replays pane [key] (pane.handlePending pending key) := by
  have other : pane.runsRepeat key = false := by simp [runsRepeat, waits]
  exact .cons other (fun again => dispatchWith_awaited takes waits again key) (.nil _)

theorem Replays.command (takes : pane.TakesCommands) (waits : pane.pending = none) {command : Command}
    (found : Keymap.findOrMotion? Keymap.normal key = some command) (ordinary : command ≠ .repeatChange)
    (other : command ≠ .motion .lineStart) : Replays pane [key] (pane.runNormal command) := by
  have digit := Keymap.countDigit?_of_findOrMotion? found other
  have quiet : pane.runsRepeat key = false := by simp [runsRepeat, found, ordinary]
  exact .cons quiet (fun again => dispatchWith_command takes waits (digit _) found ordinary again) (.nil _)

/-- Keys behind an operator that come to nothing give it up. -/
theorem Misses.replays (misses : pane.Misses op first second keys) (half : pane.HalfTyped next)
    (takes : pane.TakesCommands) (waits : next.pending = some (.operator ⟨op, first⟩))
    (counted : next.count = second) : ∃ last, Replays next keys last ∧ pane.GivesUp last := by
  have given := Replays.awaited (half.takes takes) waits
  cases misses with
  | @one key loses =>
      have gives := (loses.of_reaches fun _ _ => half.reaches op _ _).gives_up counted
      exact ⟨_, given key, .of_halfTyped half gives⟩
  | @two opener key pending count opens loses =>
      have opened := given opener
      obtain ⟨recorder, eq⟩ := opens.handlePending counted
      rw [eq] at opened
      have half := half.type (some pending) count next.register recorder
      have gives := (loses.of_reaches fun _ _ => half.reaches op _ _).gives_up rfl
      exact ⟨_, opened.append (.awaited (half.takes takes) rfl key), .of_halfTyped half gives⟩

/-- Handing out the keys of an operator whose aim is not there, with a text behind it that only roams. -/
theorem Operates.replays (operates : Operates op aim text keys) (half : pane.HalfTyped next)
    (takes : pane.TakesCommands) (waits : next.pending = none) (counted : next.count = count)
    (fails : pane.reaches op count aim = false) (free : onlyRoam false text = true) :
    ∃ last, Replays next keys last ∧ pane.Untouched last ∧ last.Roaming := by
  induction operates generalizing next with
  | @operator key keys found aims =>
      have operated := Replays.command (half.takes takes) waits found nofun nofun
      have typed := half.type (some (.operator ⟨op, count⟩)) none next.register
        (next.recorder.noteCount next.count)
      have waiting : (next.runNormal (.operator op)).pending = some (.operator ⟨op, count⟩) := counted ▸ rfl
      subst counted
      have misses : pane.Misses op next.count none keys := by
        refine aims.misses ?_
        rw [mergeCounts_none]
        exact fails
      obtain ⟨middle, aimed, gives⟩ := misses.replays typed takes rfl rfl
      have roaming : middle.Roaming := ⟨takes.of_untouched gives.toUntouched, by simp [gives.rests]⟩
      obtain ⟨last, typed, untouched, roams⟩ := roaming.replays (by rw [gives.rests]; exact free)
      exact ⟨last, operated.append (aimed.append typed), gives.toUntouched.trans untouched, roams⟩
  | @register quote name c keys quotes names rest ih =>
      have quoted := Replays.command (half.takes takes) waits quotes nofun nofun
      have awaits := half.type (some .register) next.count next.register next.recorder
      have named := Replays.awaited (awaits.takes takes) rfl name
      rw [handlePending_of_typed names, completePending, names] at named
      have half := half.type none next.count (some c) next.recorder
      obtain ⟨last, typed, untouched, roams⟩ := ih half rfl counted
      exact ⟨last, quoted.append (named.append typed), untouched, roams⟩

end Operators

/-- Normal mode, with everything that outlasts a command as it was. -/
structure Spares (pane next : Pane) : Prop where
  mode : next.mode = .normal
  text : next.buffer.text = pane.buffer.text
  registers : next.registers = pane.registers
  options : next.options = pane.options
  history : next.history = pane.history
  closing : next.closing = pane.closing

/-- Settling in Normal mode commits nothing where no step of the history is under way. -/
theorem Untouched.settle_spares (untouched : pane.Untouched next) (mode : pane.mode = .normal)
    (closed : pane.history.isOpen = false) : pane.Spares next.replayed.settle := by
  have history := untouched.read (·.history) fun _ => rfl
  have settled : next.replayed.settledHistory = next.history := by
    unfold settledHistory
    rw [show next.replayed.history = pane.history from history, closed, Bool.and_false]
    exact history.symm
  obtain ⟨recorder, view, eq, -⟩ := settle_eq next.replayed
  rw [eq]
  exact
    { mode := (untouched.read (·.mode) fun _ => rfl).trans mode
      text := untouched.read (·.buffer.text) fun _ => rfl
      registers := untouched.read (·.registers) fun _ => rfl
      options := untouched.read (·.options) fun _ => rfl
      history := settled.trans history
      closing := untouched.read (·.closing) fun _ => rfl }

/-- Repeating a change whose motion, find or text object is not there leaves everything as it was, as long as
the text that was typed for it only roams. -/
theorem Reached.repeat_fails_quietly (reached : Reached pane) (idle : pane.isIdle = true)
    (repeats : pane.runsRepeat key = true) {change : RecordedChange}
    (last : pane.recorder.last = some change) (operates : Operates op aim text change.keys)
    (fails : pane.reaches op change.count aim = false) (free : onlyRoam false text = true) :
    ∃ next, (∀ depth, handleKeyWithin (depth + 1) key pane = some next) ∧ pane.Spares next := by
  obtain ⟨mode, waits, count, -, prompt⟩ := isIdle_iff.1 idle
  have half : pane.HalfTyped ((pane.record key).replayOf change) := ⟨rfl⟩
  have counted : ((pane.record key).replayOf change).count = change.count := by
    show pane.count.or change.count = change.count
    rw [count, Option.none_or]
  obtain ⟨next, replays, untouched, -⟩ := operates.replays half ⟨prompt, mode⟩ waits counted fails free
  have closed : pane.history.isOpen = false := by
    rw [← Bool.not_eq_true]
    intro stepping
    have typing := reached.invariant.2.1 stepping
    rw [mode] at typing
    contradiction
  rw [← runsRepeat_record] at repeats
  exact ⟨next.replayed.settle, replays.handleKeyWithin repeats ((pane.record_last key).trans last),
    untouched.settle_spares mode closed⟩

/-- A change up to a character that the line does not have. -/
theorem repeat_fails_quietly_find :
    let pane := typedInto "ax\nbe".toList
      [.char '"', .char 'a', .char 'c', .char 'f', .char 'x', .char 'w', .char 'b', .char 'e',
        .plain .escape, .char 'j']
    Reached pane ∧ pane.isIdle = true ∧ pane.runsRepeat (.char '.') = true ∧
      pane.recorder.last = some ⟨[.char '"', .char 'a', .char 'c', .char 'f', .char 'x', .char 'w',
        .char 'b', .char 'e', .plain .escape], none⟩ ∧
      pane.reaches .change none (.motion (.find ⟨.forward, false⟩ 'x')) = false ∧
        ∃ next, (∀ depth, handleKeyWithin (depth + 1) (.char '.') pane = some next) ∧
          pane.Spares next := by
  intro pane
  have reached : Reached pane := reached_typedInto _ _
  have idle : pane.isIdle = true := by decide +kernel
  have repeats : pane.runsRepeat (.char '.') = true := by decide +kernel
  have last : pane.recorder.last = some ⟨[.char '"', .char 'a', .char 'c', .char 'f', .char 'x', .char 'w',
      .char 'b', .char 'e', .plain .escape], none⟩ := by
    decide +kernel
  have operates : Operates .change (.motion (.find ⟨.forward, false⟩ 'x'))
      [.char 'w', .char 'b', .char 'e', .plain .escape]
      [.char '"', .char 'a', .char 'c', .char 'f', .char 'x', .char 'w', .char 'b', .char 'e',
        .plain .escape] :=
    .register rfl rfl (.operator rfl (.find rfl rfl))
  have fails : pane.reaches .change none (.motion (.find ⟨.forward, false⟩ 'x')) = false := by
    decide +kernel
  exact ⟨reached, idle, repeats, last, fails,
    reached.repeat_fails_quietly idle repeats last operates fails (by decide +kernel)⟩

/-- Text behind a find that leads nowhere is read as commands. -/
theorem repeat_runs_text :
    let pane := typedInto "ax\nhello\nworld".toList
      [.char 'c', .char 'f', .char 'x', .char 'd', .char 'd', .plain .escape, .char 'j']
    Reached pane ∧ pane.isIdle = true ∧
      pane.recorder.last = some ⟨[.char 'c', .char 'f', .char 'x', .char 'd', .char 'd', .plain .escape],
        none⟩ ∧
      pane.reaches .change none (.motion (.find ⟨.forward, false⟩ 'x')) = false ∧
        pane.buffer.text = "dd\nhello\nworld".toList ∧
          (pane.handleKey (.char '.')).buffer.text = "dd\nworld".toList := by
  intro pane
  exact ⟨reached_typedInto _ _, by decide +kernel, by decide +kernel, by decide +kernel, by decide +kernel,
    by decide +kernel⟩

end Pane

end ModalPanes
