import ModalPanes.Proofs.Pane.SelectionCommands

/-!
# What any key does

In every mode, a key that does not repeat the last change keeps the pane coherent and takes one of the
turns of `Turn`.  Going back and forth in the history and the commands that write or close come to rest in
Normal mode.
-/

namespace ModalPanes

namespace Pane

/-- The key repeats the last change. -/
def runsRepeat (pane : Pane) (key : Key) : Bool :=
  pane.prompt.isNone && pane.mode == .normal && pane.pending.isNone &&
    (pane.acceptDigit? key).isNone &&
      Keymap.findOrMotion? Keymap.normal key == some .repeatChange

theorem runsRepeat_record (pane : Pane) (key : Key) :
    (pane.record key).runsRepeat key = pane.runsRepeat key := by
  simp only [runsRepeat, acceptDigit?, Option.isNone_map]
  rfl

variable {alphabet : Alphabet} {pane : Pane} {key : Key}

section History

variable {step : History → Buffer → Option Position × History × Buffer}

/-- Where no step is taken, the text stays. -/
theorem travel_buffer (still : ∀ history buf, (step history buf).1 = none →
    (step history buf).2.2 = buf) (count : Nat) {reached : Option Position × History × Buffer}
    (none : (travel step count reached).1 = none) :
    reached.1 = Option.none ∧ (travel step count reached).2.2 = reached.2.2 := by
  induction count generalizing reached with
  | zero => exact ⟨none, rfl⟩
  | succ count ih =>
      unfold travel at none ⊢
      split
      · rename_i pos history buffer taken
        rw [taken] at none
        exact absurd (ih none).1 (by simp)
      · rename_i history buffer taken
        rw [taken] at none
        have same := still reached.2.1 reached.2.2 (by rw [taken])
        rw [taken] at same
        exact ⟨none, same⟩

theorem AtRest.revisit (rest : pane.AtRest) (still : ∀ history buf, (step history buf).1 = none →
    (step history buf).2.2 = buf) (count : Nat) : (pane.revisit step count).AtRest := by
  have stays := @travel_buffer step still (max count 1) (none, pane.history, pane.buffer)
  unfold Pane.revisit
  dsimp only
  split
  · rename_i pos _
    have jumped : AtRest ({ pane with
        history := (travel step (max count 1) (none, pane.history, pane.buffer)).2.1
        buffer := (travel step (max count 1) (none, pane.history, pane.buffer)).2.2 }.jump
          false pos) :=
      { rest with placed := Cursor.admits_jump _ _ _ _ }
    unfold syncModified
    split
    · exact jumped
    · exact { jumped with }
  · rename_i unmoved
    exact { rest with placed := (stays unmoved).2 ▸ rest.placed }

theorem AtRest.undo (rest : pane.AtRest) (count : Nat) : (pane.undo count).AtRest := by
  refine rest.revisit (fun history buf none => ?_) count
  unfold History.undo at none ⊢
  dsimp only at none ⊢
  split <;> simp_all

theorem AtRest.redo (rest : pane.AtRest) (count : Nat) : (pane.redo count).AtRest := by
  refine rest.revisit (fun history buf none => ?_) count
  unfold History.redo at none ⊢
  split <;> simp_all

end History

/-- Command lines are carried out from rest to rest, and act on the text alone unless they write or
close. -/
theorem AtRest.execute (rest : pane.AtRest) (spelled : pane.Spelled alphabet) {command : ExCommand}
    (known : ∀ range pattern replacement flags,
      command = .substitute range pattern replacement flags → alphabet.Spells replacement) :
    (pane.execute command).AtRest ∧
      (command.isFile = false → Acts alphabet pane (pane.execute command)) := by
  have here := rest.landsHere spelled
  have done : ∀ {next}, Lands alphabet pane false next →
      next.AtRest ∧ (command.isFile = false → Acts alphabet pane next) := fun lands =>
    ⟨rest.after lands, fun _ => .edits lands.edits⟩
  have written : pane.write.AtRest := { rest with }
  cases command with
  | empty => exact done here
  | write => exact ⟨written, nofun⟩
  | quit =>
      refine ⟨?_, nofun⟩
      unfold Pane.execute
      dsimp only
      split
      · exact rest.after (here.fail _)
      · exact { rest with }
  | forceQuit => exact ⟨{ rest with }, nofun⟩
  | writeQuit => exact ⟨{ written with }, nofun⟩
  | exitSave =>
      refine ⟨?_, nofun⟩
      unfold Pane.execute
      dsimp only
      split
      · exact { written with }
      · exact { rest with }
  | goto address => exact done (here.edits.jumpToLine false _)
  | set args =>
      have optioned : ∀ options, AtRest { pane with options := options } := fun _ => { rest with }
      have acts : ∀ options, Acts alphabet pane { pane with options := options } := fun _ =>
        (Acts.refl spelled).steers ⟨rfl, rfl, rfl, rfl, rfl, rfl⟩ { spelled with }
      unfold Pane.execute
      dsimp only
      split
      · have said := fun options text => ((optioned options).landsHere (acts options).spelled).say text
        exact ⟨(optioned _).after (said _ _), fun _ => (acts _).more (said _ _).edits⟩
      · exact ⟨optioned _, fun _ => acts _⟩
      · have failed := fun options text =>
          ((optioned options).landsHere (acts options).spelled).fail text
        exact ⟨(optioned _).after (failed _ _), fun _ => (acts _).more (failed _ _).edits⟩
  | noHighlight =>
      apply done
      exact here.tidy ⟨rfl, rfl⟩
  | substitute range pattern replacement flags =>
      exact done (here.substitute range pattern (known _ _ _ _ rfl) flags)
  | repeatSubstitute range =>
      unfold Pane.execute
      dsimp only
      split
      · rename_i last remembered
        exact done (here.substitute range _ (spelled.replacement last remembered) _)
      · exact done (here.fail _)
  | unknown text => exact done (here.fail _)

section Completed

theorem completed?_of_mode (prompt : pane.prompt = none) (mode : pane.mode ≠ .normal) :
    pane.completed? key = none := by
  unfold completed?
  rw [prompt]
  dsimp only
  split <;> simp_all

theorem completed?_of_pending (prompt : pane.prompt = none)
    (ordinary : pane.pending = some .z → Keymap.find? Keymap.afterZ key ≠ some .exitSave ∧
      Keymap.find? Keymap.afterZ key ≠ some .forceQuit) : pane.completed? key = none := by
  unfold completed?
  rw [prompt]
  dsimp only
  split <;> simp_all

end Completed

/-- What a key is to come to. -/
def Turns (alphabet : Alphabet) (key : Key) (pane next : Pane) : Prop :=
  next.Coherent ∧ Turn alphabet key pane next

theorem Goes.turns {next : Pane} (goes : Goes alphabet pane next)
    (completed : pane.completed? key = none) : Turns alphabet key pane next :=
  ⟨goes.coherent, .acts goes.acts (by simp [completed])⟩

/-- Escape and Ctrl-C are no second key of a command. -/
theorem afterZ_of_escape (escape : key.code = .escape ∨ key.isCtrl 'c' = true) :
    Keymap.find? Keymap.afterZ key = none := by
  rcases escape with escape | ctrl
  · obtain ⟨code, mods⟩ := key
    obtain rfl : code = .escape := escape
    rfl
  · obtain rfl : key = .ctrl 'c' := by simpa [Key.isCtrl] using ctrl
    rfl

/-- No single key of Normal mode writes or closes. -/
theorem findOrMotion?_ne (key : Key) :
    Keymap.findOrMotion? Keymap.normal key ≠ some .exitSave ∧
      Keymap.findOrMotion? Keymap.normal key ≠ some .forceQuit := by
  have entries : ∀ entry ∈ Keymap.normal ++ Keymap.motions,
      entry.2 ≠ .exitSave ∧ entry.2 ≠ .forceQuit := by decide
  have listed : ∀ command, Keymap.findOrMotion? Keymap.normal key = some command →
      command ≠ .exitSave ∧ command ≠ .forceQuit := by
    intro command found
    have member : (Keymap.foldShift key, command) ∈ Keymap.normal ++ Keymap.motions := by
      rcases Option.or_eq_some_iff.1 found with found | ⟨-, found⟩
      · obtain ⟨front, rest, eq, -⟩ := List.lookup_eq_some_iff.1 found
        simp [eq]
      · obtain ⟨front, rest, eq, -⟩ := List.lookup_eq_some_iff.1 found
        simp [eq]
    exact entries _ member
  exact ⟨fun found => (listed _ found).1 rfl, fun found => (listed _ found).2 rfl⟩

/-- A key that completes a pending state in Normal mode. -/
theorem handlePending_turns (rest : { pane with pending := none }.AtRest)
    (spelled : pane.Spelled alphabet) (known : key.Known alphabet) {pending : Pending}
    (isPending : pane.pending = some pending) (fits : pending.InNormal) :
    Turns alphabet key pane (pane.handlePending pending key) := by
  have prompt : pane.prompt = none := rest.prompt
  have mode : pane.mode = .normal := rest.mode
  have baseSpelled : Spelled alphabet { pane with pending := none } := { spelled with }
  have base : Acts alphabet pane { pane with pending := none } := .pending spelled none
  have executed : ∀ {command : ExCommand}, pane.completed? key = some command →
      command.isFile = true →
        Turns alphabet key pane ({ pane with pending := none }.execute command) := by
    intro command completed file
    have steers : pane.Steers { pane with pending := none } := ⟨rfl, rfl, rfl, rfl, rfl, rfl⟩
    refine ⟨(rest.execute baseSpelled fun _ _ _ _ eq => ?_).1.coherent,
      .executes steers baseSpelled (by rw [mode]; rfl) completed file⟩
    rw [eq] at file
    contradiction
  unfold handlePending
  dsimp only
  split
  · rename_i escape
    have noKey := afterZ_of_escape escape
    exact ((rest.goes_cancel (rest.landsHere baseSpelled)).after base).turns
      (completed?_of_pending prompt fun _ => by simp [noKey])
  · by_cases ordinary : pending = .z → Keymap.find? Keymap.afterZ key ≠ some .exitSave ∧
        Keymap.find? Keymap.afterZ key ≠ some .forceQuit
    · refine ((rest.completePending baseSpelled fits known ordinary).after base).turns
        (completed?_of_pending prompt fun isZ => ordinary ?_)
      exact Option.some.inj (isPending.symm.trans isZ)
    · rw [Classical.not_imp] at ordinary
      obtain ⟨rfl, closes⟩ := ordinary
      unfold completePending
      dsimp only
      split
      · rename_i save
        exact executed (by simp [completed?, prompt, mode, isPending, save]) rfl
      · rename_i quit
        exact executed (by simp [completed?, prompt, mode, isPending, quit]) rfl
      · rename_i notSave notQuit
        exact absurd ⟨notSave, notQuit⟩ closes

/-- A key in Normal mode that completes nothing and does not repeat. -/
theorem runNormal_turns (rest : pane.AtRest) (spelled : pane.Spelled alphabet) {command : Command}
    (found : Keymap.findOrMotion? Keymap.normal key = some command) :
    Turns alphabet key pane (pane.runNormal command) := by
  have completed : pane.completed? key = none :=
    completed?_of_pending rest.prompt (by simp [rest.pending])
  have dropped : pane.dropCount.AtRest := { rest with }
  obtain ⟨notSave, notQuit⟩ := findOrMotion?_ne key
  rw [found, ne_eq, Option.some.injEq] at notSave notQuit
  by_cases undo : command = .undo
  · subst undo
    exact ⟨(dropped.undo _).coherent, .undo rest _⟩
  · by_cases redo : command = .redo
    · subst redo
      exact ⟨(dropped.redo _).coherent, .redo rest _⟩
    · exact (rest.runNormal spelled command ⟨undo, redo, notSave, notQuit⟩).turns completed

theorem steers_leave (mode : Mode) : pane.Steers { pane with prompt := none, mode := mode } :=
  ⟨rfl, rfl, rfl, rfl, rfl, rfl⟩

theorem Spelled.leave (spelled : pane.Spelled alphabet) (mode : Mode) :
    Spelled alphabet { pane with prompt := none, mode := mode } :=
  { spelled with prompt := nofun }

section Prompts

variable {state : PromptState} (prompt : pane.prompt = some state) (mode : pane.mode = .commandLine)
  (rest : { pane with prompt := none, mode := state.origin }.AtRest)
  (spelled : pane.Spelled alphabet)
include prompt

/-- A key that submits nothing completes no command. -/
theorem completed?_of_kept {next : Prompt} (event : state.prompt.handleKey key = (next, .pending) ∨
    state.prompt.handleKey key = (next, .cancel)) : pane.completed? key = none := by
  unfold completed?
  rw [prompt]
  dsimp only
  rcases event with event | event
  all_goals
    rw [event]
    split
    · contradiction
    · rfl

include mode rest spelled

theorem submit_turns {next : Prompt} {text : List Char}
    (event : state.prompt.handleKey key = (next, .submit text)) :
    Turns alphabet key pane (pane.submit state text) := by
  have left := spelled.leave state.origin
  have base := (Acts.refl spelled).steers (steers_leave state.origin) left
  obtain rfl := (Prompt.eq_of_submit event).2
  unfold submit
  dsimp only
  split
  · rename_i command
    have completed : pane.completed? key = some (Ex.parse state.prompt.line.text) := by
      unfold completed?
      simp only [prompt, event, command]
    have executed := rest.execute left fun _ _ _ _ parsed =>
      (spelled.prompt state prompt).of_subset (Ex.parse_subset parsed)
    refine ⟨executed.1.coherent, ?_⟩
    cases file : (Ex.parse state.prompt.line.text).isFile with
    | true => exact .executes (steers_leave state.origin) left (by rw [mode]; rfl) completed file
    | false =>
        refine .acts (base.trans (executed.2 file)) fun command mem => ?_
        obtain rfl := Option.some.inj (completed.symm.trans mem)
        exact file
  · rename_i direction search
    have searched := rest.submitSearch (rest.landsHere left) state.prompt.line.text
      direction state.operator state.count
    refine ((searched.goes rest.toQuiet).after base).turns ?_
    unfold completed?
    simp only [prompt, search]

theorem handlePromptKey_turns (known : key.Known alphabet) :
    Turns alphabet key pane (pane.handlePromptKey state key) := by
  have edited := Prompt.spells_handleKey (spelled.prompt state prompt) known.typed
  unfold handlePromptKey
  split
  · rename_i next event
    rw [event] at edited
    refine Goes.turns ⟨.prompting { state with prompt := next } mode rfl { rest with }, ?_⟩
      (completed?_of_kept prompt (.inl event))
    refine (Acts.refl spelled).steers ⟨rfl, rfl, rfl, rfl, rfl, rfl⟩ { spelled with prompt := ?_ }
    intro other mem
    obtain rfl := Option.some.inj mem
    exact edited
  · rename_i next event
    have left := spelled.leave state.origin
    have base := (Acts.refl spelled).steers (steers_leave state.origin) left
    exact ((rest.goes_cancel (rest.landsHere left)).after base).turns
      (completed?_of_kept prompt (.inr event))
  · rename_i next submitted event
    exact submit_turns prompt mode rest spelled event

end Prompts

/-- A key while typing. -/
theorem handleTyping_goes (mode : pane.mode.isTyping = true) (session : pane.insert.isSome)
    (quiet : { pane with insert := none, mode := .normal }.Quiet) (placed : pane.Placed true)
    (spelled : pane.Spelled alphabet) (known : key.Known alphabet) :
    Goes alphabet pane (pane.handleTyping key) := by
  cases ends : endsTyping key with
  | true =>
      have left : Acts alphabet pane { pane with insert := none, mode := .normal } :=
        (Acts.refl spelled).steers ⟨rfl, rfl, rfl, rfl, rfl, rfl⟩ { spelled with insert := nofun }
      rw [handleTyping_of_ends ends]
      exact ((endTyping_lands spelled session).goes quiet).after left
  | false =>
      have lands := handleTyping_lands spelled placed known.typed ends
      have keeps := lands.edits.keeps
      refine ⟨.typing (by rw [keeps.mode]; exact mode) (by rw [keeps.insert]; exact session) ?_
        lands.placed, .edits lands.edits⟩
      exact
        { mode := rfl
          prompt := keeps.prompt.trans quiet.prompt
          pending := keeps.pending.trans quiet.pending
          insert := rfl
          anchor := keeps.anchor.trans quiet.anchor }

/-- A key while selecting. -/
theorem handleVisual_goes (selecting : pane.Selecting)
    (awaited : ∀ pending ∈ pane.pending, pending.InVisual) (spelled : pane.Spelled alphabet)
    (kind : VisualKind) (key : Key) : Goes alphabet pane (pane.handleVisual kind key) := by
  cases waits : pane.pending with
  | none => exact selecting.handleVisual spelled waits kind key
  | some pending =>
      have base : Selecting { pane with pending := none } := { selecting with }
      have acts : Acts alphabet pane { pane with pending := none } := .pending spelled none
      unfold Pane.handleVisual
      simp only [waits]
      unfold handlePending
      dsimp only
      split
      · exact (base.goes_cancel acts.spelled rfl).after acts
      · exact (base.completePending acts.spelled rfl (awaited pending waits) key).after acts

/-- A key in Normal mode: the last change is repeated, or the key takes a turn. -/
theorem handleNormal_turns (rest : { pane with pending := none }.AtRest)
    (awaited : ∀ pending ∈ pane.pending, pending.InNormal) (spelled : pane.Spelled alphabet)
    (known : key.Known alphabet) (again : Option Nat → Pane → Option Pane) :
    (pane.runsRepeat key = true ∧ pane.AtRest ∧
        handleNormal again key pane = again pane.count pane.dropCount) ∨
      (pane.runsRepeat key = false ∧
        ∃ next, handleNormal again key pane = some next ∧ Turns alphabet key pane next) := by
  have prompt : pane.prompt = none := rest.prompt
  have mode : pane.mode = .normal := rest.mode
  unfold handleNormal runsRepeat
  simp only [prompt, mode]
  cases waits : pane.pending with
  | some pending =>
      exact .inr ⟨by simp, _, rfl,
        handlePending_turns rest spelled known waits (awaited pending waits)⟩
  | none =>
      have rest : pane.AtRest := { rest with pending := waits }
      have here := rest.landsHere spelled
      have completed : pane.completed? key = none :=
        completed?_of_pending prompt (by simp [waits])
      cases digit : pane.acceptDigit? key with
      | some next =>
          have counted := here.tidy (idles_of_digit digit)
          exact .inr ⟨by simp, next, rfl, (counted.goes rest.toQuiet).turns completed⟩
      | none =>
          cases found : Keymap.findOrMotion? Keymap.normal key with
          | none => exact .inr ⟨rfl, _, rfl, (rest.goes_cancel here).turns completed⟩
          | some command =>
              by_cases repeats : command = .repeatChange
              · subst repeats
                exact .inl ⟨rfl, rest, rfl⟩
              · refine .inr ⟨by simp [repeats], _, ?_, runNormal_turns rest spelled found⟩
                dsimp only
                split <;> simp_all

/-- A coherent pane hands a key to the command that repeats the last change, or takes a turn and is
coherent again. -/
theorem Coherent.dispatchWith (coherent : pane.Coherent) (spelled : pane.Spelled alphabet)
    (known : key.Known alphabet) (again : Option Nat → Pane → Option Pane) :
    (pane.runsRepeat key = true ∧ pane.AtRest ∧
        dispatchWith again key pane = again pane.count pane.dropCount) ∨
      (pane.runsRepeat key = false ∧
        ∃ next, dispatchWith again key pane = some next ∧ Turns alphabet key pane next) := by
  cases coherent with
  | normal rest awaited =>
      have prompt : pane.prompt = none := rest.prompt
      have mode : pane.mode = .normal := rest.mode
      unfold Pane.dispatchWith
      simp only [prompt, mode]
      exact handleNormal_turns rest awaited spelled known again
  | typing mode session quiet placed =>
      have prompt : pane.prompt = none := quiet.prompt
      have notNormal : pane.mode ≠ .normal := by
        intro normal
        rw [normal] at mode
        contradiction
      have goes := handleTyping_goes mode session quiet placed spelled known
      refine .inr ⟨by simp [runsRepeat, notNormal], _, ?_,
        goes.turns (completed?_of_mode prompt notNormal)⟩
      unfold Pane.dispatchWith
      simp only [prompt]
      split <;> simp_all [Mode.isTyping]
  | visual selecting awaited =>
      obtain ⟨kind, mode⟩ := selecting.mode
      have prompt := selecting.prompt
      have goes := handleVisual_goes selecting awaited spelled kind key
      refine .inr ⟨by simp [runsRepeat, mode], _, ?_,
        goes.turns (completed?_of_mode prompt (by simp [mode]))⟩
      unfold Pane.dispatchWith
      simp only [prompt, mode]
  | prompting state mode prompt rest =>
      refine .inr ⟨by simp [runsRepeat, prompt], _, ?_,
        handlePromptKey_turns prompt mode rest spelled known⟩
      unfold Pane.dispatchWith
      simp only [prompt]

end Pane

end ModalPanes
