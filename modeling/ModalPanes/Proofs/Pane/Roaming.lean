import ModalPanes.Proofs.Pane.Replaying

/-!
# Keys that only roam

A motion or a scroll command moves the cursor or the view, the name of a register or a digit waits for a
command, and a key without meaning gives one up.  Whatever is made of these alone, with the keys that they
take with them, leaves text, registers, options and history alone and stays in Normal mode.
-/

namespace ModalPanes

/-- What waits for a key only to move the cursor or to name a register. -/
def Pending.roams : Pending → Bool
  | .register | .g none _ | .find _ none _ => true
  | _ => false

namespace Command

/-- Commands that take the next key with them, and only roam then. -/
def waits : Command → Bool
  | .awaitFind _ | .awaitG | .awaitRegister => true
  | _ => false

/-- Commands that move the cursor or the view, or give a command up. -/
def roams : Command → Bool
  | .motion _ | .scroll _ | .escape => true
  | command => command.waits

end Command

namespace Keymap

variable {table : Table} {key : Key} {command : Command}

theorem mem_of_find? (found : find? table key = some command) : (foldShift key, command) ∈ table := by
  obtain ⟨front, back, eq, -⟩ := List.lookup_eq_some_iff.1 found
  simp [eq]

theorem mem_of_findOrMotion? (found : findOrMotion? table key = some command) :
    (foldShift key, command) ∈ table ++ motions := by
  rcases Option.or_eq_some_iff.1 found with found | ⟨-, found⟩
  · exact List.mem_append_left _ (mem_of_find? found)
  · exact List.mem_append_right _ (mem_of_find? found)

theorem code_foldShift (key : Key) : (foldShift key).code = key.code := by
  unfold foldShift
  split
  · rename_i c code
    split
    · exact code.symm
    · rfl
  · rfl

/-- Shift is already part of a character. -/
theorem typed?_foldShift (key : Key) : (foldShift key).typed? = key.typed? := by
  unfold foldShift
  split
  · rename_i c code
    split
    · rename_i shift
      simp [Key.typed?, Key.char, code, shift]
    · rfl
  · rfl

theorem countDigit?_foldShift (key : Key) (counting : Bool) :
    (foldShift key).countDigit? counting = key.countDigit? counting := by
  unfold Key.countDigit?
  rw [typed?_foldShift]

theorem countDigit?_of_findOrMotion? (found : findOrMotion? normal key = some command)
    (other : command ≠ .motion .lineStart) (counting : Bool) : key.countDigit? counting = none := by
  have entries : ∀ counting, ∀ entry ∈ normal ++ motions,
      entry.2 ≠ .motion .lineStart → entry.1.countDigit? counting = none := by decide +kernel
  rw [← countDigit?_foldShift]
  exact entries counting _ (mem_of_findOrMotion? found) other

end Keymap

namespace Pane

variable {pane middle next : Pane} {key : Key} {keys : List Key}

/-- Nothing has changed but what comes and goes, and what waits for a key. -/
structure Untouched (pane next : Pane) : Prop where
  same : { next with pending := none }.bare = { pane with pending := none }.bare

namespace Untouched

theorem refl (pane : Pane) : pane.Untouched pane := ⟨rfl⟩

theorem trans (first : pane.Untouched middle) (second : middle.Untouched next) : pane.Untouched next :=
  ⟨second.same.trans first.same⟩

theorem of_bare (same : next.bare = pane.bare) : pane.Untouched next :=
  ⟨congrArg (fun pane : Pane => { pane with pending := none }) same⟩

/-- What is read of the text, the registers, the options or the history is as it was. -/
theorem read {α : Type} (untouched : pane.Untouched next) (read : Pane → α)
    (reads : ∀ pane : Pane, read pane = read { pane with pending := none }.bare) :
    read next = read pane := by
  rw [reads next, untouched.same, ← reads pane]

end Untouched

/-- Normal mode, where nothing waits for a key but to roam. -/
structure Roaming (pane : Pane) : Prop extends TakesCommands pane where
  pending : ∀ pending ∈ pane.pending, pending.roams = true

theorem TakesCommands.of_untouched (takes : pane.TakesCommands) (untouched : pane.Untouched next) :
    next.TakesCommands where
  prompt := (untouched.read (·.prompt) fun _ => rfl).trans takes.prompt
  mode := (untouched.read (·.mode) fun _ => rfl).trans takes.mode

/-- The keys of a text only roam when they are read as commands: each is a command that does, or is taken
with the one in front of it. -/
def onlyRoam : Bool → List Key → Bool
  | _, [] => true
  | true, _ :: keys => onlyRoam false keys
  | false, key :: keys =>
      (Keymap.findOrMotion? Keymap.normal key).all Command.roams &&
        onlyRoam ((Keymap.findOrMotion? Keymap.normal key).any Command.waits) keys

section Steps

variable (pane)

/-- The key behind one that waits only roams, whatever key it is. -/
theorem handlePending_roams {pending : Pending} (roams : pending.roams = true) (key : Key) :
    pane.Untouched (pane.handlePending pending key) ∧ (pane.handlePending pending key).pending = none := by
  have moved : ∀ (before : Pane) (motion : Motion) (count : Option Nat), before.pending = none →
      pane.Untouched before →
      pane.Untouched (before.move motion count) ∧ (before.move motion count).pending = none := by
    intro before motion count waits untouched
    have same := before.move_bare motion count
    exact ⟨untouched.trans (.of_bare same), (congrArg Pane.pending same :).trans waits⟩
  unfold handlePending completePending
  split
  · exact ⟨⟨rfl⟩, rfl⟩
  · cases pending with
    | register =>
        dsimp only
        split <;> exact ⟨⟨rfl⟩, rfl⟩
    | g op count =>
        cases op with
        | some op => contradiction
        | none =>
            dsimp only
            split
            · exact moved _ _ _ rfl ⟨rfl⟩
            · exact ⟨⟨rfl⟩, rfl⟩
    | find find op count =>
        cases op with
        | some op => contradiction
        | none =>
            dsimp only
            split
            · exact moved _ _ _ rfl ⟨rfl⟩
            · exact ⟨⟨rfl⟩, rfl⟩
    | z => contradiction
    | replace count => contradiction
    | operator op => contradiction
    | object op around => contradiction

/-- A command that roams waits for a key of its own, if it takes one with it. -/
theorem runNormal_roams {command : Command} (roams : command.roams = true) (rests : pane.pending = none) :
    pane.Untouched (pane.runNormal command) ∧
      (∀ pending ∈ (pane.runNormal command).pending, pending.roams = true) ∧
        (pane.runNormal command).pending.isSome = command.waits := by
  have still : ∀ {next : Pane}, next.bare = pane.bare → pane.Untouched next ∧
      (∀ pending ∈ next.pending, pending.roams = true) ∧ next.pending.isSome = false := by
    intro next same
    have waits : next.pending = none := (congrArg Pane.pending same :).trans rests
    simp only [waits]
    exact ⟨.of_bare same, nofun, rfl⟩
  have awaits : ∀ {next : Pane} {pending : Pending}, pane.Untouched next → pending.roams = true →
      next.pending = some pending → pane.Untouched next ∧
        (∀ pending ∈ next.pending, pending.roams = true) ∧ next.pending.isSome = true := by
    intro next pending untouched roams waits
    simp only [waits]
    exact ⟨untouched, fun _ mem => Option.some.inj mem ▸ roams, rfl⟩
  cases command with
  | motion motion => exact still (pane.takeCount.2.move_bare motion _)
  | scroll way => exact still (pane.dropCount.scroll_bare way _)
  | escape => exact still (by simp only [runNormal, bare, cancelCommand, rests])
  | awaitFind find => exact awaits ⟨rfl⟩ rfl rfl
  | awaitG => exact awaits ⟨rfl⟩ rfl rfl
  | awaitRegister => exact awaits ⟨rfl⟩ rfl rfl
  | _ => contradiction

end Steps

namespace Roaming

/-- A key that only roams is handed out, whatever repeating a change would do. -/
theorem dispatchWith (roaming : pane.Roaming)
    (free : pane.pending = none → ∀ command ∈ Keymap.findOrMotion? Keymap.normal key, command.roams = true) :
    ∃ next, (∀ again, Pane.dispatchWith again key pane = some next) ∧ pane.Untouched next ∧ next.Roaming ∧
      next.pending.isSome = (pane.pending.isNone &&
        (Keymap.findOrMotion? Keymap.normal key).any Command.waits) := by
  have takes := roaming.toTakesCommands
  have rests : pane.cancelCommand.Roaming := ⟨⟨takes.prompt, takes.mode⟩, nofun⟩
  cases waits : pane.pending with
  | some pending =>
      obtain ⟨untouched, rests⟩ := pane.handlePending_roams (roaming.pending pending waits) key
      exact ⟨_, fun again => dispatchWith_awaited takes waits again key, untouched,
        ⟨takes.of_untouched untouched, by simp [rests]⟩, by simp [rests]⟩
  | none =>
      cases digit : key.countDigit? pane.count.isSome with
      | some value =>
          have still : (Keymap.findOrMotion? Keymap.normal key).any Command.waits = false := by
            cases found : Keymap.findOrMotion? Keymap.normal key with
            | none => rfl
            | some command =>
                by_cases zero : command = .motion .lineStart
                · rw [zero]
                  rfl
                · rw [Keymap.countDigit?_of_findOrMotion? found zero] at digit
                  contradiction
          refine ⟨_, fun again => dispatchWith_digit takes waits digit again, ⟨rfl⟩,
            ⟨⟨takes.prompt, takes.mode⟩, roaming.pending⟩, ?_⟩
          rw [still]
          exact congrArg Option.isSome waits
      | none =>
          cases found : Keymap.findOrMotion? Keymap.normal key with
          | none =>
              refine ⟨pane.cancelCommand, fun again => ?_, ⟨rfl⟩, rests, rfl⟩
              unfold Pane.dispatchWith handleNormal acceptDigit?
              rw [takes.prompt, takes.mode, waits, digit, found]
              rfl
          | some command =>
              have free := free waits command found
              have ordinary : command ≠ .repeatChange := by
                rintro rfl
                contradiction
              obtain ⟨untouched, roams, awaits⟩ := pane.runNormal_roams free waits
              exact ⟨_, fun again => dispatchWith_command takes waits digit found ordinary again, untouched,
                ⟨takes.of_untouched untouched, roams⟩, awaits⟩

/-- Keys that only roam are handed out without repeating anything. -/
theorem replays (roaming : pane.Roaming) (free : onlyRoam pane.pending.isSome keys = true) :
    ∃ next, Replays pane keys next ∧ pane.Untouched next ∧ next.Roaming := by
  induction keys generalizing pane with
  | nil => exact ⟨pane, .nil pane, .refl pane, roaming⟩
  | cons key keys ih =>
      have first : pane.pending = none →
          ∀ command ∈ Keymap.findOrMotion? Keymap.normal key, command.roams = true := by
        intro waits command found
        simp only [waits, onlyRoam, Bool.and_eq_true, Option.isSome_none] at free
        exact (Option.all_eq_true _ _).1 free.1 command found
      obtain ⟨middle, handed, untouched, roams, awaits⟩ := roaming.dispatchWith first
      have other : pane.runsRepeat key = false := by
        by_contra repeats
        simp only [runsRepeat, Bool.not_eq_false, Bool.and_eq_true, Option.isNone_iff_eq_none,
          beq_iff_eq] at repeats
        obtain ⟨⟨⟨-, waits⟩, -⟩, found⟩ := repeats
        exact absurd (first waits _ found) (by decide)
      obtain ⟨next, replays, later, last⟩ := ih roams (by
        rw [awaits]
        cases waits : pane.pending <;> simp_all [onlyRoam])
      exact ⟨next, .cons other handed replays, untouched.trans later, last⟩

end Roaming

end Pane

end ModalPanes
