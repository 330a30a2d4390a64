import ModalPanes.Proofs.Pane.Roaming

/-!
# Commands while they are typed

Until a command is complete, each of its keys only adds to what waits: a digit to a count, a name to a
register, an operator to what it will act on.  The pane settles after every one of them, and stays as it was
in everything that a command looks at.
-/

namespace ModalPanes

namespace Pane

variable {pane middle last next : Pane} {key : Key} {keys typed : List Key} {pending after : Option Pending}
  {count total counted : Option Nat} {register name named : Option Char}

/-- Keys are handled one after the other, each without repeating the last change. -/
inductive Handles : Pane → List Key → Pane → Prop where
  | nil (pane : Pane) : Handles pane [] pane
  | cons {pane middle next : Pane} {key : Key} {keys : List Key}
      (handled : ∀ depth, handleKeyWithin depth key pane = some middle) (rest : Handles middle keys next) :
      Handles pane (key :: keys) next

namespace Handles

theorem append {front back : List Key} (first : Handles pane front middle) (second : Handles middle back next) :
    Handles pane (front ++ back) next := by
  induction first with
  | nil pane => exact second
  | cons handled rest ih => exact .cons handled (ih second)

theorem handleKeys (handles : Handles pane keys next) : pane.handleKeys keys = next := by
  induction handles with
  | nil pane => rfl
  | @cons pane middle next key keys handled rest ih =>
      have first : pane.handleKey key = middle := by
        unfold Pane.handleKey
        rw [handled]
        rfl
      rw [← ih, ← first]
      rfl

theorem one (handed : ∀ again, dispatchWith again key (pane.record key) = some next) :
    Handles pane [key] next.settle := by
  refine .cons (fun depth => ?_) (.nil _)
  obtain ⟨again, eq⟩ := exists_dispatchWith depth
  unfold handleKeyWithin
  rw [eq, handed again]
  rfl

end Handles

/-- A key does the same, but for the records of it, to panes that are alike. -/
theorem Alike.handles {a b : Pane} (alike : a.Alike b)
    (handed : ∀ pane : Pane, pane.Alike b →
      ∃ last, (∀ again, Pane.dispatchWith again key pane = some last) ∧ last.Alike next) :
    ∃ last, Handles a [key] last ∧ last.Alike next := by
  obtain ⟨last, dispatched, same⟩ := handed (a.record key) ((Alike.record key a).trans alike)
  exact ⟨_, .one dispatched, (Alike.settle last).trans same⟩

/-- Where nothing is half-typed, a key runs its command. -/
theorem Alike.handles_command {a b : Pane} (alike : a.Alike b) (idle : b.isIdle = true) {command : Command}
    (found : Keymap.findOrMotion? Keymap.normal key = some command) (nonzero : command ≠ .motion .lineStart)
    (ordinary : command ≠ .repeatChange)
    (runs : ∀ pane : Pane, pane.Alike b → pane.count = none → (pane.runNormal command).Alike next) :
    ∃ last, Handles a [key] last ∧ last.Alike next := by
  obtain ⟨mode, pending, count, -, prompt⟩ := isIdle_iff.1 idle
  refine alike.handles fun pane same => ?_
  have takes : pane.TakesCommands := TakesCommands.of_alike ⟨prompt, mode⟩ same
  have waits : pane.pending = none := (same.same (·.pending) fun _ => rfl).trans pending
  have counts : pane.count = none := (same.same (·.count) fun _ => rfl).trans count
  have digit := Keymap.countDigit?_of_findOrMotion? found nonzero
  exact ⟨_, dispatchWith_command takes waits (digit _) found ordinary, runs pane same counts⟩

theorem Alike.handles_awaited {a b : Pane} {waits : Pending} (alike : a.Alike (b.await waits))
    (takes : b.TakesCommands)
    (completes : ∀ pane : Pane, pane.Alike (b.await waits) → (pane.handlePending waits key).Alike next) :
    ∃ last, Handles a [key] last ∧ last.Alike next := by
  refine alike.handles fun pane same => ?_
  have awaiting : (b.await waits).TakesCommands := ⟨takes.prompt, takes.mode⟩
  have awaits : pane.pending = some waits := same.same (·.pending) fun _ => rfl
  exact ⟨_, fun again => dispatchWith_awaited (awaiting.of_alike same) awaits again key, completes pane same⟩

/-- Settling commits nothing where no step of the history is under way. -/
theorem history_settle (closed : pane.history.isOpen = false) : pane.settle.history = pane.history := by
  obtain ⟨recorder, view, eq, -⟩ := settle_eq pane
  rw [eq]
  show pane.settledHistory = pane.history
  unfold settledHistory
  rw [closed, Bool.and_false]
  rfl

/-- A pane with other things waiting for a command. -/
def waiting (pane : Pane) (pending : Option Pending) (count : Option Nat) (register : Option Char) : Pane :=
  { pane with pending := pending, count := count, register := register }

theorem Alike.waiting {a b : Pane} (alike : a.Alike b) (pending : Option Pending) (count : Option Nat)
    (register : Option Char) : (a.waiting pending count register).Alike (b.waiting pending count register) :=
  alike.through (·.waiting pending count register) fun _ => ⟨rfl⟩

/-- Normal mode, with no step of the history under way. -/
structure Ready (pane : Pane) : Prop extends TakesCommands pane where
  closed : pane.history.isOpen = false

theorem Reached.ready (reached : Reached pane) (idle : pane.isIdle = true) : pane.Ready := by
  obtain ⟨mode, -, -, -, prompt⟩ := isIdle_iff.1 idle
  refine ⟨⟨prompt, mode⟩, ?_⟩
  rw [← Bool.not_eq_true]
  intro stepping
  have typing := reached.invariant.2.1 stepping
  rw [mode] at typing
  contradiction

/-- Nothing is different but what waits for a command, what is shown and what is recorded. -/
structure Stands (pane : Pane) (pending : Option Pending) (count : Option Nat) (register : Option Char)
    (next : Pane) : Prop where
  alike : next.Alike (pane.waiting pending count register)
  history : next.history = pane.history

namespace Stands

theorem start (pane : Pane) : Stands pane pane.pending pane.count pane.register pane := ⟨.refl pane, rfl⟩

theorem of_idle (idle : pane.isIdle = true) : Stands pane none none none pane := by
  obtain ⟨-, pending, count, register, -⟩ := isIdle_iff.1 idle
  rw [← pending, ← count, ← register]
  exact .start pane

variable (stands : Stands pane pending count register middle)
include stands

theorem isPending : middle.pending = pending := stands.alike.same (·.pending) fun _ => rfl

theorem isCount : middle.count = count := stands.alike.same (·.count) fun _ => rfl

theorem isRegister : middle.register = register := stands.alike.same (·.register) fun _ => rfl

theorem ready (ready : pane.Ready) : middle.Ready where
  prompt := (stands.alike.same (·.prompt) fun _ => rfl).trans ready.prompt
  mode := (stands.alike.same (·.mode) fun _ => rfl).trans ready.mode
  closed := (congrArg History.isOpen stands.history).trans ready.closed

theorem type (ready : pane.Ready)
    (handed : ∀ again, dispatchWith again key (middle.record key) = some last)
    (alike : last.Alike (middle.waiting after counted named)) (history : last.history = middle.history) :
    ∃ next, Handles middle [key] next ∧ Stands pane after counted named next := by
  have same := history.trans stands.history
  have settled : last.settle.history = last.history :=
    history_settle ((congrArg History.isOpen same).trans ready.closed)
  exact ⟨_, .one handed, ((Alike.settle last).trans alike).trans (stands.alike.waiting _ _ _),
    settled.trans same⟩

theorem digit (ready : pane.Ready) (counts : ∀ waits ∈ pending, ∃ op, waits = .operator op) {value : Nat}
    (typed : key.countDigit? count.isSome = some value) :
    ∃ next, Handles middle [key] next ∧
      Stands pane pending (some (Numeral.saturate (count.getD 0 * 10 + value))) register next := by
  have takes := (stands.ready ready).toTakesCommands.record key
  obtain rfl := stands.isPending
  obtain rfl := stands.isCount
  obtain rfl := stands.isRegister
  exact stands.type ready (dispatchWith_count takes counts typed) ⟨rfl⟩ rfl

theorem digits (ready : pane.Ready) (counts : ∀ waits ∈ pending, ∃ op, waits = .operator op)
    (spelled : Digits count typed total) :
    ∃ next, Handles middle typed next ∧ Stands pane pending total register next := by
  induction spelled generalizing middle with
  | nil count => exact ⟨middle, .nil middle, stands⟩
  | cons typed rest ih =>
      obtain ⟨more, handled, stands⟩ := stands.digit ready counts typed
      obtain ⟨next, handles, stands⟩ := ih stands
      exact ⟨next, handled.append handles, stands⟩

end Stands

/-- Keys in front of a command: digits of its count, and names of registers. -/
inductive Fronts : Option Nat → Option Char → List Key → Option Nat → Option Char → Prop where
  | digits {count total : Option Nat} {digits : List Key} (spelled : Digits count digits total)
      (register : Option Char) : Fronts count register digits total register
  | register {count middle total : Option Nat} {register name : Option Char} {digits keys : List Key}
      {quote letter : Key} {c : Char} (spelled : Digits count digits middle)
      (quotes : Keymap.findOrMotion? Keymap.normal quote = some .awaitRegister)
      (names : letter.typed? = some c) (rest : Fronts middle (some c) keys total name) :
      Fronts count register (digits ++ quote :: letter :: keys) total name

theorem Stands.fronts (stands : Stands pane none count register middle) (ready : pane.Ready)
    (fronts : Fronts count register keys total name) :
    ∃ next, Handles middle keys next ∧ Stands pane none total name next := by
  induction fronts generalizing middle with
  | digits spelled register => exact stands.digits ready nofun spelled
  | @register count more total register name digits keys quote letter c spelled quotes names rest ih =>
      obtain ⟨counted, front, stands⟩ := stands.digits ready nofun spelled
      have takes := (stands.ready ready).toTakesCommands.record quote
      have digit := Keymap.countDigit?_of_findOrMotion? quotes nofun
      obtain ⟨quoted, first, stands⟩ : ∃ next, Handles counted [quote] next ∧
          Stands pane (some .register) more register next :=
        stands.type ready (dispatchWith_command takes stands.isPending (digit _) quotes nofun)
          ⟨by rw [← stands.isCount, ← stands.isRegister]; rfl⟩ rfl
      have takes := (stands.ready ready).toTakesCommands.record letter
      obtain ⟨chosen, second, stands⟩ : ∃ next, Handles quoted [letter] next ∧
          Stands pane none more (some c) next :=
        stands.type ready (dispatchWith_name takes stands.isPending names)
          ⟨by rw [← stands.isCount]; rfl⟩ rfl
      obtain ⟨next, back, stands⟩ := ih stands
      exact ⟨next, front.append (first.append (second.append back)), stands⟩

end Pane

end ModalPanes
