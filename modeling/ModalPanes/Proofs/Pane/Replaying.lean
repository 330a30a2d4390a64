import ModalPanes.Proofs.Pane.Noting.Keys

/-!
# Repeating a change is typing it again

A recorded change has lost the digits of its counts; their product is handed out in front of its keys.  For
the counts in front of a command, behind the name of its register and behind its operator this makes no
difference, so that the replay and the keys as they were typed go through panes that are alike.  It does make
one where the count belongs to a command in the middle of a change, such as a motion in Visual mode.
-/

namespace ModalPanes

namespace Pane

variable {a b pane : Pane} {key : Key} {keys typed digits : List Key} {count middle total : Option Nat}

/-- Whether a key looks back when the keys are handed out one after the other. -/
def anyLooksBack : List Key → Pane → Bool
  | [], _ => false
  | key :: keys, pane =>
      pane.looksBack key || (dispatchWith (fun _ _ => none) key pane).any (anyLooksBack keys)

theorem anyLooksBack_cons (ahead : anyLooksBack (key :: keys) a = false) :
    a.looksBack key = false ∧
      ∀ {next : Pane}, (∀ again, dispatchWith again key a = some next) →
        anyLooksBack keys next = false := by
  unfold anyLooksBack at ahead
  obtain ⟨here, later⟩ := Bool.or_eq_false_iff.1 ahead
  refine ⟨here, fun handed => ?_⟩
  rwa [handed] at later

/-- A replay that starts with two keys goes on with the others from where the two lead. -/
theorem replays_cons_cons {first second : Key} {next last : Pane}
    (front : ∀ again, dispatchWith again first a = some next)
    (back : ∀ again, dispatchWith again second next = some last)
    (ahead : anyLooksBack (first :: second :: keys) a = false) :
    next.looksBack second = false ∧ anyLooksBack keys last = false ∧
      ∀ final, Replays last keys final → Replays a (first :: second :: keys) final := by
  obtain ⟨here, ahead⟩ := anyLooksBack_cons ahead
  obtain ⟨there, ahead⟩ := anyLooksBack_cons (ahead front)
  refine ⟨there, ahead back, fun final rest => ?_⟩
  exact .cons (runsRepeat_eq_false here) front (.cons (runsRepeat_eq_false there) back rest)

/-- Handing keys out in one of two panes that are alike and typing them in the other leads to panes that are
alike. -/
theorem Alike.handleKeys (alike : a.Alike b) (ahead : anyLooksBack keys a = false) :
    ∃ next, Replays a keys next ∧ next.Alike (b.handleKeys keys) := by
  induction keys generalizing a b with
  | nil => exact ⟨a, .nil a, alike⟩
  | cons key keys ih =>
      obtain ⟨here, later⟩ := anyLooksBack_cons ahead
      obtain ⟨next, handed, same⟩ := alike.handleKey here
      obtain ⟨last, replays, equal⟩ := ih same (later handed)
      exact ⟨last, .cons (runsRepeat_eq_false here) handed replays, equal⟩

def counting (pane : Pane) (count : Option Nat) : Pane := { pane with count := count }

theorem Alike.counting (alike : a.Alike b) (count : Option Nat) :
    (a.counting count).Alike (b.counting count) :=
  alike.through (·.counting count) fun _ => ⟨rfl⟩

/-- Keys are taken for commands of Normal mode. -/
structure TakesCommands (pane : Pane) : Prop where
  prompt : pane.prompt = none
  mode : pane.mode = .normal

theorem TakesCommands.record (takes : pane.TakesCommands) (key : Key) :
    (pane.record key).TakesCommands := ⟨takes.prompt, takes.mode⟩

theorem TakesCommands.of_alike (takes : b.TakesCommands) (alike : a.Alike b) : a.TakesCommands where
  prompt := (alike.same (·.prompt) fun _ => rfl).trans takes.prompt
  mode := (alike.same (·.mode) fun _ => rfl).trans takes.mode

section Commands

variable (takes : pane.TakesCommands)
include takes

theorem dispatchWith_awaited {pending : Pending} (waits : pane.pending = some pending)
    (again : Option Nat → Pane → Option Pane) (key : Key) :
    dispatchWith again key pane = some (pane.handlePending pending key) := by
  unfold dispatchWith handleNormal
  rw [takes.prompt, takes.mode, waits]

theorem dispatchWith_digit (waits : pane.pending = none) {digit : Nat}
    (typed : key.countDigit? pane.count.isSome = some digit) (again : Option Nat → Pane → Option Pane) :
    dispatchWith again key pane = some (pane.pushDigit digit) := by
  unfold dispatchWith handleNormal acceptDigit?
  rw [takes.prompt, takes.mode, waits, typed]
  rfl

theorem dispatchWith_command (waits : pane.pending = none)
    (typed : key.countDigit? pane.count.isSome = none) {command : Command}
    (found : Keymap.findOrMotion? Keymap.normal key = some command) (ordinary : command ≠ .repeatChange)
    (again : Option Nat → Pane → Option Pane) :
    dispatchWith again key pane = some (pane.runNormal command) := by
  unfold dispatchWith handleNormal acceptDigit?
  rw [takes.prompt, takes.mode, waits, typed, found]
  dsimp only [Option.map_none]
  split <;> simp_all

theorem dispatchWith_quote (waits : pane.pending = none) (again : Option Nat → Pane → Option Pane) :
    dispatchWith again (.char '"') pane = some (pane.await .register) := by
  have typed : ∀ counting, (Key.char '"').countDigit? counting = none := by decide
  have found : Keymap.findOrMotion? Keymap.normal (.char '"') = some .awaitRegister := rfl
  exact dispatchWith_command takes waits (typed _) found nofun again

theorem dispatchWith_operator (waits : pane.pending = none) (op : Operator)
    (again : Option Nat → Pane → Option Pane) :
    dispatchWith again (.char op.key) pane = some (pane.runNormal (.operator op)) := by
  have typed : ∀ counting, (Key.char op.key).countDigit? counting = none := by cases op <;> decide
  have found : Keymap.findOrMotion? Keymap.normal (.char op.key) = some (.operator op) := by
    cases op <;> rfl
  exact dispatchWith_command takes waits (typed _) found nofun again

end Commands

/-- A key that types a character is not the one that gives a command up. -/
theorem handlePending_of_typed {c : Char} (types : key.typed? = some c) (pending : Pending) :
    pane.handlePending pending key = completePending { pane with pending := none } pending key := by
  unfold handlePending
  refine if_neg ?_
  rintro (escape | control)
  · simp [Key.typed?, escape] at types
  · obtain rfl : key = .ctrl 'c' := by simpa [Key.isCtrl] using control
    contradiction

def named (pane : Pane) (c : Char) : Pane := { pane with pending := none, register := some c }

theorem Alike.named (alike : a.Alike b) (c : Char) : (a.named c).Alike (b.named c) :=
  alike.through (·.named c) fun _ => ⟨rfl⟩

theorem dispatchWith_name (takes : pane.TakesCommands) (waits : pane.pending = some .register) {c : Char}
    (names : key.typed? = some c) (again : Option Nat → Pane → Option Pane) :
    dispatchWith again key pane = some (pane.named c) := by
  rw [dispatchWith_awaited takes waits, handlePending_of_typed names, completePending, names]
  rfl

/-- Digits that make one count of another. -/
inductive Digits : Option Nat → List Key → Option Nat → Prop where
  | nil (count : Option Nat) : Digits count [] count
  | cons {count total : Option Nat} {key : Key} {keys : List Key} {digit : Nat}
      (typed : key.countDigit? count.isSome = some digit)
      (rest : Digits (some (Numeral.saturate (count.getD 0 * 10 + digit))) keys total) :
      Digits count (key :: keys) total

/-- A count can be typed: in front of a command, or behind an operator. -/
def TakesCount (pane : Pane) : Prop := ∀ pending ∈ pane.pending, ∃ op, pending = .operator op

/-- A digit goes to the count, and what waits for a key goes on waiting. -/
theorem dispatchWith_count (takes : pane.TakesCommands) (counts : pane.TakesCount) {digit : Nat}
    (typed : key.countDigit? pane.count.isSome = some digit) (again : Option Nat → Pane → Option Pane) :
    dispatchWith again key pane = some (pane.pushDigit digit) := by
  cases waits : pane.pending with
  | none => exact dispatchWith_digit takes waits typed again
  | some pending =>
      obtain ⟨op, rfl⟩ := counts pending waits
      obtain ⟨c, types, -⟩ := Option.bind_eq_some_iff.1 typed
      rw [dispatchWith_awaited takes waits, handlePending_of_typed types, completePending, handleOperatorKey,
        acceptDigit?]
      rw [show ({ pane with pending := none } : Pane).count = pane.count from rfl, typed]
      dsimp only [Option.map_some]
      unfold pushDigit await
      rw [waits]

theorem handleKey_digit (takes : a.TakesCommands) (counts : a.TakesCount) {digit : Nat}
    (typed : key.countDigit? a.count.isSome = some digit) :
    (a.handleKey key).Alike (a.counting (some (Numeral.saturate (a.count.getD 0 * 10 + digit)))) :=
  (Alike.handled (dispatchWith_count (takes.record key) counts typed)).trans ⟨rfl⟩

theorem Digits.handleKeys (spelled : Digits count digits total) (takes : a.TakesCommands)
    (counts : a.TakesCount) (here : a.count = count) :
    (a.handleKeys digits).Alike (a.counting total) := by
  induction spelled generalizing a with
  | nil count =>
      obtain rfl := here
      exact .refl a
  | @cons count total key keys digit typed rest ih =>
      obtain rfl := here
      have first := handleKey_digit takes counts typed
      have pending : (a.handleKey key).pending = a.pending := first.same (·.pending) fun _ => rfl
      have takes : (a.counting (some (Numeral.saturate (a.count.getD 0 * 10 + digit)))).TakesCommands :=
        ⟨takes.prompt, takes.mode⟩
      have later := ih (takes.of_alike first) (by rwa [TakesCount, pending])
        (first.same (·.count) fun _ => rfl)
      exact later.trans (first.counting _)

/-- The keys of a change as they can have been typed, behind a count: digits, that make a larger one of it; a
register; an operator, with more digits behind it; and what follows, as it was recorded. -/
inductive Spells : Option Nat → List Key → List Key → Option Nat → Prop where
  | keys (count : Option Nat) (keys : List Key) : Spells count keys keys count
  | digits {count middle total : Option Nat} {digits typed keys : List Key}
      (first : Digits count digits middle) (rest : Spells middle typed keys total) :
      Spells count (digits ++ typed) keys total
  | register {count total : Option Nat} {name : Key} {typed keys : List Key} {c : Char}
      (names : name.typed? = some c) (rest : Spells count typed keys total) :
      Spells count (.char '"' :: name :: typed) (.char '"' :: name :: keys) total
  | operator {count more : Option Nat} {digits keys : List Key} {key : Key} (op : Operator)
      (second : Digits none digits more) (other : key.countDigit? more.isSome = none)
      (object : ∀ c ∈ key.typed?, ¬ (c = 'i' ∨ c = 'a')) :
      Spells count (.char op.key :: digits ++ key :: keys) (.char op.key :: key :: keys)
        (mergeCounts count more)

theorem handleKeys_append (pane : Pane) (front back : List Key) :
    pane.handleKeys (front ++ back) = (pane.handleKeys front).handleKeys back := List.foldl_append

theorem handleKey_register (takes : a.TakesCommands) (waits : a.pending = none) {c : Char}
    (names : key.typed? = some c) : ((a.handleKey (.char '"')).handleKey key).Alike (a.named c) := by
  have quoted : (a.handleKey (.char '"')).Alike (a.await .register) :=
    (Alike.handled (dispatchWith_quote (takes.record _) waits)).trans ⟨rfl⟩
  have takes : (a.handleKey (.char '"')).TakesCommands :=
    TakesCommands.of_alike (b := a.await .register) ⟨takes.prompt, takes.mode⟩ quoted
  have waits : (a.handleKey (.char '"')).pending = some .register := quoted.same (·.pending) fun _ => rfl
  have named : ((a.handleKey (.char '"')).handleKey key).Alike ((a.handleKey (.char '"')).named c) :=
    (Alike.handled (dispatchWith_name (takes.record key) waits names)).trans ⟨rfl⟩
  exact named.trans (quoted.named c)

theorem handleKey_operatorKey (takes : a.TakesCommands) (waits : a.pending = none) (op : Operator) :
    (a.handleKey (.char op.key)).Alike ((a.counting none).await (.operator ⟨op, a.count⟩)) :=
  (Alike.handled (dispatchWith_operator (takes.record _) waits op)).trans ⟨rfl⟩

/-- Digits behind it make another. -/
theorem handleKeys_operator (takes : a.TakesCommands) (waits : a.pending = none) (op : Operator)
    (second : Digits none digits count) :
    ((a.handleKey (.char op.key)).handleKeys digits).Alike
      ((a.counting count).await (.operator ⟨op, a.count⟩)) := by
  have operated := handleKey_operatorKey takes waits op
  have takes : (a.handleKey (.char op.key)).TakesCommands := TakesCommands.of_alike
    (b := (a.counting none).await (.operator ⟨op, a.count⟩)) ⟨takes.prompt, takes.mode⟩ operated
  have waits : (a.handleKey (.char op.key)).pending = some (.operator ⟨op, a.count⟩) :=
    operated.same (·.pending) fun _ => rfl
  have spelled := second.handleKeys takes (by simp [TakesCount, waits])
    (operated.same (·.count) fun _ => rfl)
  exact spelled.trans (operated.counting count)

/-- To the key behind an operator it makes no difference where the counts are. -/
theorem handlePending_operator (a : Pane) (op : Operator) (first : Option Nat) {second : Option Nat}
    (other : key.countDigit? second.isSome = none) (object : ∀ c ∈ key.typed?, ¬ (c = 'i' ∨ c = 'a'))
    (ahead : (Keymap.find? Keymap.motions key).any Command.looksBack = false) :
    ((a.counting second).handlePending (.operator ⟨op, first⟩) key).Alike
      ((a.counting none).handlePending (.operator ⟨op, mergeCounts first second⟩) key) := by
  have fewer : key.countDigit? false = none := by
    cases second with
    | none => exact other
    | some second =>
        unfold Key.countDigit? at other ⊢
        cases typed : key.typed? with
        | none => rfl
        | some c => simp_all
  have total : mergeCounts first second = mergeCounts (mergeCounts first second) none := by
    cases mergeCounts first second <;> rfl
  unfold handlePending
  refine .ite .rfl ⟨rfl⟩ ?_
  exact Alike.operateByKey (a := { a.counting second with pending := none })
    (b := { a.counting none with pending := none }) (p := ⟨op, first⟩)
    (q := ⟨op, mergeCounts first second⟩) ⟨rfl⟩ rfl total other fewer object ahead

/-- An operator, digits and the key behind them do what they do with all of the count in front. -/
theorem handleKey_operator (takes : a.TakesCommands) (waits : a.pending = none) (op : Operator)
    (second : Digits none digits count) (other : key.countDigit? count.isSome = none)
    (object : ∀ c ∈ key.typed?, ¬ (c = 'i' ∨ c = 'a'))
    (ahead : (Keymap.find? Keymap.motions key).any Command.looksBack = false) :
    (((a.handleKey (.char op.key)).handleKeys digits).handleKey key).Alike
      ((a.counting none).handlePending (.operator ⟨op, mergeCounts a.count count⟩) key) := by
  have counted := handleKeys_operator takes waits op second
  generalize (a.handleKey (.char op.key)).handleKeys digits = pane at counted
  have takes : pane.TakesCommands := TakesCommands.of_alike
    (b := (a.counting count).await (.operator ⟨op, a.count⟩)) ⟨takes.prompt, takes.mode⟩ counted
  have waits : pane.pending = some (.operator ⟨op, a.count⟩) := counted.same (·.pending) fun _ => rfl
  have typed := Alike.handled fun again => dispatchWith_awaited (takes.record key) waits again key
  have recorded := (Alike.record key pane).trans counted
  have moved := recorded.handlePending (.operator ⟨op, a.count⟩) fun _ _ => ahead
  exact (typed.trans moved).trans (handlePending_operator a op a.count other object ahead)

theorem replays_register (takes : a.TakesCommands) (waits : a.pending = none)
    (alike : b.Alike (a.counting total)) {c : Char} (names : key.typed? = some c)
    (ahead : anyLooksBack (.char '"' :: key :: keys) b = false) :
    ∃ last, last.Alike (((a.handleKey (.char '"')).handleKey key).counting total) ∧
      anyLooksBack keys last = false ∧
        ∀ final, Replays last keys final → Replays b (.char '"' :: key :: keys) final := by
  have named := handleKey_register takes waits names
  have takes : b.TakesCommands := TakesCommands.of_alike (b := a.counting total)
    ⟨takes.prompt, takes.mode⟩ alike
  have waits : b.pending = none := (alike.same (·.pending) fun _ => rfl).trans waits
  have awaiting : (b.await .register).TakesCommands := ⟨takes.prompt, takes.mode⟩
  obtain ⟨-, ahead, back⟩ := replays_cons_cons (dispatchWith_quote takes waits)
    (dispatchWith_name awaiting rfl names) ahead
  exact ⟨_, ((alike.await .register).named c).trans (named.counting total).symm, ahead, back⟩

/-- It keeps up with an operator, and has the product of the counts with the key behind it. -/
theorem replays_operator (takes : a.TakesCommands) (waits : a.pending = none)
    (alike : b.Alike (a.counting (mergeCounts a.count count))) (op : Operator)
    (second : Digits none digits count) (other : key.countDigit? count.isSome = none)
    (object : ∀ c ∈ key.typed?, ¬ (c = 'i' ∨ c = 'a'))
    (ahead : anyLooksBack (.char op.key :: key :: keys) b = false) :
    ∃ last, last.Alike (((a.handleKey (.char op.key)).handleKeys digits).handleKey key) ∧
      anyLooksBack keys last = false ∧
        ∀ final, Replays last keys final → Replays b (.char op.key :: key :: keys) final := by
  have takesBack : b.TakesCommands := TakesCommands.of_alike
    (b := a.counting (mergeCounts a.count count)) ⟨takes.prompt, takes.mode⟩ alike
  have takesKey : (b.runNormal (.operator op)).TakesCommands := ⟨takesBack.prompt, takesBack.mode⟩
  have waitsBack : b.pending = none := (alike.same (·.pending) fun _ => rfl).trans waits
  have counted : b.count = mergeCounts a.count count := alike.same (·.count) fun _ => rfl
  have awaits : (b.runNormal (.operator op)).pending =
      some (.operator ⟨op, mergeCounts a.count count⟩) := counted ▸ rfl
  obtain ⟨keyAhead, ahead, back⟩ := replays_cons_cons (dispatchWith_operator takesBack waitsBack op)
    (fun again => dispatchWith_awaited takesKey awaits again key) ahead
  have table : (Keymap.find? Keymap.motions key).any Command.looksBack = false := by
    unfold looksBack at keyAhead
    rw [takesKey.prompt] at keyAhead
    exact keyAhead
  have typed := handleKey_operator takes waits op second other object table
  have taken : (b.runNormal (.operator op)).Alike
      ((b.counting none).await (.operator ⟨op, b.count⟩)) := ⟨rfl⟩
  have same := (taken.trans ((alike.counting none).await _)).handlePending
    (.operator ⟨op, mergeCounts a.count count⟩) fun _ _ => table
  exact ⟨_, same.trans typed.symm, ahead, back⟩

/-- Typing the keys does what handing out the recorded ones does, with all of the count in front. -/
theorem Spells.handleKeys (spells : Spells count typed keys total) (takes : a.TakesCommands)
    (waits : a.pending = none) (here : a.count = count) (alike : b.Alike (a.counting total))
    (ahead : anyLooksBack keys b = false) :
    ∃ next, Replays b keys next ∧ next.Alike (a.handleKeys typed) := by
  -- `a` is typed into and has the count so far; the replay in `b` has had all of it from the start
  induction spells generalizing a b with
  | keys count keys =>
      obtain rfl := here
      exact alike.handleKeys ahead
  | @digits count middle total digits typed keys first rest ih =>
      have spelled := first.handleKeys takes (by simp [TakesCount, waits]) here
      have takes : (a.counting middle).TakesCommands := ⟨takes.prompt, takes.mode⟩
      rw [handleKeys_append]
      refine ih (takes.of_alike spelled) ?_ (spelled.same (·.count) fun _ => rfl)
        (alike.trans (spelled.counting total).symm) ahead
      exact (spelled.same (·.pending) fun _ => rfl).trans waits
  | @register count total name typed keys c names rest ih =>
      have named := handleKey_register takes waits names
      obtain ⟨last, same, ahead, back⟩ := replays_register takes waits alike names ahead
      have takes : (a.named c).TakesCommands := ⟨takes.prompt, takes.mode⟩
      have here := (named.same (·.count) fun _ => rfl).trans here
      obtain ⟨next, replays, equal⟩ :=
        ih (takes.of_alike named) (named.same (·.pending) fun _ => rfl) here same ahead
      exact ⟨next, back next replays, equal⟩
  | @operator count more digits keys key op second other object =>
      obtain rfl := here
      obtain ⟨last, same, ahead, back⟩ := replays_operator takes waits alike op second other object ahead
      obtain ⟨next, replays, equal⟩ := same.handleKeys ahead
      refine ⟨next, back next replays, ?_⟩
      show next.Alike ((a.handleKey (.char op.key)).handleKeys (digits ++ key :: keys))
      rw [handleKeys_append]
      exact equal

/-- The rest of a command is typed: nothing is repeated, no more counts are typed, and the command is complete
with the last key and not before. -/
inductive TypesRest : Pane → List Key → Prop where
  | done {pane : Pane} (idle : pane.isIdle = true) : TypesRest pane []
  | key {pane : Pane} {key : Key} {keys : List Key} (busy : pane.isIdle = false) (uncounted : pane.count = none)
      (other : pane.runsRepeat key = false) (rest : TypesRest (pane.handleKey key) keys) :
      TypesRest pane (key :: keys)

/-- A command is typed, with counts in front of it, behind the name of its register and behind its operator, but
nowhere else.  If it does not take the count in front of it, there is none. -/
inductive TypesCommand : Pane → List Key → Prop where
  | digits {pane : Pane} {digits typed : List Key} {count total : Option Nat} (here : pane.count = count)
      (first : Digits count digits total) (rest : TypesCommand (pane.handleKeys digits) typed) :
      TypesCommand pane (digits ++ typed)
  | register {pane : Pane} {name : Key} {typed : List Key} {c : Char} (names : name.typed? = some c)
      (rest : TypesCommand ((pane.handleKey (.char '"')).handleKey name) typed) :
      TypesCommand pane (.char '"' :: name :: typed)
  | command {pane : Pane} {key : Key} {typed : List Key} {command : Command}
      (other : key.countDigit? pane.count.isSome = none)
      (found : Keymap.findOrMotion? Keymap.normal key = some command) (ordinary : command ≠ .repeatChange)
      (takes : command.takesCount = true ∨ pane.count = none) (rest : TypesRest (pane.handleKey key) typed) :
      TypesCommand pane (key :: typed)
  | operator {pane : Pane} {digits typed : List Key} {key : Key} {more : Option Nat} (op : Operator)
      (second : Digits none digits more) (other : key.countDigit? more.isSome = none)
      (object : ∀ c ∈ key.typed?, ¬ (c = 'i' ∨ c = 'a'))
      (rest : TypesRest (((pane.handleKey (.char op.key)).handleKeys digits).handleKey key) typed) :
      TypesCommand pane (.char op.key :: digits ++ key :: typed)

section Recording

open Recorder (Holds Notes)

variable {origin : Recorder} {last : Option RecordedChange} {recorded : List Key} {noted : Option Nat}
  {next : Pane}

/-- The keys of a command are recorded, the latest first; when it is complete, it may be the last change. -/
inductive Kept (last : Option RecordedChange) (keys : List Key) (count : Option Nat) (pane : Pane) : Prop where
  | busy (busy : pane.isIdle = false) (holds : Holds last keys count pane.recorder)
  | idle (idle : pane.isIdle = true)
      (ended : pane.recorder.last = last ∨ pane.recorder.last = some ⟨keys.reverse, count⟩)

theorem Kept.settle (holds : Holds last recorded noted pane.recorder) : Kept last recorded noted pane.settle := by
  have same : pane.settle.isIdle = pane.isIdle := (Alike.settle pane).same (·.isIdle) fun _ => rfl
  have finished := (settle_finishes pane).1
  cases idle : pane.isIdle with
  | false =>
      rw [idle] at finished
      exact .busy (same.trans idle) (finished ▸ holds)
  | true =>
      rw [idle] at finished
      exact .idle (same.trans idle) (finished ▸ holds.finish)

theorem TypesRest.uncounted (rest : TypesRest pane keys) : pane.count = none := by
  cases rest with
  | done idle => exact (isIdle_iff.1 idle).2.2.1
  | key busy uncounted other rest => exact uncounted

theorem TypesRest.idle (rest : TypesRest pane keys) : (pane.handleKeys keys).isIdle = true := by
  induction rest with
  | done idle => exact idle
  | key busy uncounted other rest ih => exact ih

theorem TypesRest.kept (rest : TypesRest pane keys) (kept : Kept last recorded noted pane) :
    (pane.handleKeys keys).recorder.last = last ∨
      (pane.handleKeys keys).recorder.last = some ⟨recorded.reverse ++ keys, noted⟩ := by
  induction rest generalizing recorded with
  | done idle =>
      cases kept with
      | busy busy holds => simp [idle] at busy
      | idle idle ended => rwa [List.append_nil]
  | @key pane key keys busy uncounted other rest ih =>
      rw [← runsRepeat_record] at other
      obtain ⟨next, handed⟩ := exists_dispatchWith_of_not_repeat other
      have settled := handleKey_of_handed handed
      have still : next.count = none := by
        rw [← (Alike.handled handed).same (·.count) fun _ => rfl]
        exact rest.uncounted
      have stays := (records_dispatchWith other (handed fun _ _ => none)).stays uncounted still
      cases kept with
      | idle idle ended => simp [idle] at busy
      | busy busy holds =>
          have pushed : Holds last (key :: recorded) noted (pane.record key).recorder := by
            unfold Pane.record
            rw [busy]
            exact holds.push key
          have after := ih (settled ▸ Kept.settle (pushed.stays stays))
          rwa [List.reverse_cons, List.append_assoc] at after

/-- Some keys of a command have been typed, and the recorder has them without the digits. -/
structure Begun (origin : Recorder) (recorded : List Key) (noted : Option Nat) (pane : Pane) : Prop
    extends TakesCommands pane where
  notes : Notes origin recorded noted (if pane.isIdle then pane.recorder.start else pane.recorder)

theorem begun_of_handed (handed : ∀ again, dispatchWith again key (pane.record key) = some next)
    (takes : next.TakesCommands) (busy : next.isIdle = false) (notes : Notes origin keys total next.recorder) :
    Begun origin keys total (pane.handleKey key) := by
  have same := Alike.handled handed
  refine ⟨takes.of_alike same, ?_⟩
  rw [same.same (·.isIdle) fun _ => rfl, busy, handleKey_of_handed handed, (settle_finishes next).1, busy]
  exact notes

namespace Begun

variable (begun : Begun origin recorded noted pane)
include begun

theorem record (key : Key) : Notes origin (key :: recorded) noted (pane.record key).recorder :=
  begun.notes.push key

theorem counted {count : Option Nat} (here : pane.count = count) (counts : pane.TakesCount)
    (spelled : Digits count digits total) :
    Begun origin recorded noted (pane.handleKeys digits) ∧ (pane.handleKeys digits).count = total ∧
      (pane.handleKeys digits).pending = pane.pending := by
  induction spelled generalizing pane with
  | nil count => exact ⟨begun, here, rfl⟩
  | @cons count total key keys digit typed rest ih =>
      obtain rfl := here
      have handed := dispatchWith_count (begun.toTakesCommands.record key) counts typed
      have same := Alike.handled handed
      have pending : (pane.handleKey key).pending = pane.pending := same.same (·.pending) fun _ => rfl
      have busy : ((pane.record key).pushDigit digit).isIdle = false := by simp [isIdle, pushDigit]
      have typed := begun_of_handed handed ⟨begun.prompt, begun.mode⟩ busy (begun.record key).dropDigit
      obtain ⟨begun, counted, waits⟩ := ih typed (same.same (·.count) fun _ => rfl) (by rwa [TakesCount, pending])
      exact ⟨begun, counted, waits.trans pending⟩

theorem register (waits : pane.pending = none) {c : Char} (names : key.typed? = some c) :
    Begun origin (key :: .char '"' :: recorded) noted ((pane.handleKey (.char '"')).handleKey key) := by
  have handed := dispatchWith_quote (begun.toTakesCommands.record (.char '"')) waits
  have quoted : Begun origin (.char '"' :: recorded) noted (pane.handleKey (.char '"')) :=
    begun_of_handed handed ⟨begun.prompt, begun.mode⟩ (by simp [isIdle, await]) (begun.record _)
  have awaits : (pane.handleKey (.char '"')).pending = some .register :=
    (Alike.handled handed).same (·.pending) fun _ => rfl
  have named := dispatchWith_name (quoted.toTakesCommands.record key) awaits names
  exact begun_of_handed named ⟨quoted.prompt, quoted.mode⟩ (by simp [isIdle, Pane.named]) (quoted.record key)

theorem operator (waits : pane.pending = none) (op : Operator) :
    Begun origin (.char op.key :: recorded) (mergeCounts noted pane.count) (pane.handleKey (.char op.key)) := by
  have handed := dispatchWith_operator (begun.toTakesCommands.record (.char op.key)) waits op
  exact begun_of_handed handed ⟨begun.prompt, begun.mode⟩ (by simp [isIdle, runNormal, withCount, await])
    ((begun.record _).noteCount _)

theorem command (live : origin.replaying = false) (waits : pane.pending = none)
    (other : key.countDigit? pane.count.isSome = none) {command : Command}
    (found : Keymap.findOrMotion? Keymap.normal key = some command) (ordinary : command ≠ .repeatChange)
    (takes : command.takesCount = true ∨ pane.count = none) :
    Kept origin.last (key :: recorded) (mergeCounts noted pane.count) (pane.handleKey key) := by
  have handed := dispatchWith_command (begun.toTakesCommands.record key) waits other found ordinary
  have notes := (begun.record key).noteCount pane.count
  have stays : ((pane.record key).recorder.noteCount pane.count).Stays
      ((pane.record key).runNormal command).recorder := by
    cases taking : command.takesCount with
    | true => exact stays_runNormal taking
    | false =>
        have uncounted : pane.count = none := takes.resolve_left (by simp [taking])
        rw [uncounted, Recorder.noteCount_none]
        exact stays_runNormal_uncounted taking
  rw [handleKey_of_handed handed]
  exact .settle ((Holds.of_notes notes live).stays stays)

/-- A command that is given up is no change. -/
theorem cancels (live : origin.replaying = false)
    (handed : ∀ again, dispatchWith again key (pane.record key) = some (pane.record key).cancelCommand) :
    Kept origin.last keys total (pane.handleKey key) := by
  have idle : (pane.record key).cancelCommand.isIdle = true :=
    isIdle_iff.2 ⟨begun.mode, rfl, rfl, rfl, begun.prompt⟩
  have ended := (begun.record key).last_finish false
  rw [live] at ended
  rw [handleKey_of_handed handed]
  refine .idle (((Alike.settle _).same (·.isIdle) fun _ => rfl).trans idle) (.inl ?_)
  rw [(settle_finishes _).1, idle]
  exact ended

/-- The key behind an operator takes the count there, or gives the command up. -/
theorem target (live : origin.replaying = false) {pending : PendingOperator}
    (waits : pane.pending = some (.operator pending)) (other : key.countDigit? pane.count.isSome = none)
    (object : ∀ c ∈ key.typed?, ¬ (c = 'i' ∨ c = 'a')) :
    Kept origin.last (key :: recorded) (mergeCounts noted pane.count) (pane.handleKey key) := by
  have handed := fun again => dispatchWith_awaited (begun.toTakesCommands.record key) waits again key
  rcases handlePending_operator_notes (pane.record key) pending other object with canceled | stays
  · exact begun.cancels live fun again => (handed again).trans (congrArg some canceled)
  · have notes := (begun.record key).noteCount pane.count
    rw [handleKey_of_handed handed]
    exact .settle ((Holds.of_notes notes live).stays stays)

end Begun

theorem TypesCommand.idle (types : TypesCommand pane typed) : (pane.handleKeys typed).isIdle = true := by
  induction types with
  | digits here first rest ih => rwa [handleKeys_append]
  | register names rest ih => exact ih
  | command other found ordinary takes rest => exact rest.idle
  | @operator pane digits typed key more op second other object rest =>
      show ((pane.handleKey (.char op.key)).handleKeys (digits ++ key :: typed)).isIdle = true
      rw [handleKeys_append]
      exact rest.idle

/-- The keys of a command are recorded without the digits, and its count is the product of what they make. -/
theorem TypesCommand.records (types : TypesCommand pane typed) (begun : Begun origin recorded none pane)
    (waits : pane.pending = none) (live : origin.replaying = false) :
    ∃ keys total, Spells pane.count typed keys total ∧
      ((pane.handleKeys typed).recorder.last = origin.last ∨
        (pane.handleKeys typed).recorder.last = some ⟨recorded.reverse ++ keys, total⟩) := by
  induction types generalizing recorded with
  | digits here first rest ih =>
      obtain ⟨begun, counted, pending⟩ := begun.counted here (by simp [TakesCount, waits]) first
      obtain ⟨keys, total, spells, ended⟩ := ih begun (pending.trans waits)
      rw [counted] at spells
      rw [handleKeys_append, here]
      exact ⟨keys, total, .digits first spells, ended⟩
  | @register pane name typed c names rest ih =>
      have named := handleKey_register begun.toTakesCommands waits names
      obtain ⟨keys, total, spells, ended⟩ :=
        ih (begun.register waits names) (named.same (·.pending) fun _ => rfl)
      rw [show _ = pane.count from named.same (·.count) fun _ => rfl] at spells
      simp only [List.reverse_cons, List.append_assoc] at ended
      exact ⟨_, total, .register names spells, ended⟩
  | @command pane key typed command other found ordinary takes rest =>
      have kept := begun.command live waits other found ordinary takes
      rw [none_mergeCounts] at kept
      have ended := rest.kept kept
      rw [List.reverse_cons, List.append_assoc] at ended
      exact ⟨key :: typed, pane.count, .keys _ _, ended⟩
  | @operator pane digits typed key more op second other object rest =>
      have counted := handleKeys_operator begun.toTakesCommands waits op second
      have operated := handleKey_operatorKey begun.toTakesCommands waits op
      have awaits : (pane.handleKey (.char op.key)).pending = some (.operator ⟨op, pane.count⟩) :=
        operated.same (·.pending) fun _ => rfl
      obtain ⟨begun, here, -⟩ := (begun.operator waits op).counted (operated.same (·.count) fun _ => rfl)
        (by simp [TakesCount, awaits]) second
      have kept := begun.target live (counted.same (·.pending) fun _ => rfl) (here ▸ other) object
      have ended := rest.kept kept
      rw [here, none_mergeCounts] at ended
      simp only [List.reverse_cons, List.append_assoc] at ended
      refine ⟨.char op.key :: key :: typed, _, .operator op second other object, ?_⟩
      rw [show pane.handleKeys (.char op.key :: digits ++ key :: typed) =
        (((pane.handleKey (.char op.key)).handleKeys digits).handleKey key).handleKeys typed from
          handleKeys_append _ _ _]
      exact ended

end Recording

/-- A command that is typed leaves an idle pane, where the last change is what it was, or has keys and a count
that the typed keys spell. -/
theorem Reached.records_spelled (reached : Reached pane) (idle : pane.isIdle = true)
    (types : TypesCommand pane typed) :
    (pane.handleKeys typed).isIdle = true ∧
      ((pane.handleKeys typed).recorder.last = pane.recorder.last ∨
        ∃ change, (pane.handleKeys typed).recorder.last = some change ∧
          Spells none typed change.keys change.count) := by
  obtain ⟨mode, waits, count, -, prompt⟩ := isIdle_iff.1 idle
  have begun : Begun pane.recorder [] none pane := by
    refine ⟨⟨prompt, mode⟩, ?_⟩
    rw [if_pos idle]
    exact .start (reached.recording idle)
  obtain ⟨keys, total, spells, ended⟩ := types.records begun waits reached.not_replaying
  rw [count] at spells
  exact ⟨types.idle, ended.imp_right fun last => ⟨_, last, spells⟩⟩

/-- Repeating a change leaves the same text and the same registers as typing its keys again, with the counts
in front of a command, behind a register or behind an operator, if none of the keys looks back. -/
theorem repeat_types_again (idle : pane.isIdle = true) {change : RecordedChange}
    (last : pane.recorder.last = some change) (spells : Spells none typed change.keys change.count)
    (ahead : anyLooksBack change.keys ((pane.record (.char '.')).replayOf change) = false) :
    (pane.handleKey (.char '.')).buffer.text = (pane.handleKeys typed).buffer.text ∧
      (pane.handleKey (.char '.')).registers = (pane.handleKeys typed).registers := by
  obtain ⟨mode, waits, count, -, prompt⟩ := isIdle_iff.1 idle
  have started : ((pane.record (.char '.')).replayOf change).Alike (pane.counting change.count) := by
    unfold replayOf
    rw [show (pane.record (.char '.')).count = none from count]
    exact ⟨rfl⟩
  obtain ⟨next, replays, same⟩ := spells.handleKeys ⟨prompt, mode⟩ waits count started ahead
  have repeats : (pane.record (.char '.')).runsRepeat (.char '.') = true := by
    have digit : ∀ counting, (Key.char '.').countDigit? counting = none := by decide
    rw [runsRepeat_record, runsRepeat, prompt, mode, waits, acceptDigit?, digit]
    rfl
  have repeated := replays.handleKey repeats ((pane.record_last _).trans last)
  have ended : next.replayed.Alike next := ⟨rfl⟩
  have alike : (pane.handleKey (.char '.')).Alike (pane.handleKeys typed) := by
    rw [repeated]
    exact (Alike.settle _).trans (ended.trans same)
  exact ⟨alike.same (·.buffer.text) fun _ => rfl, alike.same (·.registers) fun _ => rfl⟩

/-- Twice two words into a register, with a count in front of the operator and another behind it. -/
theorem repeat_types_again_words :
    let typed : List Key := [.char '"', .char 'a', .char '2', .char 'd', .char '2', .char 'w']
    let pane := typedInto "a b c d e f g h i j".toList typed
    pane.isIdle = true ∧
      pane.recorder.last = some ⟨[.char '"', .char 'a', .char 'd', .char 'w'], some 4⟩ ∧
        Spells none typed [.char '"', .char 'a', .char 'd', .char 'w'] (some 4) ∧
          (pane.handleKey (.char '.')).buffer.text = "i j".toList ∧
            (pane.handleKeys typed).buffer.text = "i j".toList ∧
              (pane.handleKey (.char '.')).registers = (pane.handleKeys typed).registers := by
  intro typed pane
  have last : pane.recorder.last = some ⟨[.char '"', .char 'a', .char 'd', .char 'w'], some 4⟩ := by
    decide +kernel
  have two : Digits none [.char '2'] (some 2) := .cons (show _ = some 2 by decide) (.nil _)
  have word : ∀ c ∈ (Key.char 'w').typed?, ¬ (c = 'i' ∨ c = 'a') := by
    rintro c ⟨⟩
    decide
  have types : TypesCommand (showing (.ofText "a b c d e f g h i j".toList) {} 20 5) typed :=
    .register rfl (.digits (show _ = none by decide +kernel) two
      (.operator .delete two rfl word (.done (by decide +kernel))))
  obtain ⟨idle, records⟩ : pane.isIdle = true ∧ (pane.recorder.last = none ∨
      ∃ change, pane.recorder.last = some change ∧ Spells none typed change.keys change.count) :=
    (Reached.start _ _ _ _).records_spelled (by decide +kernel) types
  have spells : Spells none typed [.char '"', .char 'a', .char 'd', .char 'w'] (some 4) := by
    rw [last] at records
    obtain ⟨change, same, spells⟩ := records.resolve_left nofun
    obtain rfl := Option.some.inj same
    exact spells
  have ahead : anyLooksBack [.char '"', .char 'a', .char 'd', .char 'w']
      ((pane.record (.char '.')).replayOf
        ⟨[.char '"', .char 'a', .char 'd', .char 'w'], some 4⟩) = false := by
    decide +kernel
  obtain ⟨text, registers⟩ := repeat_types_again idle last spells ahead
  have typedText : (pane.handleKeys typed).buffer.text = "i j".toList := by decide +kernel
  exact ⟨idle, last, spells, text.trans typedText, typedText, registers⟩

/-- The count of a motion in a selection goes to the command in front of it when the change is repeated. -/
theorem repeat_not_typed_again :
    let typed : List Key := [.char 'v', .char '3', .char 'l', .char 'd']
    let pane := typedInto "abcdefghij".toList typed
    Reached pane ∧ pane.isIdle = true ∧
      pane.recorder.last = some ⟨[.char 'v', .char 'l', .char 'd'], some 3⟩ ∧
        (pane.handleKey (.char '.')).buffer.text = "ghij".toList ∧
          (pane.handleKeys typed).buffer.text = "ij".toList ∧
            ((pane.handleKey (.char '.')).registers.get none).text = "ef".toList ∧
              ((pane.handleKeys typed).registers.get none).text = "efgh".toList := by
  intro typed pane
  exact ⟨reached_typedInto _ _, by decide +kernel, by decide +kernel, by decide +kernel, by decide +kernel,
    by decide +kernel, by decide +kernel⟩

end Pane

end ModalPanes
