import Mathlib.Logic.Function.Iterate
import ModalPanes.Proofs.Pane.Handling
import ModalPanes.Proofs.Pane.Marking
import ModalPanes.Proofs.Pane.Missing

/-!
# Counts multiply

The count in front of an operator and the one behind it go different ways to what the operator acts on: the
first waits with the operator, and both are merged when the target takes them, or when one key of it still has
to be awaited.  The recorder multiplies them on its own.  All of it comes to the same as their product typed in
one place, in front or behind.  Only the motions to a row of the screen look at how often the view has followed
the cursor in between.
-/

namespace ModalPanes

namespace Pane

open Recorder (Notes)

variable {a b base pane middle last next : Pane} {op : Operator} {opener key : Key}
  {keys recorded front behind : List Key} {target : Option Motion} {pending after : Option Pending}
  {count counted noted first second total : Option Nat} {typed number : Nat}

/-- Where the view goes that follows the cursor does not depend on what waits for a command. -/
theorem view_follow (alike : a.Alike (b.waiting pending count none)) (view : a.view = b.view) :
    a.follow.view = b.follow.view := by
  unfold follow
  rw [view]
  exact alike.same (fun pane => b.view.scrollTo pane.buffer pane.textArea pane.options.scrollOff pane.cursor.pos)
    fun _ => rfl

theorem alike_follow_iterate (pane : Pane) (typed : Nat) : (follow^[typed] pane).Alike pane := by
  induction typed with
  | zero => exact .refl pane
  | succ typed ih =>
      rw [Function.iterate_succ_apply']
      exact Alike.trans (b := follow^[typed] pane) ⟨rfl⟩ ih

/-- So many keys of a command have been typed in an idle pane: what waits for the rest, what is noted of it,
and where the view has gone, which follows the cursor after every key. -/
structure Underway (pane : Pane) (pending : Option Pending) (count : Option Nat) (recorded : List Key)
    (noted : Option Nat) (typed : Nat) (next : Pane) : Prop extends Stands pane pending count none next where
  notes : Notes pane.recorder recorded noted (if next.isIdle then next.recorder.start else next.recorder)
  view : next.view = (follow^[typed] pane).view

namespace Underway

theorem start (idle : pane.isIdle = true) (rests : pane.recorder.recording = none) :
    Underway pane none none [] none 0 pane where
  toStands := .of_idle idle
  notes := by
    rw [if_pos idle]
    exact .start rests
  view := rfl

variable (underway : Underway pane pending count recorded noted typed middle)
include underway

theorem record (key : Key) : Notes pane.recorder (key :: recorded) noted (middle.record key).recorder :=
  underway.notes.push key

/-- Without what waits for a key, the pane is as it was. -/
theorem stripped (recorder : Recorder) :
    Alike { middle with pending := none, recorder := recorder } (pane.waiting none count none) := by
  have taken : Alike { middle with pending := none, recorder := recorder } (middle.waiting none count none) :=
    ⟨by rw [← underway.isRegister, ← underway.isCount]; rfl⟩
  exact taken.trans (underway.alike.waiting none count none)

/-- One more key, with which the command is not yet complete. -/
theorem type (ready : pane.Ready)
    (handed : ∀ again, dispatchWith again key (middle.record key) = some last)
    (alike : last.Alike (middle.waiting after counted none)) (history : last.history = middle.history)
    (view : last.view = middle.view) (waits : after.isSome ∨ counted.isSome)
    (notes : Notes pane.recorder keys total last.recorder) :
    ∃ next, Handles middle [key] next ∧ Underway pane after counted keys total (typed + 1) next := by
  have same := history.trans underway.history
  have settled : last.settle.history = last.history :=
    history_settle ((congrArg History.isOpen same).trans ready.closed)
  have stands : Stands pane after counted none last.settle :=
    ⟨((Alike.settle last).trans alike).trans (underway.alike.waiting _ _ _), settled.trans same⟩
  have busy : last.settle.isIdle = false := by
    rw [← Bool.not_eq_true, isIdle_iff]
    rintro ⟨-, pending, count, -⟩
    rw [stands.isPending] at pending
    rw [stands.isCount] at count
    rcases waits with waits | waits
    · rw [pending] at waits
      contradiction
    · rw [count] at waits
      contradiction
  have running : last.isIdle = false := ((Alike.settle last).same (·.isIdle) fun _ => rfl).symm.trans busy
  obtain ⟨recorder, followed⟩ := settle_finishes last
  refine ⟨last.settle, .one handed, stands, ?_, ?_⟩
  · rw [busy, recorder, running]
    exact notes
  · have followed' : last.Alike ((follow^[typed] pane).waiting after counted none) :=
      (alike.trans (underway.alike.waiting after counted none)).trans
        ((pane.alike_follow_iterate typed).symm.waiting after counted none)
    rw [followed, Function.iterate_succ_apply']
    exact view_follow followed' (view.trans underway.view)

theorem digit (ready : pane.Ready) (counts : ∀ waits ∈ pending, ∃ op, waits = .operator op) {value : Nat}
    (counting : key.countDigit? count.isSome = some value) :
    ∃ next, Handles middle [key] next ∧ Underway pane pending
      (some (Numeral.saturate (count.getD 0 * 10 + value))) recorded noted (typed + 1) next := by
  have takes := (underway.ready ready).toTakesCommands.record key
  have notes := (underway.record key).dropDigit
  obtain rfl := underway.isPending
  obtain rfl := underway.isCount
  have alike : ((middle.record key).pushDigit value).Alike
      (middle.waiting middle.pending (some (Numeral.saturate (middle.count.getD 0 * 10 + value))) none) :=
    ⟨by rw [← underway.isRegister]; rfl⟩
  exact underway.type ready (dispatchWith_count takes counts counting) alike rfl rfl (.inr rfl) notes

theorem digits (ready : pane.Ready) (counts : ∀ waits ∈ pending, ∃ op, waits = .operator op)
    (spelled : Digits count front total) :
    ∃ next more, Handles middle front next ∧ Underway pane pending total recorded noted (typed + more) next := by
  induction spelled generalizing middle typed with
  | nil count => exact ⟨middle, 0, .nil middle, underway⟩
  | cons counting rest ih =>
      obtain ⟨counted, handled, underway⟩ := underway.digit ready counts counting
      obtain ⟨next, more, handles, underway⟩ := ih underway
      rw [Nat.add_right_comm, Nat.add_assoc] at underway
      exact ⟨next, more + 1, handled.append handles, underway⟩

/-- An operator takes the count in front of it. -/
theorem operator (waits : pending = none) (ready : pane.Ready)
    (found : Keymap.findOrMotion? Keymap.normal key = some (.operator op)) :
    ∃ next, Handles middle [key] next ∧
      Underway pane (some (.operator ⟨op, count⟩)) none (key :: recorded) (mergeCounts noted count)
        (typed + 1) next := by
  subst waits
  have takes := (underway.ready ready).toTakesCommands.record key
  have digit := Keymap.countDigit?_of_findOrMotion? found nofun
  have notes := (underway.record key).noteCount count
  obtain rfl := underway.isCount
  have alike : ((middle.record key).runNormal (.operator op)).Alike
      (middle.waiting (some (.operator ⟨op, middle.count⟩)) none none) :=
    ⟨by rw [← underway.isRegister]; rfl⟩
  exact underway.type ready (dispatchWith_command takes underway.isPending (digit _) found nofun) alike rfl rfl
    (.inl rfl) notes

end Underway

/-- What an operator acts on: lines from the cursor on, or the way of a motion. -/
def operateOn (pane : Pane) (op : Operator) (target : Option Motion) (count : Option Nat) : Pane :=
  match target with
  | none => pane.operateOnLinesHere op (count.getD 1)
  | some motion => pane.operateByMotion ⟨op, none⟩ motion count

/-- Keys behind an operator that say what it acts on: the operator again for lines, or those of a motion that
cannot be taken for a count. -/
inductive Targets (op : Operator) : List Key → Option Motion → Prop where
  | lines {key : Key} (doubled : key.typed? = some op.key) : Targets op [key] none
  | motion {keys : List Key} {motion : Motion} (aims : Aims keys (.motion motion))
      (nonzero : ∀ key ∈ keys.head?, key.typed? ≠ some '0') : Targets op keys (some motion)

/-- The last key of a command has been typed, and only what it does to the target is still to be done. -/
structure Complete (pane base : Pane) (recorded : List Key) (noted : Option Nat) (last : Pane) : Prop where
  alike : last.Alike base
  notes : Notes pane.recorder recorded noted last.recorder
  view : ∃ typed, last.view = (follow^[typed + 1] pane).view

theorem Underway.hands {waits : Pending} (underway : Underway pane (some waits) count recorded noted typed middle)
    (ready : pane.Ready) (key : Key) (again : Option Nat → Pane → Option Pane) :
    dispatchWith again key (middle.record key) = some ((middle.record key).handlePending waits key) :=
  dispatchWith_awaited ((underway.ready ready).toTakesCommands.record key) underway.isPending again key

/-- The operator again is neither a digit nor a motion. -/
theorem handlePending_operator_doubled {pending : PendingOperator} (doubled : key.typed? = some pending.op.key) :
    pane.handlePending (.operator pending) key =
      ({ pane with pending := none } : Pane).takeCount.2.operateOnLinesHere pending.op
        ((mergeCounts pending.count pane.count).getD 1) := by
  have digit : key.countDigit? pane.count.isSome = none := by
    unfold Key.countDigit?
    rw [doubled]
    cases pending.op <;> cases pane.count <;> rfl
  rw [handlePending_of_typed doubled, completePending, handleOperatorKey, acceptDigit?]
  rw [show ({ pane with pending := none } : Pane).count = pane.count from rfl, digit, doubled]
  dsimp only [Option.map_none]
  rw [if_pos rfl]
  rfl

/-- The second key of a motion that starts with `g`. -/
theorem handlePending_afterG {motion : Motion} (found : Keymap.find? Keymap.afterG key = some (.motion motion))
    (op : Option PendingOperator) (count : Option Nat) :
    pane.handlePending (.g op count) key = ({ pane with pending := none } : Pane).moveOrOperate op motion count := by
  have entries : ∀ entry ∈ Keymap.afterG, entry.1.typed?.isSome = true := by decide
  have types := entries _ (Keymap.mem_of_find? found)
  rw [Keymap.typed?_foldShift] at types
  obtain ⟨c, types⟩ := Option.isSome_iff_exists.1 types
  rw [handlePending_of_typed types, completePending, found]

/-- The first of two keys of a target leaves the product of the counts with the operator. -/
theorem Underway.open (underway : Underway pane (some (.operator ⟨op, first⟩)) second recorded noted typed middle)
    (ready : pane.Ready) (nonzero : key.typed? ≠ some '0') {command : Command}
    (found : Keymap.find? Keymap.motions key = some command) (waits : Pending)
    (opens : ∀ pane : Pane, pane.count = second →
      pane.operateBy ⟨op, first⟩ command = pane.takeCount.2.await waits) :
    ∃ next, Handles middle [key] next ∧
      Underway pane (some waits) none (key :: recorded) (mergeCounts noted second) (typed + 1) next := by
  have handed := underway.hands ready key
  have notes := (underway.record key).noteCount second
  obtain rfl := underway.isCount
  rw [handlePending_operator_of_table found nonzero, opens { middle.record key with pending := none } rfl]
    at handed
  have alike : (({ middle.record key with pending := none } : Pane).takeCount.2.await waits).Alike
      (middle.waiting (some waits) none none) := ⟨by rw [← underway.isRegister]; rfl⟩
  exact underway.type ready handed alike rfl rfl (.inl rfl) notes

/-- A target of a single key takes the count behind the operator and gets the product of both. -/
theorem Underway.completes
    (underway : Underway pane (some (.operator ⟨op, first⟩)) second recorded noted (typed + 1) middle)
    (ready : pane.Ready)
    (operates : ∀ pane : Pane, pane.handlePending (.operator ⟨op, first⟩) key =
      ({ pane with pending := none } : Pane).takeCount.2.operateOn op target (mergeCounts first pane.count)) :
    ∃ last, Handles middle [key] (last.operateOn op target (mergeCounts first second)).settle ∧
      Complete pane (pane.waiting none none none) (key :: recorded) (mergeCounts noted second) last := by
  have handed := underway.hands ready key
  have notes := (underway.record key).noteCount second
  obtain rfl := underway.isCount
  rw [operates] at handed
  have stripped := underway.stripped ((middle.record key).recorder.noteCount middle.count)
  exact ⟨_, .one handed, stripped.dropCount, notes, typed, underway.view⟩

/-- The keys of a target take the count behind the operator and hand the product of both to it. -/
theorem Targets.completes (targets : Targets op keys target) (ready : pane.Ready) :
    ∃ base, (base.isIdle = true ∧ base.buffer = pane.buffer ∧ base.cursor = pane.cursor) ∧
      ∀ {first second noted recorded typed middle},
        Underway pane (some (.operator ⟨op, first⟩)) second recorded noted (typed + 1) middle →
          ∃ last, Handles middle keys (last.operateOn op target (mergeCounts first second)).settle ∧
            Complete pane base (keys.reverse ++ recorded) (mergeCounts noted second) last := by
  have idle : ∀ lastFind, Pane.isIdle { pane.waiting none none none with lastFind := lastFind } = true :=
    fun _ => isIdle_iff.2 ⟨ready.mode, rfl, rfl, rfl, ready.prompt⟩
  cases targets with
  | lines doubled =>
      exact ⟨_, ⟨idle _, rfl, rfl⟩, fun underway =>
        underway.completes ready fun _ => handlePending_operator_doubled doubled⟩
  | motion aims nonzero =>
      cases aims with
      | @motion key motion found =>
          refine ⟨_, ⟨idle _, rfl, rfl⟩, fun underway => underway.completes ready fun pane => ?_⟩
          rw [handlePending_operator_of_table found (nonzero key rfl)]
          exact operateByMotion_merged _ _ _ _
      | @afterG opener key motion starts found =>
          refine ⟨pane.waiting none none none, ⟨idle _, rfl, rfl⟩,
            fun {first second noted recorded typed middle} underway => ?_⟩
          obtain ⟨opened, front, underway⟩ := underway.open ready (nonzero opener rfl) starts
            (.g (some ⟨op, none⟩) (mergeCounts first second)) fun _ counted => counted ▸ rfl
          have handed := underway.hands ready key
          rw [handlePending_afterG found] at handed
          exact ⟨{ opened.record key with pending := none }, front.append (.one handed), underway.stripped _,
            underway.record key, typed + 1, underway.view⟩
      | @find opener key find c starts types =>
          refine ⟨{ pane.waiting none none none with lastFind := some (find, c) }, ⟨idle _, rfl, rfl⟩,
            fun {first second noted recorded typed middle} underway => ?_⟩
          obtain ⟨opened, front, underway⟩ := underway.open ready (nonzero opener rfl) starts
            (.find find (some ⟨op, none⟩) (mergeCounts first second)) fun _ counted => counted ▸ rfl
          have handed := underway.hands ready key
          rw [handlePending_of_typed types, completePending, types] at handed
          have stripped := underway.stripped (opened.record key).recorder
          exact ⟨{ opened.record key with pending := none, lastFind := some (find, c) },
            front.append (.one handed),
            stripped.through (fun pane => { pane with lastFind := some (find, c) }) fun _ => ⟨rfl⟩,
            underway.record key, typed + 1, underway.view⟩

/-- With the same rows on the screen, every motion leads to the same place. -/
theorem Alike.resolve_of_view (alike : a.Alike b) {motion : Motion}
    (shown : motion.isOnScreen = false ∨ a.view = b.view) (count : Option Nat) (operator changeWord : Bool) :
    Leads (a.resolve motion count operator changeWord) (b.resolve motion count operator changeWord) := by
  cases onScreen : motion.isOnScreen with
  | false => exact alike.resolve onScreen count operator changeWord
  | true =>
      have view : a.view = b.view := shown.resolve_left (by rw [onScreen]; decide)
      have reads : ∀ pane : Pane, (Pane.resolve { pane with view := b.view } motion count operator changeWord).1 =
          (Pane.resolve { pane.core with view := b.view } motion count operator changeWord).1 := by
        intro pane
        cases motion <;> first | contradiction | rfl
      have still : ∀ pane : Pane, (pane.resolve motion count operator changeWord).2 = pane := by
        intro pane
        cases motion <;> first | contradiction | rfl
      have same := alike.same
        (fun pane => (Pane.resolve { pane with view := b.view } motion count operator changeWord).1) reads
      rw [← view] at same
      refine ⟨?_, ?_⟩
      · have there : ({ b with view := a.view } : Pane) = b := by rw [view]
        rw [there] at same
        exact same
      · rw [still, still]
        exact alike

/-- The same of what a command is for: the text, the cursor, the mode, the registers and the last change. -/
structure Agrees (a b : Pane) : Prop where
  text : a.buffer.text = b.buffer.text
  cursor : a.cursor = b.cursor
  mode : a.mode = b.mode
  registers : a.registers = b.registers
  last : a.recorder.last = b.recorder.last

theorem Complete.agrees (one : Complete pane base recorded noted a) (other : Complete pane base recorded noted b)
    (rests : (∀ motion ∈ target, motion.isOnScreen = false) ∨ pane.follow.follow = pane.follow)
    (op : Operator) (count : Option Nat) :
    (a.operateOn op target count).settle.Agrees (b.operateOn op target count).settle := by
  have alike : a.Alike b := one.alike.trans other.alike.symm
  have shown : ∀ motion ∈ target, motion.isOnScreen = false ∨ a.view = b.view := by
    intro motion mem
    rcases rests with others | rests
    · exact .inl (others motion mem)
    · have stays : ∀ typed, (follow^[typed + 1] pane) = pane.follow := Function.iterate_fixed rests
      obtain ⟨typed, here⟩ := one.view
      obtain ⟨typed', there⟩ := other.view
      rw [here, there, stays, stays]
      exact .inr rfl
  obtain ⟨same, marks, here, there⟩ : (a.operateOn op target count).Alike (b.operateOn op target count) ∧
      ∃ marks, (a.operateOn op target count).recorder = a.recorder.marked marks ∧
        (b.operateOn op target count).recorder = b.recorder.marked marks := by
    cases target with
    | none => exact ⟨alike.operateOnLinesHere op _, alike.recorders_operateOnLinesHere op _⟩
    | some motion =>
        have leads := alike.resolve_of_view (by
          rw [a.motionFor_isOnScreen op motion]
          exact shown motion rfl) (mergeCounts none count) true (a.motionFor op motion).2
        exact ⟨alike.operateByMotion_of_leads ⟨op, none⟩ leads, alike.recorders_operateByMotion ⟨op, none⟩ leads⟩
  have settled := (Alike.settle (a.operateOn op target count)).trans
    (same.trans (Alike.settle (b.operateOn op target count)).symm)
  refine ⟨settled.same (·.buffer.text) fun _ => rfl, settled.same (·.cursor) fun _ => rfl,
    settled.same (·.mode) fun _ => rfl, settled.same (·.registers) fun _ => rfl, ?_⟩
  rw [(settle_finishes _).1, (settle_finishes _).1, here, there, same.same (·.isIdle) fun _ => rfl]
  split
  · rw [one.notes.last_finish, other.notes.last_finish]
  · rw [one.notes.last_marked, other.notes.last_marked]

/-- Counts that were typed are as large as they can be at most. -/
theorem Digits.le_largest (spelled : Digits count keys (some number)) (small : ∀ n ∈ count, n ≤ Numeral.largest) :
    number ≤ Numeral.largest := by
  generalize here : some number = total at spelled
  induction spelled with
  | nil count => exact small number (here ▸ rfl)
  | cons counting rest ih => exact ih (fun n mem => Option.some.inj mem ▸ Numeral.saturate_le _) here

/-- Of the counts in front of an operator and behind it, its target gets the product. -/
theorem Targets.handles (targets : Targets op keys target) (ready : pane.Ready)
    (start : Underway pane none none [] none 0 pane)
    (found : Keymap.findOrMotion? Keymap.normal opener = some (.operator op)) :
    ∃ base, (base.isIdle = true ∧ base.buffer = pane.buffer ∧ base.cursor = pane.cursor) ∧
      ∀ {front behind first second}, Digits none front first → Digits none behind second →
        ∃ last, Handles pane (front ++ opener :: (behind ++ keys))
            (last.operateOn op target (mergeCounts first second)).settle ∧
          Complete pane base (keys.reverse ++ [opener]) (mergeCounts first second) last := by
  obtain ⟨base, rests, completes⟩ := targets.completes ready
  refine ⟨base, rests, fun {front behind first second} before after => ?_⟩
  obtain ⟨counted, some, handled, underway⟩ := start.digits ready nofun before
  obtain ⟨operated, operates, underway⟩ := underway.operator rfl ready found
  obtain ⟨merged, more, merges, underway⟩ := underway.digits ready
    (fun waits mem => ⟨_, (Option.some.inj mem).symm⟩) after
  rw [none_mergeCounts, Nat.zero_add, Nat.add_right_comm] at underway
  obtain ⟨last, handles, complete⟩ := completes underway
  refine ⟨last, ?_, complete⟩
  exact handled.append (operates.append (merges.append handles))

/-- Counts in front of an operator and behind it do what their product does in either place, unless the way goes
to a row of the screen and the view is still on its way when it has followed the cursor. -/
theorem Reached.counts_multiply (reached : Reached pane) (idle : pane.isIdle = true)
    (found : Keymap.findOrMotion? Keymap.normal opener = some (.operator op)) (targets : Targets op keys target)
    (rests : (∀ motion ∈ target, motion.isOnScreen = false) ∨ pane.follow.follow = pane.follow)
    {m n : Nat} {digits : List Key} (before : Digits none front (some m)) (after : Digits none behind (some n))
    (product : Digits none digits (some (m * n))) :
    ∃ split inFront further,
      Handles pane (front ++ opener :: (behind ++ keys)) split ∧
        Handles pane (digits ++ opener :: keys) inFront ∧
          Handles pane (opener :: (digits ++ keys)) further ∧
            split.Agrees inFront ∧ split.Agrees further := by
  have start := Underway.start idle (reached.recording idle)
  obtain ⟨base, -, handles⟩ := targets.handles (reached.ready idle) start found
  have total : mergeCounts (some m) (some n) = some (m * n) :=
    congrArg some (Nat.min_eq_left (product.le_largest nofun))
  obtain ⟨a, split, halves⟩ := handles before after
  obtain ⟨b, inFront, whole⟩ := handles product (.nil none)
  obtain ⟨c, further, other⟩ := handles (.nil none) product
  rw [total] at split halves
  rw [mergeCounts_none] at inFront whole
  rw [none_mergeCounts] at further other
  exact ⟨_, _, _, split, inFront, further, halves.agrees whole rests op _, halves.agrees other rests op _⟩

theorem targets_screenTop (op : Operator) : Targets op [.char 'H'] (some .screenTop) := by
  refine .motion (.motion rfl) fun key mem => ?_
  obtain rfl := Option.some.inj mem
  decide

/-- Down to the second row of the screen. -/
theorem counts_multiply_on_screen :
    let pane := typedInto "a\nb\nc\nd\ne".toList [.char 'j', .char 'j', .char 'j']
    pane.isIdle = true ∧ pane.follow.follow = pane.follow ∧
      ∃ split inFront further,
        Handles pane [.char '1', .char 'd', .char '2', .char 'H'] split ∧
          Handles pane [.char '2', .char 'd', .char 'H'] inFront ∧
            Handles pane [.char 'd', .char '2', .char 'H'] further ∧
              split.Agrees inFront ∧ split.Agrees further ∧ split.buffer.text = "a\ne".toList := by
  intro pane
  have idle : pane.isIdle = true := by decide +kernel
  have rests : pane.follow.follow = pane.follow := by decide +kernel
  have one : Digits none [.char '1'] (some 1) := .cons (show _ = some 1 by decide) (.nil _)
  have two : Digits none [.char '2'] (some 2) := .cons (show _ = some 2 by decide) (.nil _)
  have found : Keymap.findOrMotion? Keymap.normal (.char 'd') = some (.operator .delete) := rfl
  obtain ⟨split, inFront, further, first, second, third, same, other⟩ :=
    Reached.counts_multiply (reached_typedInto _ _) idle found (targets_screenTop .delete) (.inr rests) one two two
  have text : (pane.handleKeys [.char '1', .char 'd', .char '2', .char 'H']).buffer.text = "a\ne".toList := by
    decide +kernel
  have here : pane.handleKeys [.char '1', .char 'd', .char '2', .char 'H'] = split := first.handleKeys
  rw [here] at text
  exact ⟨idle, rests, split, inFront, further, first, second, third, same, other, text⟩

/-- A view that goes up and down between two places has another first row when one more digit was typed. -/
theorem counts_not_multiplied :
    let pane := showing (.ofText ("a\nb\n".toList ++ List.replicate 50 'x')) { scrollOff := 2 } 10 6
    Reached pane ∧ pane.isIdle = true ∧
      Digits none [.char '1'] (some 1) ∧ Targets .delete [.char 'H'] (some .screenTop) ∧
        (pane.handleKeys [.char '1', .char 'd', .char '1', .char 'H']).buffer.text = [] ∧
          (pane.handleKeys [.char '1', .char 'd', .char 'H']).buffer.text =
            "b\n".toList ++ List.replicate 50 'x' := by
  intro pane
  have one : Digits none [.char '1'] (some 1) := .cons (show _ = some 1 by decide) (.nil _)
  exact ⟨.start _ _ _ _, by decide +kernel, one, targets_screenTop _, by decide +kernel, by decide +kernel⟩

end Pane

end ModalPanes
