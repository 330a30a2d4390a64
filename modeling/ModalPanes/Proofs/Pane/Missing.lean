import ModalPanes.Proofs.Pane.Roaming

/-!
# Operators that come to nothing

An operator is given up where its motion, its find or its text object is not there, and by any key that means
nothing to it.  Nothing is lost by that: text, cursor, registers and history stay as they were.
-/

namespace ModalPanes

/-- What an operator acts on. -/
inductive Aim where
  | motion (motion : Motion)
  | object (object : TextObject)

namespace Pane

/-- Keys behind an operator that say what it acts on: the key of a motion, or two for one that starts with
`g`, for a find or for a text object. -/
inductive Aims : List Key → Aim → Prop where
  | motion {key : Key} {motion : Motion}
      (found : Keymap.find? Keymap.motions key = some (.motion motion)) : Aims [key] (.motion motion)
  | afterG {first key : Key} {motion : Motion} (starts : Keymap.find? Keymap.motions first = some .awaitG)
      (found : Keymap.find? Keymap.afterG key = some (.motion motion)) :
      Aims [first, key] (.motion motion)
  | find {first key : Key} {find : Find} {c : Char}
      (starts : Keymap.find? Keymap.motions first = some (.awaitFind find))
      (types : key.typed? = some c) : Aims [first, key] (.motion (.find find c))
  | object {first key : Key} {c : Char} {kind : ObjectKind} (starts : first.typed? = some c)
      (inner : c = 'i' ∨ c = 'a') (named : key.typed?.bind ObjectKind.ofKey? = some kind) :
      Aims [first, key] (.object ⟨kind, c == 'a'⟩)

variable {pane next : Pane} {op : Operator} {aim : Aim} {count : Option Nat} {key : Key}
  {keys : List Key} {pending : Pending} {first second : Option Nat}

/-- Whether what an operator is to act on is there. -/
def reaches (pane : Pane) (op : Operator) (count : Option Nat) : Aim → Bool
  | .motion motion =>
      let chosen := pane.motionFor op motion
      (pane.resolve chosen.1 count true chosen.2).1.isSome
  | .object object => (object.span? pane.buffer pane.cursor.pos).isSome

/-- Only a part of a command has been typed since. -/
structure HalfTyped (pane next : Pane) : Prop where
  same : next =
    { pane with
      pending := next.pending
      count := next.count
      register := next.register
      recorder := next.recorder }

namespace HalfTyped

theorem untouched (half : pane.HalfTyped next) : pane.Untouched next := by
  rw [half.same]
  exact ⟨rfl⟩

theorem pos (half : pane.HalfTyped next) : next.cursor.pos = pane.cursor.pos := by rw [half.same]

theorem type (half : pane.HalfTyped next) (pending : Option Pending) (count : Option Nat)
    (register : Option Char) (recorder : Recorder) :
    pane.HalfTyped
      { next with pending := pending, count := count, register := register, recorder := recorder } := by
  constructor
  rw [half.same]

theorem takes (half : pane.HalfTyped next) (takes : pane.TakesCommands) : next.TakesCommands :=
  takes.of_untouched half.untouched

/-- A half-typed command does not matter to where a motion leads. -/
theorem resolve_fst (half : pane.HalfTyped next) (motion : Motion) (count : Option Nat)
    (operator changeWord : Bool) :
    (next.resolve motion count operator changeWord).1 = (pane.resolve motion count operator changeWord).1 := by
  rw [half.same]
  cases motion with
  | search motion =>
      unfold resolve resolveSearch
      cases motion with
      | next => rw [searchAgain_fst, searchAgain_fst]; rfl
      | previous => rw [searchAgain_fst, searchAgain_fst]; rfl
      | wordForward => rw [searchWord_fst, searchWord_fst]; rfl
      | wordBackward => rw [searchWord_fst, searchWord_fst]; rfl
  | _ => rfl

theorem reaches (half : pane.HalfTyped next) (op : Operator) (count : Option Nat) (aim : Aim) :
    next.reaches op count aim = pane.reaches op count aim := by
  have buffer : next.buffer = pane.buffer := by rw [half.same]
  have cursor : next.cursor = pane.cursor := by rw [half.same]
  cases aim with
  | motion motion =>
      have chosen : next.motionFor op motion = pane.motionFor op motion := by
        unfold motionFor
        rw [buffer, cursor]
      unfold Pane.reaches
      dsimp only
      rw [chosen, half.resolve_fst]
  | object object =>
      unfold Pane.reaches
      rw [buffer, cursor]

end HalfTyped

/-- Nothing has changed, nothing waits, and the cursor has not moved. -/
structure GivesUp (pane next : Pane) : Prop extends Untouched pane next where
  rests : next.pending = none
  pos : next.cursor.pos = pane.cursor.pos

theorem ne_lineStart {motion : Motion} (fails : pane.reaches op count (.motion motion) = false) :
    Command.motion motion ≠ .motion .lineStart := by
  rintro ⟨⟩
  contradiction

theorem operateByMotion_gives_up (pending : PendingOperator) {motion : Motion}
    (fails : pane.reaches pending.op (mergeCounts pending.count count) (.motion motion) = false) :
    pane.GivesUp (pane.operateByMotion pending motion count) := by
  have idles := pane.resolve_idles (pane.motionFor pending.op motion).1
    (mergeCounts pending.count count) true (pane.motionFor pending.op motion).2
  unfold reaches at fails
  unfold operateByMotion
  dsimp only at fails ⊢
  split
  · rename_i other resolved
    rw [resolved] at idles
    exact ⟨.trans (.of_bare idles.bare) ⟨rfl⟩, rfl, idles.pos⟩
  · rename_i target other resolved
    rw [resolved] at fails
    contradiction

/-- What an operator that waits does with the command of a key for a motion. -/
def operateBy (pane : Pane) (pending : PendingOperator) : Command → Pane
  | .motion motion => pane.withCount fun pane count => pane.operateByMotion pending motion count
  | .awaitFind find => pane.withCount fun pane count =>
      pane.await (.find find (some ⟨pending.op, none⟩) (mergeCounts pending.count count))
  | .awaitG => pane.withCount fun pane count =>
      pane.await (.g (some ⟨pending.op, none⟩) (mergeCounts pending.count count))
  | _ => pane.cancelCommand

/-- The keys of motions, but for the zero, are neither digits nor anything else that an operator takes. -/
theorem handlePending_operator_of_table {command : Command}
    (found : Keymap.find? Keymap.motions key = some command) (nonzero : key.typed? ≠ some '0')
    (pending : PendingOperator) :
    pane.handlePending (.operator pending) key = operateBy { pane with pending := none } pending command := by
  have entries : ∀ counting, ∀ entry ∈ Keymap.motions, entry.1.typed? ≠ some '0' →
      entry.1.code ≠ .escape ∧ entry.1 ≠ .ctrl 'c' ∧ entry.1.countDigit? counting = none ∧
        entry.1.typed?.all (fun c => c ∉ ['d', 'c', 'y', 'i', 'a', '/', '?']) = true := by
    decide +kernel
  obtain ⟨escape, control, digit, other⟩ :=
    entries pane.count.isSome _ (Keymap.mem_of_find? found) (by rwa [Keymap.typed?_foldShift])
  rw [Keymap.countDigit?_foldShift] at digit
  rw [Keymap.typed?_foldShift] at other
  have byTable : handleOperatorKey { pane with pending := none } pending key =
      operateBy { pane with pending := none } pending command := by
    unfold handleOperatorKey acceptDigit?
    rw [show ({ pane with pending := none } : Pane).count = pane.count from rfl, digit, found]
    dsimp only [Option.map_none]
    cases types : key.typed? with
    | none => cases command <;> rfl
    | some c =>
        rw [types, Option.all_some, decide_eq_true_eq] at other
        have operator : c ≠ pending.op.key := by
          rintro rfl
          revert other
          cases pending.op <;> decide
        have object : ¬ (c = 'i' ∨ c = 'a') := by
          rintro (rfl | rfl) <;> exact other (by decide)
        have forward : c ≠ '/' := by
          rintro rfl
          exact other (by decide)
        have backward : c ≠ '?' := by
          rintro rfl
          exact other (by decide)
        dsimp only
        rw [if_neg operator, if_neg object, if_neg forward, if_neg backward]
        cases command <;> rfl
  unfold handlePending
  rw [if_neg]
  · exact byTable
  · rintro (code | isControl)
    · exact escape ((Keymap.code_foldShift key).trans code)
    · obtain rfl : key = .ctrl 'c' := by simpa [Key.isCtrl] using isControl
      exact control rfl

theorem handlePending_operator_of_motions {command : Command}
    (found : Keymap.find? Keymap.motions key = some command) (nonzero : command ≠ .motion .lineStart)
    (pending : PendingOperator) :
    pane.handlePending (.operator pending) key = operateBy { pane with pending := none } pending command := by
  have entries : ∀ entry ∈ Keymap.motions, entry.1.typed? = some '0' → entry.2 = .motion .lineStart := by
    decide +kernel
  refine handlePending_operator_of_table found (fun zero => nonzero ?_) pending
  exact entries _ (Keymap.mem_of_find? found) (by rwa [Keymap.typed?_foldShift])

/-- Behind an operator, text objects are said to be without what is around them or with it. -/
theorem handlePending_operator_of_object {c : Char} (starts : key.typed? = some c)
    (inner : c = 'i' ∨ c = 'a') (pending : PendingOperator) :
    pane.handlePending (.operator pending) key = pane.await (.object (some pending) (c == 'a')) := by
  have digit : ∀ counting, key.countDigit? counting = none := by
    intro counting
    unfold Key.countDigit?
    rw [starts]
    rcases inner with rfl | rfl <;> rfl
  have operator : c ≠ pending.op.key := by
    rcases inner with rfl | rfl <;> cases pending.op <;> decide
  rw [handlePending_of_typed starts]
  unfold completePending handleOperatorKey acceptDigit?
  rw [digit, starts]
  dsimp only [Option.map_none]
  rw [if_neg operator, if_pos inner]
  rfl

theorem GivesUp.of_halfTyped {middle : Pane} (half : pane.HalfTyped middle) (gives : middle.GivesUp next) :
    pane.GivesUp next :=
  ⟨half.untouched.trans gives.toUntouched, gives.rests, gives.pos.trans half.pos⟩

theorem cancelCommand_gives_up (pane : Pane) : pane.GivesUp { pane with pending := none }.cancelCommand :=
  ⟨⟨rfl⟩, rfl, rfl⟩

/-- Where a key gives up what waits for it, so does Escape. -/
theorem handlePending_gives_up
    (completes : pane.GivesUp (completePending { pane with pending := none } pending key)) :
    pane.GivesUp (pane.handlePending pending key) := by
  unfold handlePending
  split
  · exact pane.cancelCommand_gives_up
  · exact completes

/-- The count of a motion may be in front of its operator or behind it. -/
theorem HalfTyped.operateByMotion_gives_up (half : pane.HalfTyped next) {motion : Motion}
    {first second : Option Nat} (total : mergeCounts first second = count)
    (fails : pane.reaches op count (.motion motion) = false) :
    pane.GivesUp (next.operateByMotion ⟨op, first⟩ motion second) := by
  refine .of_halfTyped half (Pane.operateByMotion_gives_up _ ?_)
  rw [half.reaches]
  exact total ▸ fails

/-- The first of two keys that say what an operator acts on, with what waits for the second one, and the
count that is still to be taken. -/
inductive Opens (op : Operator) (first second : Option Nat) : Key → Pending → Option Nat → Prop where
  | g {key : Key} (found : Keymap.find? Keymap.motions key = some .awaitG) :
      Opens op first second key (.g (some ⟨op, none⟩) (mergeCounts first second)) none
  | find {key : Key} {find : Find} (found : Keymap.find? Keymap.motions key = some (.awaitFind find)) :
      Opens op first second key (.find find (some ⟨op, none⟩) (mergeCounts first second)) none
  | object {key : Key} {c : Char} (types : key.typed? = some c) (inner : c = 'i' ∨ c = 'a') :
      Opens op first second key (.object (some ⟨op, first⟩) (c == 'a')) second

/-- A key that an operator is given up for: what it names is not there, or it names nothing. -/
inductive Loses (pane : Pane) (op : Operator) : Pending → Option Nat → Key → Prop where
  | escape {pending : Pending} {count : Option Nat} {key : Key}
      (escapes : key.code = .escape ∨ key.isCtrl 'c' = true) : Loses pane op pending count key
  | motion {first second : Option Nat} {key : Key} {motion : Motion}
      (found : Keymap.find? Keymap.motions key = some (.motion motion))
      (fails : pane.reaches op (mergeCounts first second) (.motion motion) = false) :
      Loses pane op (.operator ⟨op, first⟩) second key
  | noMotion {first second : Option Nat} {key : Key} (digit : key.countDigit? second.isSome = none)
      (other : ∀ c ∈ key.typed?, c ≠ op.key ∧ c ∉ ['i', 'a', '/', '?'])
      (unbound : Keymap.find? Keymap.motions key = none) :
      Loses pane op (.operator ⟨op, first⟩) second key
  | afterG {count : Option Nat} {key : Key} {motion : Motion}
      (found : Keymap.find? Keymap.afterG key = some (.motion motion))
      (fails : pane.reaches op count (.motion motion) = false) :
      Loses pane op (.g (some ⟨op, none⟩) count) none key
  | notAfterG {count : Option Nat} {key : Key}
      (unbound : ∀ motion, Keymap.find? Keymap.afterG key ≠ some (.motion motion)) :
      Loses pane op (.g (some ⟨op, none⟩) count) none key
  | find {find : Find} {count : Option Nat} {key : Key} {c : Char} (types : key.typed? = some c)
      (fails : pane.reaches op count (.motion (.find find c)) = false) :
      Loses pane op (.find find (some ⟨op, none⟩) count) none key
  | noCharacter {find : Find} {count : Option Nat} {key : Key} (untyped : key.typed? = none) :
      Loses pane op (.find find (some ⟨op, none⟩) count) none key
  | object {first second : Option Nat} {around : Bool} {key : Key} {kind : ObjectKind}
      (named : key.typed?.bind ObjectKind.ofKey? = some kind)
      (fails : pane.reaches op (mergeCounts first second) (.object ⟨kind, around⟩) = false) :
      Loses pane op (.object (some ⟨op, first⟩) around) second key
  | noObject {first second : Option Nat} {around : Bool} {key : Key}
      (unnamed : key.typed?.bind ObjectKind.ofKey? = none) :
      Loses pane op (.object (some ⟨op, first⟩) around) second key

/-- Keys behind an operator and its counts that come to nothing. -/
inductive Misses (pane : Pane) (op : Operator) (first second : Option Nat) : List Key → Prop where
  | one {key : Key} (loses : pane.Loses op (.operator ⟨op, first⟩) second key) :
      Misses pane op first second [key]
  | two {opener key : Key} {pending : Pending} {count : Option Nat}
      (opens : Opens op first second opener pending count) (loses : pane.Loses op pending count key) :
      Misses pane op first second [opener, key]

/-- Keys without meaning are no digits behind an operator. -/
theorem handlePending_operator_of_unbound {pending : PendingOperator}
    (digit : key.countDigit? pane.count.isSome = none)
    (other : ∀ c ∈ key.typed?, c ≠ pending.op.key ∧ c ∉ ['i', 'a', '/', '?'])
    (unbound : Keymap.find? Keymap.motions key = none) :
    pane.handlePending (.operator pending) key = { pane with pending := none }.cancelCommand := by
  have byTable : handleOperatorKey { pane with pending := none } pending key =
      { pane with pending := none }.cancelCommand := by
    unfold handleOperatorKey acceptDigit?
    rw [show ({ pane with pending := none } : Pane).count = pane.count from rfl, digit, unbound]
    dsimp only [Option.map_none]
    cases types : key.typed? with
    | none => rfl
    | some c =>
        obtain ⟨operator, others⟩ := other c types
        simp only [List.mem_cons, List.not_mem_nil, or_false, not_or] at others
        obtain ⟨inner, around, forward, backward⟩ := others
        dsimp only
        rw [if_neg operator, if_neg (not_or.2 ⟨inner, around⟩), if_neg forward, if_neg backward]
  unfold handlePending
  split
  · rfl
  · exact byTable

theorem Loses.gives_up (loses : pane.Loses op pending count key) (counted : pane.count = count) :
    pane.GivesUp (pane.handlePending pending key) := by
  have half : pane.HalfTyped pane := ⟨rfl⟩
  have cancelled := pane.cancelCommand_gives_up
  cases loses with
  | escape escapes =>
      unfold handlePending
      rw [if_pos escapes]
      exact cancelled
  | motion found fails =>
      subst counted
      rw [handlePending_operator_of_motions found (ne_lineStart fails)]
      have taken := half.type none none pane.register (pane.recorder.noteCount pane.count)
      exact taken.operateByMotion_gives_up rfl fails
  | noMotion digit other unbound =>
      subst counted
      rw [handlePending_operator_of_unbound digit other unbound]
      exact cancelled
  | afterG found fails =>
      refine handlePending_gives_up ?_
      unfold completePending
      rw [found]
      exact (half.type none _ _ _).operateByMotion_gives_up (none_mergeCounts _) fails
  | notAfterG unbound =>
      refine handlePending_gives_up ?_
      unfold completePending
      dsimp only
      split
      · rename_i motion found
        exact absurd found (unbound motion)
      · exact cancelled
  | @find find count key c types fails =>
      refine handlePending_gives_up ?_
      let remembered : Pane := { pane with pending := none, lastFind := some (find, c) }
      have untouched : pane.Untouched remembered := ⟨rfl⟩
      have found : remembered.reaches op (mergeCounts none count) (.motion (.find find c)) = false := by
        rw [none_mergeCounts, ← fails]
        rfl
      have gives := Pane.operateByMotion_gives_up ⟨op, none⟩ found
      unfold completePending
      rw [types]
      exact ⟨untouched.trans gives.toUntouched, gives.rests, gives.pos⟩
  | noCharacter untyped =>
      refine handlePending_gives_up ?_
      unfold completePending
      rw [untyped]
      exact cancelled
  | object named fails =>
      refine handlePending_gives_up ?_
      rw [reaches, Option.isSome_eq_false_iff, Option.isNone_iff_eq_none] at fails
      unfold completePending
      rw [named]
      dsimp only [selectOrOperate]
      rw [fails]
      exact cancelled
  | noObject unnamed =>
      refine handlePending_gives_up ?_
      unfold completePending
      rw [unnamed]
      exact cancelled

theorem Opens.handlePending (opens : Opens op first second key pending count) (counted : pane.count = second) :
    ∃ recorder, pane.handlePending (.operator ⟨op, first⟩) key =
      { pane with pending := some pending, count := count, recorder := recorder } := by
  subst counted
  cases opens with
  | g found =>
      rw [handlePending_operator_of_motions found nofun]
      exact ⟨_, rfl⟩
  | find found =>
      rw [handlePending_operator_of_motions found nofun]
      exact ⟨_, rfl⟩
  | object types inner =>
      rw [handlePending_operator_of_object types inner]
      exact ⟨_, rfl⟩

/-- Keys that lead nowhere do so wherever the same is there. -/
theorem Loses.of_reaches (loses : pane.Loses op pending count key)
    (same : ∀ total aim, next.reaches op total aim = pane.reaches op total aim) :
    next.Loses op pending count key := by
  cases loses with
  | escape escapes => exact .escape escapes
  | motion found fails => exact .motion found ((same _ _).trans fails)
  | noMotion digit other unbound => exact .noMotion digit other unbound
  | afterG found fails => exact .afterG found ((same _ _).trans fails)
  | notAfterG unbound => exact .notAfterG unbound
  | find types fails => exact .find types ((same _ _).trans fails)
  | noCharacter untyped => exact .noCharacter untyped
  | object named fails => exact .object named ((same _ _).trans fails)
  | noObject unnamed => exact .noObject unnamed

theorem Aims.misses (aims : Aims keys aim) (fails : pane.reaches op (mergeCounts first second) aim = false) :
    pane.Misses op first second keys := by
  cases aims with
  | motion found => exact .one (.motion found fails)
  | afterG starts found => exact .two (.g starts) (.afterG found fails)
  | find starts types => exact .two (.find starts) (.find types fails)
  | object starts inner named => exact .two (.object starts inner) (.object named fails)

end Pane

end ModalPanes
