import ModalPanes.Pane.Keys

/-!
# What of a command has been typed

A count, a register, a key that waits for another one and an open prompt are what a pane has of a command
that is not complete.  Edits, motions and everything else that commands are made of leave all four alone,
but for the few that are about them: an operator takes the register away, and so does putting one.
-/

namespace ModalPanes

/-- What of a command has been typed. -/
structure Prefixes where
  pending : Option Pending
  count : Option Nat
  register : Option Char
  prompt : Option PromptState

/-- The register is taken. -/
def Prefixes.unnamed (prefixes : Prefixes) : Prefixes := { prefixes with register := none }

namespace Pane

/-- What of a command has been typed into a pane. -/
def prefixes (pane : Pane) : Prefixes := ⟨pane.pending, pane.count, pane.register, pane.prompt⟩

theorem prefixes_ite (p : Prop) [Decidable p] (yes no : Pane) :
    (if p then yes else no).prefixes = if p then yes.prefixes else no.prefixes := by
  split <;> rfl

/-- A fold over steps that leave it alone. -/
theorem prefixes_foldl {α : Type} {step : Pane → α → Pane}
    (steps : ∀ pane x, (step pane x).prefixes = pane.prefixes) (xs : List α) (pane : Pane) :
    (xs.foldl step pane).prefixes = pane.prefixes := by
  induction xs generalizing pane with
  | nil => rfl
  | cons x xs ih => exact (ih _).trans (steps pane x)

section Small

variable (pane : Pane)

@[simp] theorem prefixes_say (text : List Char) : (pane.say text).prefixes = pane.prefixes := rfl

@[simp] theorem prefixes_fail (text : List Char) : (pane.fail text).prefixes = pane.prefixes := rfl

@[simp] theorem prefixes_moveCursor (move : Cursor → Cursor) :
    (pane.moveCursor move).prefixes = pane.prefixes := rfl

@[simp] theorem prefixes_jump (pastEnd : Bool) (pos : Position) :
    (pane.jump pastEnd pos).prefixes = pane.prefixes := rfl

@[simp] theorem prefixes_jumpToLine (pastEnd : Bool) (line : Nat) :
    (pane.jumpToLine pastEnd line).prefixes = pane.prefixes := rfl

@[simp] theorem prefixes_markChange : pane.markChange.prefixes = pane.prefixes := rfl

@[simp] theorem prefixes_startInsert (kind : InsertKind) (count : Nat) :
    (pane.startInsert kind count).prefixes = pane.prefixes := rfl

@[simp] theorem prefixes_store (name : Option Char) (kind : RegisterKind) (text : List Char) :
    (pane.store name kind text).prefixes = pane.prefixes := rfl

@[simp] theorem prefixes_revise (change : InsertSession → InsertSession) :
    (pane.revise change).prefixes = pane.prefixes := rfl

@[simp] theorem prefixes_setTop (line : Nat) : (pane.setTop line).prefixes = pane.prefixes := rfl

@[simp] theorem prefixes_requestClose : pane.requestClose.prefixes = pane.prefixes := rfl

@[simp] theorem prefixes_syncModified : pane.syncModified.prefixes = pane.prefixes := by
  unfold syncModified
  split <;> rfl

end Small

section Edits

variable (pane : Pane) (range : Range) (text : List Char) (count : Nat)

@[simp] theorem prefixes_beginChange : pane.beginChange.prefixes = pane.prefixes := by
  unfold beginChange
  simp only [prefixes_markChange, prefixes_ite]
  exact ite_self _

@[simp] theorem prefixes_insertText (pos : Position) :
    (pane.insertText pos text).prefixes = pane.prefixes := by
  unfold insertText
  split
  · rfl
  · exact pane.prefixes_beginChange

@[simp] theorem prefixes_eraseRange : (pane.eraseRange range).prefixes = pane.prefixes := by
  unfold eraseRange
  dsimp only
  split
  · rfl
  · exact pane.prefixes_beginChange

@[simp] theorem prefixes_replaceText : (pane.replaceText range text).prefixes = pane.prefixes := by
  unfold replaceText
  split <;> simp

@[simp] theorem prefixes_reportFewer : (pane.reportFewer count).prefixes = pane.prefixes := by
  unfold reportFewer
  dsimp only
  split <;> rfl

@[simp] theorem prefixes_reportMore : (pane.reportMore count).prefixes = pane.prefixes := by
  unfold reportMore
  split <;> rfl

@[simp] theorem prefixes_reportYanked : (pane.reportYanked count).prefixes = pane.prefixes := by
  unfold reportYanked
  split <;> rfl

theorem prefixes_operateOnChars (op : Operator) (register : Option Char) :
    (pane.operateOnChars op range register).prefixes = pane.prefixes := by
  unfold operateOnChars
  cases op <;> simp [prefixes_ite]

theorem prefixes_operateOnLines (op : Operator) (first last : Nat) (register : Option Char) :
    (pane.operateOnLines op first last register).prefixes = pane.prefixes := by
  unfold operateOnLines
  cases op with
  | delete =>
      simp only [prefixes_ite, prefixes_say, prefixes_reportFewer, prefixes_jumpToLine, prefixes_eraseRange,
        prefixes_store, ite_self]
  | change =>
      simp only [prefixes_startInsert, prefixes_jump, prefixes_eraseRange, prefixes_store]
  | yank => simp only [prefixes_reportYanked, prefixes_ite, prefixes_jump, prefixes_store, ite_self]

/-- An operator takes the register. -/
@[simp] theorem prefixes_operate (op : Operator) (span : Span) :
    (pane.operate op span).prefixes = pane.prefixes.unnamed := by
  unfold operate
  dsimp only
  split
  · exact prefixes_operateOnLines _ _ _ _ _
  · exact prefixes_operateOnChars _ _ _ _

theorem prefixes_putChars (reg : Register) (after : Bool) :
    (pane.putChars reg after count).prefixes = pane.prefixes := by
  simp [putChars, prefixes_ite]

theorem prefixes_putLines (reg : Register) (after : Bool) :
    (pane.putLines reg after count).prefixes = pane.prefixes := by
  simp [putLines, prefixes_ite]

theorem prefixes_putRow (col width line : Nat) (row : List Char) :
    (pane.putRow col width count line row).prefixes = pane.prefixes := by
  simp [putRow, prefixes_ite]

theorem prefixes_putRows (col width line : Nat) (rows : List (List Char)) :
    (putRows col width count pane line rows).prefixes = pane.prefixes := by
  induction rows generalizing pane line with
  | nil => rfl
  | cons row rows ih => exact (ih _ _).trans (prefixes_putRow _ _ _ _ _ _)

/-- Putting a register takes it. -/
theorem prefixes_put (after : Bool) : (pane.put after count).prefixes = pane.prefixes.unnamed := by
  unfold put
  dsimp only
  split
  · rfl
  · split
    · rfl
    · split
      · exact prefixes_putChars _ _ _ _
      · exact prefixes_putLines _ _ _ _
      · exact prefixes_putRows _ _ _ _ _ _

theorem prefixes_openLine (below : Bool) : (pane.openLine below).prefixes = pane.prefixes := by
  simp [openLine, prefixes_ite]

theorem prefixes_appendHere : (pane.appendHere count).prefixes = pane.prefixes := by
  simp [appendHere, prefixes_ite]

theorem prefixes_joinTimes (first col : Nat) :
    (joinTimes first count pane col).1.prefixes = pane.prefixes := by
  induction count generalizing pane col with
  | zero => rfl
  | succ count ih => simp [joinTimes, joinNext, ih]

theorem prefixes_joinLines (first : Nat) : (pane.joinLines first count).prefixes = pane.prefixes := by
  unfold joinLines
  dsimp only
  split
  · rfl
  · exact prefixes_joinTimes _ _ _ _

theorem prefixes_toggleCase : (pane.toggleCase count).prefixes = pane.prefixes := by
  simp [toggleCase, prefixes_ite]

theorem prefixes_revisit (step : History → Buffer → Option Position × History × Buffer) :
    (pane.revisit step count).prefixes = pane.prefixes := by
  unfold revisit
  dsimp only
  split
  · exact prefixes_syncModified _
  · rfl

theorem prefixes_scroll (way : Scroll) (count : Option Nat) :
    (pane.scroll way count).prefixes = pane.prefixes := by
  unfold scroll
  cases way <;> simp [prefixes_ite]

end Edits

section Moving

variable (pane : Pane) (count : Option Nat)

theorem prefixes_goTo (target : Target) : (pane.goTo target).prefixes = pane.prefixes := by
  unfold goTo
  cases target.sticky <;> rfl

theorem prefixes_searchFrom (pattern : Pattern) (start : Position) (direction : Direction) (count : Nat) :
    (pane.searchFrom pattern start direction count).2.prefixes = pane.prefixes := by
  unfold searchFrom
  split <;> rfl

theorem prefixes_searchAgain (start : Position) (direction : Direction) :
    (pane.searchAgain start direction count).2.prefixes = pane.prefixes := by
  unfold searchAgain
  split
  · rfl
  · exact prefixes_searchFrom _ _ _ _ _

theorem prefixes_searchWord (direction : Direction) :
    (pane.searchWord direction count).2.prefixes = pane.prefixes := by
  unfold searchWord
  split
  · rfl
  · exact prefixes_searchAgain _ _ _ _

theorem prefixes_resolve (motion : Motion) (operator changeWord : Bool) :
    (pane.resolve motion count operator changeWord).2.prefixes = pane.prefixes := by
  unfold resolve
  split
  · rename_i motion
    cases motion with
    | next => exact prefixes_searchAgain _ _ _ _
    | previous => exact prefixes_searchAgain _ _ _ _
    | wordForward => exact prefixes_searchWord _ _ _
    | wordBackward => exact prefixes_searchWord _ _ _
  · rfl

theorem prefixes_move (motion : Motion) : (pane.move motion count).prefixes = pane.prefixes := by
  have resolved := pane.prefixes_resolve count motion false false
  unfold move
  split
  · rename_i target other found
    rw [found] at resolved
    exact (other.prefixes_goTo target).trans resolved
  · rename_i other found
    rw [found] at resolved
    exact resolved

theorem prefixes_operateOnLinesHere (op : Operator) (count : Nat) :
    (pane.operateOnLinesHere op count).prefixes = pane.prefixes.unnamed := prefixes_operate _ _ _

theorem prefixes_operateOnCharsHere (op : Operator) (count : Nat) :
    (pane.operateOnCharsHere op count).prefixes = pane.prefixes.unnamed := prefixes_operate _ _ _

/-- An operator takes the register, or is given up with it. -/
theorem prefixes_operateByMotion (pending : PendingOperator) (motion : Motion)
    (counted : pane.count = none) (rests : pane.pending = none) :
    (pane.operateByMotion pending motion count).prefixes = pane.prefixes.unnamed := by
  have resolved := pane.prefixes_resolve (mergeCounts pending.count count)
    (pane.motionFor pending.op motion).1 true (pane.motionFor pending.op motion).2
  unfold operateByMotion
  dsimp only
  split
  · rename_i other found
    rw [found] at resolved
    have prompt : other.prompt = pane.prompt := congrArg Prefixes.prompt resolved
    show Prefixes.mk none none none other.prompt = ⟨pane.pending, pane.count, none, pane.prompt⟩
    rw [prompt, counted, rests]
  · rename_i target other found
    rw [found] at resolved
    split
    · exact (prefixes_operate _ _ _).trans (congrArg Prefixes.unnamed resolved)
    · split
      · exact congrArg Prefixes.unnamed resolved
      · exact congrArg Prefixes.unnamed resolved

end Moving

section Executing

variable (pane : Pane)

theorem prefixes_substituteLine (expr : Regex.Expr) (replacement : List Char) (flags : SubstituteFlags)
    (state : Pane × Tally) (line : Nat) :
    (substituteLine expr replacement flags state line).1.prefixes = state.1.prefixes := by
  unfold substituteLine
  dsimp only
  split
  · rfl
  · split
    · rfl
    · exact prefixes_replaceText _ _ _

theorem prefixes_concludeSubstitution (source : List Char) (flags : SubstituteFlags) (tally : Tally) :
    (pane.concludeSubstitution source flags tally).prefixes = pane.prefixes := by
  unfold concludeSubstitution
  dsimp only
  split
  · rfl
  · split
    · rfl
    · split <;> rfl

theorem prefixes_substitute (range : LineRange) (patternText replacement : List Char)
    (flags : SubstituteFlags) :
    (pane.substitute range patternText replacement flags).prefixes = pane.prefixes := by
  have lines : ∀ (expr : Regex.Expr) (lines : List Nat) (state : Pane × Tally),
      (lines.foldl (substituteLine expr replacement flags) state).1.prefixes = state.1.prefixes := by
    intro expr lines
    induction lines with
    | nil => exact fun state => rfl
    | cons line lines ih =>
        exact fun state => (ih _).trans (prefixes_substituteLine expr replacement flags state line)
  unfold substitute
  split
  · rfl
  · split
    · rfl
    · split
      · rfl
      · exact (prefixes_concludeSubstitution _ _ _ _).trans (lines _ _ _)

/-- A command line has no use for a register. -/
theorem prefixes_execute (command : ExCommand) : (pane.execute command).prefixes = pane.prefixes := by
  cases command with
  | empty => rfl
  | write => rfl
  | quit => exact (prefixes_ite _ _ _).trans (ite_self _)
  | forceQuit => rfl
  | writeQuit => rfl
  | exitSave =>
      refine (prefixes_requestClose _).trans ?_
      split <;> rfl
  | goto address => rfl
  | set args =>
      unfold execute
      dsimp only
      split <;> rfl
  | noHighlight => rfl
  | substitute range pattern replacement flags => exact prefixes_substitute _ _ _ _ _
  | repeatSubstitute range =>
      unfold execute
      dsimp only
      split
      · exact prefixes_substitute _ _ _ _ _
      · rfl
  | unknown text => rfl

end Executing

section Typing

variable (pane : Pane)

theorem prefixes_typeChar (c : Char) : (pane.typeChar c).prefixes = pane.prefixes := by
  simp [typeChar, prefixes_ite]

theorem prefixes_joinWithPrevious : pane.joinWithPrevious.prefixes = pane.prefixes := by
  simp [joinWithPrevious, prefixes_ite]

theorem prefixes_eraseBack (col : Nat) : (pane.eraseBack col).prefixes = pane.prefixes := by
  simp [eraseBack]

theorem prefixes_backspace : pane.backspace.prefixes = pane.prefixes := by
  unfold backspace
  split
  · unfold backspaceReplace
    dsimp only
    split
    · split
      · exact prefixes_joinWithPrevious _
      · simp [untype]
    · rfl
  · unfold backspaceInsert
    dsimp only
    split
    · exact prefixes_joinWithPrevious _
    · exact prefixes_eraseBack _ _

theorem prefixes_eraseTo (col : Nat) : (pane.eraseTo col).prefixes = pane.prefixes := by
  simp [eraseTo, prefixes_eraseBack]

theorem prefixes_repeatForCount (session : InsertSession) :
    (pane.repeatForCount session).prefixes = pane.prefixes := by
  simp only [repeatForCount, repeatTyped, prefixes_ite, prefixes_fail, prefixes_jump, prefixes_insertText,
    ite_self]

theorem prefixes_copyToBlock (typed : List Char) (top bottom col : Nat) (append toLineEnd : Bool) :
    (pane.copyToBlock typed top bottom col append toLineEnd).prefixes = pane.prefixes := by
  unfold copyToBlock
  split
  · rfl
  · refine prefixes_foldl (fun pane line => ?_) _ _
    simp [copyToLine, prefixes_ite]

theorem prefixes_endTyping : pane.endTyping.prefixes = pane.prefixes := by
  unfold endTyping
  dsimp only
  split
  · rfl
  · rename_i session _
    have repeated : ∀ (p : Prop) [Decidable p] (pane : Pane),
        (if p then pane else pane.repeatForCount session).prefixes = pane.prefixes := by
      intro p _ pane
      rw [prefixes_ite, prefixes_repeatForCount, ite_self]
    split
    · exact (prefixes_jump _ _ _).trans ((prefixes_copyToBlock _ _ _ _ _ _ _).trans (repeated _ _))
    · exact (prefixes_jump _ _ _).trans (repeated _ _)

/-- Neither the keys that are typed nor the one that ends typing touch it. -/
theorem prefixes_handleTyping (key : Key) : (pane.handleTyping key).prefixes = pane.prefixes := by
  unfold handleTyping
  split
  · exact prefixes_endTyping _
  · split
    · exact prefixes_backspace _
    · split
      · unfold eraseWord
        dsimp only
        split
        · exact prefixes_backspace _
        · exact prefixes_eraseTo _ _
      · split
        · unfold eraseLine
          dsimp only
          split
          · exact prefixes_backspace _
          · exact prefixes_eraseTo _ _
        · split
          · exact prefixes_typeChar _ _
          · exact prefixes_typeChar _ _
          · exact prefixes_backspace _
          · simp [eraseForward, prefixes_ite]
          · rfl
          · rfl
          · rfl
          · rfl
          · rfl
          · rfl
          · split
            · exact prefixes_typeChar _ _
            · rfl

end Typing

section Selecting

variable (pane : Pane)

theorem prefixes_exitVisual : pane.exitVisual.prefixes = pane.prefixes := by
  unfold exitVisual
  dsimp only
  split <;> rfl

theorem prefixes_selectObject (object : TextObject) :
    (pane.selectObject object).prefixes = pane.prefixes := by
  unfold selectObject
  split
  · rfl
  · split
    · rfl
    · split <;> rfl

theorem prefixes_operateOnBlock (op : Operator) (block : Block) (toLineEnd : Bool) :
    (pane.operateOnBlock op block toLineEnd).prefixes = pane.prefixes.unnamed := by
  have erased : ∀ (lines : List Nat) (pane : Pane) (range : Pane → Nat → Range),
      (lines.foldl (fun pane line => pane.eraseRange (range pane line)) pane).prefixes = pane.prefixes :=
    fun lines pane range => prefixes_foldl (fun _ _ => prefixes_eraseRange _ _) lines pane
  unfold operateOnBlock
  cases op with
  | yank =>
      refine (prefixes_jump _ _ _).trans ?_
      split <;> rfl
  | delete => exact (prefixes_jump _ _ _).trans (erased _ _ _)
  | change =>
      refine (prefixes_startInsert _ _ _).trans ((prefixes_jump _ _ _).trans ?_)
      exact erased _ _ _

theorem prefixes_operateOnSelection (op : Operator) {selection : Selection}
    (selected : pane.selection? = some selection) :
    (pane.operateOnSelection op).prefixes = pane.prefixes.unnamed := by
  have exited := congrArg Prefixes.unnamed pane.prefixes_exitVisual
  have back : ∀ (p : Prop) [Decidable p] (after : Pane) (start : Position),
      (if p then after.jump false start else after).prefixes = after.prefixes := by
    intro p _ after start
    split <;> rfl
  unfold operateOnSelection
  rw [selected]
  cases selection with
  | chars range => exact (back _ _ _).trans ((prefixes_operate _ _ _).trans exited)
  | lines first last => exact (back _ _ _).trans ((prefixes_operate _ _ _).trans exited)
  | block area toLineEnd => exact (prefixes_operateOnBlock _ _ _ _).trans exited

theorem prefixes_toggleSelectionCase : pane.toggleSelectionCase.prefixes = pane.prefixes := by
  unfold toggleSelectionCase
  split
  · rfl
  · refine Eq.trans (prefixes_foldl (fun pane range => ?_) _ _) pane.prefixes_exitVisual
    exact prefixes_replaceText _ _ _

theorem prefixes_joinSelection : pane.joinSelection.prefixes = pane.prefixes :=
  (prefixes_joinLines _ _ _).trans pane.prefixes_exitVisual

/-- Typing beside the selection starts without a count. -/
theorem prefixes_insertAtSelection (append : Bool) {selection : Selection}
    (selected : pane.selection? = some selection) :
    (pane.insertAtSelection append).prefixes = pane.dropCount.prefixes := by
  have exited := pane.dropCount.prefixes_exitVisual
  unfold insertAtSelection
  rw [selected]
  cases selection with
  | chars range =>
      dsimp only
      rw [prefixes_startInsert, prefixes_jump, exited]
  | lines first last =>
      dsimp only
      rw [prefixes_startInsert, prefixes_jump, exited]
  | block area toLineEnd =>
      refine Eq.trans ?_ exited
      simp only [prefixes_startInsert, prefixes_jump, prefixes_ite, prefixes_insertText, ite_self]

end Selecting

end Pane

end ModalPanes
