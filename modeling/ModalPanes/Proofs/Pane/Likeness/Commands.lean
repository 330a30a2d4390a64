import ModalPanes.Pane.Keys
import ModalPanes.Proofs.Pane.Likeness.Edits

/-!
# Commands on panes that are alike

Motions, prompts, selections and typing are made of the edits, and do the same to panes that are alike.
Motions to a row of the screen are the only ones that look at the view.
-/

namespace ModalPanes

namespace Pane

variable {a b pane : Pane}

/-- The same target, and panes that are alike. -/
structure Leads (found other : Option Target × Pane) : Prop where
  target : found.1 = other.1
  alike : found.2.Alike other.2

@[elab_as_elim]
theorem Leads.elim {motive : Option Target × Pane → Option Target × Pane → Prop}
    {found other : Option Target × Pane} (leads : Leads found other)
    (nowhere : ∀ a b : Pane, a.Alike b → motive (none, a) (none, b))
    (somewhere : ∀ (target : Target) (a b : Pane), a.Alike b → motive (some target, a) (some target, b)) :
    motive found other := by
  obtain ⟨target, a⟩ := found
  obtain ⟨target', b⟩ := other
  obtain ⟨same, alike⟩ := leads
  obtain rfl : target = target' := same
  cases target with
  | none => exact nowhere a b alike
  | some target => exact somewhere target a b alike

theorem searchTimes_unmarked (buf : Buffer) (pattern : Pattern) (direction : Direction) (count : Nat)
    (found : Found) :
    searchTimes buf.unmarked pattern direction count found =
      searchTimes buf pattern direction count found := by
  induction count generalizing found with
  | zero => rfl
  | succ count ih =>
      unfold searchTimes
      rw [Buffer.search_unmarked]
      split
      · rfl
      · exact ih _

theorem motionFor_isOnScreen (pane : Pane) (op : Operator) (motion : Motion) :
    (pane.motionFor op motion).1.isOnScreen = motion.isOnScreen := by
  unfold motionFor
  dsimp only
  split
  · split <;> rfl
  · rfl

namespace Alike

section Moving

variable (alike : a.Alike b)
include alike

theorem searchFrom (pattern : Pattern) (start : Position) (direction : Direction) (count : Nat) :
    Leads (a.searchFrom pattern start direction count) (b.searchFrom pattern start direction count) := by
  unfold Pane.searchFrom
  rw [alike.same (fun pane => searchTimes pane.buffer pattern direction (max count 1) ⟨start, false⟩)
    fun pane => (searchTimes_unmarked pane.buffer _ _ _ _).symm]
  split
  · exact ⟨rfl, alike.fail _⟩
  · exact ⟨rfl, alike.say _⟩

theorem withSearch (search : SearchState) :
    Alike { a with search := search } { b with search := search } :=
  alike.through (fun pane => { pane with search := search }) fun _ => ⟨rfl⟩

theorem searchAgain (start : Position) (direction : Direction) (count : Option Nat) :
    Leads (a.searchAgain start direction count) (b.searchAgain start direction count) := by
  unfold Pane.searchAgain
  rw [alike.same (·.search) fun _ => rfl]
  split
  · exact ⟨rfl, alike.fail _⟩
  · exact (alike.withSearch _).searchFrom _ _ _ _

theorem searchWord (direction : Direction) (count : Option Nat) :
    Leads (a.searchWord direction count) (b.searchWord direction count) := by
  unfold Pane.searchWord
  rw [alike.same (fun pane => Pattern.ofWordAt? pane.buffer pane.cursor.pos) fun _ => rfl]
  split
  · exact ⟨rfl, alike.fail _⟩
  · rename_i pattern found
    rw [alike.same (·.matchStart pattern) fun _ => rfl]
    exact (alike.withSearch _).searchAgain _ _ _

/-- Unless a motion goes to a row of the screen, it leads to the same place. -/
theorem resolve {motion : Motion} (other : motion.isOnScreen = false) (count : Option Nat)
    (operator changeWord : Bool) :
    Leads (a.resolve motion count operator changeWord) (b.resolve motion count operator changeWord) := by
  cases motion with
  | search search =>
      unfold Pane.resolve resolveSearch
      dsimp only
      rw [alike.same (·.search.direction) fun _ => rfl, alike.same (·.cursor.pos) fun _ => rfl]
      cases search with
      | next => exact alike.searchAgain _ _ _
      | previous => exact alike.searchAgain _ _ _
      | wordForward => exact alike.searchWord _ _
      | wordBackward => exact alike.searchWord _ _
  | _ =>
      refine ⟨?_, alike⟩
      refine alike.same (fun pane => (pane.resolve _ count operator changeWord).1) fun pane => ?_
      exact (MotionContext.resolve_unmarked _ _ _ other).symm

theorem goTo (target : Target) : (a.goTo target).Alike (b.goTo target) := by
  refine alike.through (·.goTo target) fun pane => ?_
  unfold Pane.goTo
  cases target.sticky <;> exact ⟨rfl⟩

theorem move {motion : Motion} (other : motion.isOnScreen = false) (count : Option Nat) :
    (a.move motion count).Alike (b.move motion count) := by
  unfold Pane.move
  refine (alike.resolve other count false false).elim (fun a b moved => ?_) fun target a b moved => ?_
  · exact moved
  · exact moved.goTo target

/-- An operator does the same on the way to the same target. -/
theorem operateByMotion_of_leads (pending : PendingOperator) {motion : Motion} {count : Option Nat}
    (leads : Leads
      (a.resolve (a.motionFor pending.op motion).1 (mergeCounts pending.count count) true
        (a.motionFor pending.op motion).2)
      (b.resolve (a.motionFor pending.op motion).1 (mergeCounts pending.count count) true
        (a.motionFor pending.op motion).2)) :
    (a.operateByMotion pending motion count).Alike (b.operateByMotion pending motion count) := by
  unfold Pane.operateByMotion
  dsimp only
  rw [← alike.same (·.motionFor pending.op motion) fun _ => rfl, alike.same (·.cursor.pos) fun _ => rfl]
  refine leads.elim (fun a b moved => ?_) fun target a b moved => ?_
  · exact moved.cancelCommand
  · dsimp only
    rw [moved.same (fun pane => target.span? pane.buffer _) fun _ => rfl]
    split
    · exact moved.operate _ _
    · exact .ite .rfl (moved.dropRegister.startInsert .plain 1) moved.dropRegister

theorem operateByMotion (pending : PendingOperator) {motion : Motion}
    (other : motion.isOnScreen = false) (count : Option Nat) :
    (a.operateByMotion pending motion count).Alike (b.operateByMotion pending motion count) := by
  rw [← a.motionFor_isOnScreen pending.op motion] at other
  exact alike.operateByMotion_of_leads pending (alike.resolve other _ true _)

theorem operateOnLinesHere (op : Operator) (count : Nat) :
    (a.operateOnLinesHere op count).Alike (b.operateOnLinesHere op count) := by
  refine alike.through (·.operateOnLinesHere op count) fun pane => ?_
  exact pane.alike_core.operate op _

end Moving

section Prompts

variable (alike : a.Alike b)
include alike

theorem openPrompt (kind : PromptKind) (text : List Char) (operator : Option PendingOperator)
    (count : Option Nat) :
    (a.openPrompt kind text operator count).Alike (b.openPrompt kind text operator count) :=
  alike.through (·.openPrompt kind text operator count) fun _ => ⟨rfl⟩

theorem submitSearch (text : List Char) (direction : Direction) (operator : Option PendingOperator)
    (count : Option Nat) :
    (a.submitSearch text direction operator count).Alike
      (b.submitSearch text direction operator count) := by
  unfold Pane.submitSearch
  rw [alike.same (·.patternSource? text) fun _ => rfl, alike.same (·.cursor.pos) fun _ => rfl]
  split
  · exact alike.fail _
  · split
    · exact alike.fail _
    · dsimp only
      refine ((alike.withSearch _).searchFrom _ _ _ _).elim (fun a b moved => ?_)
        fun target a b moved => ?_
      · exact moved.dropRegister
      · dsimp only
        cases operator with
        | none => exact moved.goTo target
        | some pending =>
            dsimp only
            rw [moved.same (fun pane => target.span? pane.buffer _) fun _ => rfl]
            split
            · exact moved.operate _ _
            · exact moved

/-- Writing and asking to be closed change nothing that a command reads. -/
theorem write : a.write.Alike b.write := alike.through (·.write) fun _ => ⟨rfl⟩

theorem requestClose : a.requestClose.Alike b.requestClose :=
  alike.through (·.requestClose) fun _ => ⟨rfl⟩

theorem concludeSubstitution (source : List Char) (flags : SubstituteFlags) (tally : Tally) :
    (a.concludeSubstitution source flags tally).Alike (b.concludeSubstitution source flags tally) := by
  unfold Pane.concludeSubstitution
  dsimp only
  split
  · exact alike.fail _
  · have marked := alike.markChange.jumpToLine false
    exact .ite .rfl (alike.say _) (.ite .rfl ((marked _).say _) (marked _))

theorem substituteLine (expr : Regex.Expr) (replacement : List Char) (flags : SubstituteFlags)
    (tally : Tally) (line : Nat) :
    (substituteLine expr replacement flags (a, tally) line).1.Alike
        (substituteLine expr replacement flags (b, tally) line).1 ∧
      (substituteLine expr replacement flags (a, tally) line).2 =
        (substituteLine expr replacement flags (b, tally) line).2 := by
  unfold Pane.substituteLine
  dsimp only
  rw [alike.same (·.buffer.line line) fun _ => rfl]
  split
  · exact ⟨alike, rfl⟩
  · split
    · exact ⟨alike, rfl⟩
    · exact ⟨alike.replaceText _ _, rfl⟩

theorem substituteLines (expr : Regex.Expr) (replacement : List Char) (flags : SubstituteFlags)
    (tally : Tally) (lines : List Nat) :
    (lines.foldl (Pane.substituteLine expr replacement flags) (a, tally)).1.Alike
        (lines.foldl (Pane.substituteLine expr replacement flags) (b, tally)).1 ∧
      (lines.foldl (Pane.substituteLine expr replacement flags) (a, tally)).2 =
        (lines.foldl (Pane.substituteLine expr replacement flags) (b, tally)).2 := by
  induction lines generalizing a b tally with
  | nil => exact ⟨alike, rfl⟩
  | cons line lines ih =>
      obtain ⟨next, same⟩ := alike.substituteLine expr replacement flags tally line
      rw [List.foldl_cons, List.foldl_cons]
      generalize Pane.substituteLine expr replacement flags (a, tally) line = left at next same ⊢
      generalize Pane.substituteLine expr replacement flags (b, tally) line = right at next same ⊢
      obtain ⟨left, tally⟩ := left
      obtain ⟨right, other⟩ := right
      obtain rfl : tally = other := same
      exact ih next tally

theorem substitute (range : LineRange) (patternText replacement : List Char) (flags : SubstituteFlags) :
    (a.substitute range patternText replacement flags).Alike
      (b.substitute range patternText replacement flags) := by
  unfold Pane.substitute
  rw [alike.same (·.linesOf range) fun pane => by cases range <;> rfl]
  split
  · exact alike.fail _
  · rw [alike.same (·.patternSource? patternText) fun _ => rfl]
    split
    · exact alike.fail _
    · split
      · exact alike.fail _
      · rename_i pattern compiled
        dsimp only
        rw [alike.same (·.search) fun _ => rfl]
        have prepared : ∀ search last, Alike { a with search := search, lastSubstitute := last }
            { b with search := search, lastSubstitute := last } := fun search last =>
          alike.through (fun pane => { pane with search := search, lastSubstitute := last })
            fun _ => ⟨rfl⟩
        obtain ⟨done, tally⟩ := (prepared _ _).substituteLines pattern.expr replacement flags {} _
        rw [tally]
        exact done.concludeSubstitution _ _ _

theorem execute (command : ExCommand) : (a.execute command).Alike (b.execute command) := by
  have closes : ∀ pane : Pane, pane.requestClose.Alike pane := fun _ => ⟨rfl⟩
  have tells : ∀ (pane : Pane) (text : List Char), (pane.fail text).Alike pane := fun _ _ => ⟨rfl⟩
  have writes : ∀ pane : Pane, pane.write.Alike pane := fun _ => ⟨rfl⟩
  cases command with
  | empty => exact alike
  | write => exact alike.write
  | quit =>
      -- the two may differ in whether they count as changed, but only a message depends on it
      have quits : ∀ pane : Pane, (pane.execute .quit).Alike pane := fun pane => by
        unfold Pane.execute
        dsimp only
        split
        · exact tells pane _
        · exact closes pane
      exact (quits a).trans (alike.trans (quits b).symm)
  | forceQuit => exact alike.requestClose
  | writeQuit => exact alike.write.requestClose
  | exitSave =>
      have exits : ∀ pane : Pane, (pane.execute .exitSave).Alike pane := fun pane => by
        unfold Pane.execute
        dsimp only
        split
        · exact (closes _).trans (writes pane)
        · exact closes pane
      exact (exits a).trans (alike.trans (exits b).symm)
  | goto address =>
      refine alike.through (·.execute (.goto address)) fun pane => ?_
      exact pane.alike_core.jumpToLine false _
  | set args =>
      refine alike.through (·.execute (.set args)) fun pane => ?_
      have prepared : ∀ options, Alike { pane with options := options }
          { pane.core with options := options } := fun options => ⟨rfl⟩
      unfold Pane.execute
      dsimp only [Pane.core]
      split
      · exact (prepared _).say _
      · exact prepared _
      · exact (prepared _).fail _
  | noHighlight =>
      exact alike.through (·.execute .noHighlight) fun _ => ⟨rfl⟩
  | substitute range pattern replacement flags => exact alike.substitute range pattern replacement flags
  | repeatSubstitute range =>
      unfold Pane.execute
      dsimp only
      rw [alike.same (·.lastSubstitute) fun _ => rfl]
      split
      · exact alike.substitute _ _ _ _
      · exact alike.fail _
  | unknown text => exact alike.fail _

theorem closePrompt (mode : Mode) :
    Alike { a with prompt := none, mode := mode } { b with prompt := none, mode := mode } :=
  alike.through (fun pane => { pane with prompt := none, mode := mode }) fun _ => ⟨rfl⟩

theorem handlePromptKey (state : PromptState) (key : Key) :
    (a.handlePromptKey state key).Alike (b.handlePromptKey state key) := by
  unfold Pane.handlePromptKey
  split
  · exact alike.through (fun pane => { pane with prompt := some { state with prompt := _ } })
      fun _ => ⟨rfl⟩
  · exact (alike.closePrompt _).cancelCommand
  · unfold submit
    dsimp only
    split
    · exact (alike.closePrompt _).execute _
    · exact (alike.closePrompt _).submitSearch _ _ _ _

end Prompts

section Selecting

variable (alike : a.Alike b)
include alike

theorem enterVisual (kind : VisualKind) : (a.enterVisual kind).Alike (b.enterVisual kind) :=
  alike.through (·.enterVisual kind) fun _ => ⟨rfl⟩

theorem exitVisual : a.exitVisual.Alike b.exitVisual := by
  refine alike.through (·.exitVisual) fun pane => ?_
  unfold Pane.exitVisual
  dsimp only [Pane.core]
  split <;> exact ⟨rfl⟩

theorem withMode (mode : Mode) : Alike { a with mode := mode } { b with mode := mode } :=
  alike.through (fun pane => { pane with mode := mode }) fun _ => ⟨rfl⟩

theorem selectObject (object : TextObject) : (a.selectObject object).Alike (b.selectObject object) := by
  refine alike.through (·.selectObject object) fun pane => ?_
  have same := pane.alike_core
  unfold Pane.selectObject
  dsimp only [Pane.core]
  rw [TextObject.span?_unmarked]
  split
  · exact same
  · refine .ite .rfl ?_ (.ite .rfl same ?_)
    · exact ((((same.withMode _).jump false _).moveCursor Cursor.setAnchor).jump false _)
    · exact ((same.jump false _).moveCursor Cursor.setAnchor).jump true _

theorem eraseBlock (block : Block) (toLineEnd : Bool) (lines : List Nat) :
    (lines.foldl (fun pane line => pane.eraseRange (pane.blockRange block toLineEnd line)) a).Alike
      (lines.foldl (fun pane line => pane.eraseRange (pane.blockRange block toLineEnd line)) b) := by
  refine alike.foldl (fun {a b} alike line => ?_) lines
  rw [alike.same (·.blockRange block toLineEnd line) fun _ => rfl]
  exact alike.eraseRange _

theorem operateOnBlock (op : Operator) (block : Block) (toLineEnd : Bool) :
    (a.operateOnBlock op block toLineEnd).Alike (b.operateOnBlock op block toLineEnd) := by
  refine alike.through (·.operateOnBlock op block toLineEnd) fun pane => ?_
  have stored := fun text => pane.alike_core.dropRegister.store pane.register .block text
  unfold Pane.operateOnBlock
  cases op with
  | yank => exact Alike.jump (.ite .rfl ((stored _).say _) (stored _)) false _
  | delete => exact ((stored _).eraseBlock block toLineEnd _).jump false _
  | change => exact (((stored _).eraseBlock block toLineEnd _).jump true _).startInsert _ 1

theorem operateOnSelection (op : Operator) :
    (a.operateOnSelection op).Alike (b.operateOnSelection op) := by
  unfold Pane.operateOnSelection
  rw [alike.same (·.selection?) fun _ => rfl]
  split
  · exact alike
  · dsimp only
    rw [alike.same (·.selectionStart) fun _ => rfl]
    have left := alike.exitVisual
    split
    · exact .ite .rfl ((left.operate _ _).jump false _) (left.operate _ _)
    · exact .ite .rfl ((left.operate _ _).jump false _) (left.operate _ _)
    · exact left.operateOnBlock _ _ _

theorem swapCaseIn (range : Range) : (Pane.swapCaseIn a range).Alike (Pane.swapCaseIn b range) := by
  unfold Pane.swapCaseIn
  rw [alike.same (·.buffer.slice range) fun _ => rfl]
  exact alike.replaceText _ _

theorem toggleSelectionCase : a.toggleSelectionCase.Alike b.toggleSelectionCase := by
  unfold Pane.toggleSelectionCase
  rw [alike.same (·.selection?) fun _ => rfl]
  split
  · exact alike
  · rename_i selection found
    have left := alike.exitVisual
    dsimp only
    rw [alike.same (·.selectionStart) fun _ => rfl,
      left.same (·.selectionRanges selection) fun _ => by cases selection <;> rfl]
    exact ((left.foldl (fun alike range => alike.swapCaseIn range) _).markChange).jump false _

theorem joinSelection : a.joinSelection.Alike b.joinSelection := by
  unfold Pane.joinSelection
  rw [alike.same (·.cursor) fun _ => rfl]
  exact alike.exitVisual.joinLines _ _

theorem insertAtSelection (append : Bool) :
    (a.insertAtSelection append).Alike (b.insertAtSelection append) := by
  unfold Pane.insertAtSelection
  rw [alike.same (·.selection?) fun _ => rfl]
  split
  · exact alike
  · have left := alike.dropCount.exitVisual
    dsimp only
    rw [alike.same (·.selectionStart) fun _ => rfl]
    split
    · rename_i block toLineEnd found
      rw [left.same (·.buffer.lineLength block.top) fun _ => rfl]
      exact Alike.startInsert (Alike.jump (.ite .rfl (left.insertText _ _) left) true _) _ 1
    · rename_i first last found
      rw [left.same (·.buffer.lineLength last) fun _ => rfl]
      exact (left.jump true _).startInsert .plain 1
    · exact (left.jump true _).startInsert .plain 1

end Selecting

section Typing

variable (alike : a.Alike b)
include alike

theorem typeChar (c : Char) : (a.typeChar c).Alike (b.typeChar c) := by
  have typed := fun (overwrites : Bool) (range : Range) (next : Position) =>
    ((Alike.ite (iff_of_eq (rfl : (overwrites = true) = (overwrites = true)))
      (alike.eraseRange range) alike).insertText b.cursor.pos [c]).jump true next
  unfold Pane.typeChar
  dsimp only
  rw [alike.same (·.mode) fun _ => rfl, alike.same (·.cursor.pos) fun _ => rfl,
    alike.same (·.buffer.lineLength b.cursor.pos.line) fun _ => rfl,
    alike.same (·.buffer.charAt? b.cursor.pos) fun _ => rfl,
    (typed _ _ _).same (·.mode) fun _ => rfl]
  exact (typed _ _ _).revise _

theorem joinWithPrevious : a.joinWithPrevious.Alike b.joinWithPrevious := by
  refine alike.through (·.joinWithPrevious) fun pane => ?_
  have same := pane.alike_core
  unfold Pane.joinWithPrevious
  exact .ite .rfl same ((same.eraseRange _).jump true _)

theorem eraseBack (col : Nat) : (a.eraseBack col).Alike (b.eraseBack col) := by
  refine alike.through (·.eraseBack col) fun pane => ?_
  exact (pane.alike_core.eraseRange _).jump true _

theorem untype : a.untype.Alike b.untype := alike.revise _

theorem backspaceInsert : a.backspaceInsert.Alike b.backspaceInsert := by
  have untyped := alike.untype
  unfold Pane.backspaceInsert
  dsimp only
  rw [untyped.same (·.cursor) fun _ => rfl]
  exact .ite .rfl untyped.joinWithPrevious (untyped.eraseBack _)

theorem backspaceReplace : a.backspaceReplace.Alike b.backspaceReplace := by
  have untyped := alike.untype
  unfold Pane.backspaceReplace
  dsimp only
  rw [untyped.same (·.insert) fun _ => rfl, untyped.same (·.cursor) fun _ => rfl]
  split
  · rename_i old replaced found
    have revised := untyped.revise fun session => { session with replaced := replaced }
    refine .ite .rfl revised.joinWithPrevious ?_
    exact ((revised.eraseRange _).insertText _ _).jump true _
  · exact untyped.jump true _

theorem backspace : a.backspace.Alike b.backspace := by
  unfold Pane.backspace
  rw [alike.same (·.mode) fun _ => rfl]
  exact .ite .rfl alike.backspaceReplace alike.backspaceInsert

theorem eraseTo (col : Nat) : (a.eraseTo col).Alike (b.eraseTo col) := by
  unfold Pane.eraseTo
  dsimp only
  rw [alike.same (·.cursor.pos) fun _ => rfl]
  exact (alike.eraseBack col).revise _

theorem eraseWord : a.eraseWord.Alike b.eraseWord := by
  unfold Pane.eraseWord
  dsimp only
  rw [alike.same (·.cursor.pos) fun _ => rfl]
  refine .ite .rfl alike.backspace ?_
  rw [alike.same (·.buffer.line b.cursor.pos.line) fun _ => rfl]
  exact alike.eraseTo _

theorem eraseLine : a.eraseLine.Alike b.eraseLine := by
  unfold Pane.eraseLine
  dsimp only
  rw [alike.same (·.cursor.pos) fun _ => rfl, alike.same (·.insert) fun _ => rfl]
  exact .ite .rfl alike.backspace (alike.eraseTo _)

theorem eraseForward : a.eraseForward.Alike b.eraseForward := by
  refine alike.through (·.eraseForward) fun pane => ?_
  have same := pane.alike_core
  unfold Pane.eraseForward
  exact .ite .rfl (same.eraseRange _) (.ite .rfl (same.eraseRange _) same)

theorem moveWhileTyping (code : KeyCode) :
    (a.moveWhileTyping code).Alike (b.moveWhileTyping code) := by
  refine alike.through (·.moveWhileTyping code) fun pane => ⟨?_⟩
  unfold Pane.moveWhileTyping
  cases code <;> rfl

theorem repeatTyped (session : InsertSession) (times : Nat) :
    (a.repeatTyped session times).Alike (b.repeatTyped session times) := by
  unfold Pane.repeatTyped
  dsimp only
  rw [alike.same (·.cursor.pos) fun _ => rfl,
    alike.same (·.buffer.lineLength b.cursor.pos.line) fun _ => rfl]
  have written := alike.insertText
    (if session.kind == .openLine then ⟨b.cursor.pos.line, b.buffer.lineLength b.cursor.pos.line⟩
      else b.cursor.pos)
    (repeatText times
      (if session.kind == .openLine then '\n' :: session.typed else session.typed))
  rw [written.same (fun pane => pane.buffer.positionOf (pane.buffer.index _ + _)) fun _ => rfl]
  exact written.jump true _

theorem repeatForCount (session : InsertSession) :
    (a.repeatForCount session).Alike (b.repeatForCount session) := by
  unfold Pane.repeatForCount
  exact .ite .rfl alike (.ite .rfl (alike.fail _) (alike.repeatTyped _ _))

theorem copyToLine (typed : List Char) (col : Nat) (append toLineEnd : Bool) (line : Nat) :
    (Pane.copyToLine typed col append toLineEnd a line).Alike
      (Pane.copyToLine typed col append toLineEnd b line) := by
  unfold Pane.copyToLine
  rw [alike.same (·.buffer.lineLength line) fun _ => rfl]
  exact .ite .rfl alike ((alike.insertText _ _).insertText _ _)

theorem copyToBlock (typed : List Char) (top bottom col : Nat) (append toLineEnd : Bool) :
    (a.copyToBlock typed top bottom col append toLineEnd).Alike
      (b.copyToBlock typed top bottom col append toLineEnd) := by
  unfold Pane.copyToBlock
  rw [alike.same (·.buffer.lastLine) fun _ => rfl]
  exact .ite .rfl alike
    (alike.foldl (fun alike line => alike.copyToLine typed col append toLineEnd line) _)

theorem endTyping : a.endTyping.Alike b.endTyping := by
  have left : Alike { a with insert := none, mode := .normal } { b with insert := none, mode := .normal } :=
    alike.through (fun pane => { pane with insert := none, mode := .normal }) fun _ => ⟨rfl⟩
  unfold Pane.endTyping
  dsimp only
  rw [alike.same (·.insert) fun _ => rfl, alike.same (·.mode) fun _ => rfl]
  split
  · exact left.through (fun pane => pane.moveCursor fun cursor => cursor.clamp pane.buffer false)
      fun _ => ⟨rfl⟩
  · rename_i session typing
    have repeated : Alike
        (if b.mode == .replace then { a with insert := none, mode := .normal }
          else Pane.repeatForCount { a with insert := none, mode := .normal } session)
        (if b.mode == .replace then { b with insert := none, mode := .normal }
          else Pane.repeatForCount { b with insert := none, mode := .normal } session) :=
      .ite .rfl left (left.repeatForCount session)
    split
    · exact (repeated.copyToBlock _ _ _ _ _ _).jump false _
    · rw [repeated.same (·.cursor.pos) fun _ => rfl]
      exact repeated.jump false _

theorem handleTyping (key : Key) : (a.handleTyping key).Alike (b.handleTyping key) := by
  unfold Pane.handleTyping
  refine .ite .rfl alike.endTyping (.ite .rfl alike.backspace (.ite .rfl alike.eraseWord
    (.ite .rfl alike.eraseLine ?_)))
  split
  · exact alike.typeChar _
  · exact alike.typeChar _
  · exact alike.backspace
  · exact alike.eraseForward
  · exact alike.moveWhileTyping _
  · exact alike.moveWhileTyping _
  · exact alike.moveWhileTyping _
  · exact alike.moveWhileTyping _
  · exact alike.moveWhileTyping _
  · exact alike.moveWhileTyping _
  · split
    · exact alike.typeChar _
    · exact alike

end Typing

end Alike

end Pane

end ModalPanes
