import ModalPanes.Proofs.Pane.Marking

/-!
# What the commands do to a recording

A command marks the recording of its keys as a change, or gives it up, and does nothing else to it: every
helper of the commands is taken in turn.
-/

namespace ModalPanes

namespace Recorder

/-- The recording is at most marked as a change, or given up. -/
inductive Stays (origin : Recorder) : Recorder → Prop where
  | refl : Stays origin origin
  | mark {recorder : Recorder} (stays : Stays origin recorder) : Stays origin recorder.markChange
  | cancel {recorder : Recorder} (stays : Stays origin recorder) : Stays origin recorder.cancel

theorem noteCount_none (recorder : Recorder) : recorder.noteCount none = recorder := by
  obtain ⟨recording, replaying, last⟩ := recorder
  cases replaying <;> cases recording <;> simp [noteCount, revise, mergeCounts_none]

namespace Stays

variable {origin recorder : Recorder} {pane : Pane}

theorem replaying (stays : origin.Stays recorder) : recorder.replaying = origin.replaying := by
  induction stays with
  | refl => rfl
  | mark stays ih =>
      rw [← ih]
      unfold markChange revise
      split <;> rfl
  | cancel stays ih =>
      rw [← ih]
      unfold Recorder.cancel
      split <;> rfl

theorem marked (stays : origin.Stays recorder) (marks : Bool) : origin.Stays (recorder.marked marks) := by
  cases marks with
  | false => exact stays
  | true => exact stays.mark

theorem ite {p : Prop} [Decidable p] {a b : Pane} (yes : origin.Stays a.recorder) (no : origin.Stays b.recorder) :
    origin.Stays (if p then a else b).recorder := by
  split
  · exact yes
  · exact no

variable (stays : origin.Stays pane.recorder)
include stays

theorem insertText (pos : Position) (text : List Char) : origin.Stays (pane.insertText pos text).recorder := by
  unfold Pane.insertText Pane.beginChange
  split
  · exact stays
  · dsimp only
    split <;> exact stays.mark

theorem eraseRange (range : Range) : origin.Stays (pane.eraseRange range).recorder := by
  rw [Pane.recorder_eraseRange]
  exact stays.marked _

theorem replaceText (range : Range) (text : List Char) :
    origin.Stays (pane.replaceText range text).recorder := by
  unfold Pane.replaceText
  split
  · exact stays
  · exact (stays.eraseRange range).insertText range.start text

theorem foldl {α : Type} {f : Pane → α → Pane}
    (steps : ∀ {pane : Pane}, origin.Stays pane.recorder → ∀ x, origin.Stays (f pane x).recorder) (xs : List α) :
    origin.Stays (xs.foldl f pane).recorder := by
  induction xs generalizing pane with
  | nil => exact stays
  | cons x xs ih => exact ih (steps stays x)

section Editing

theorem operate (op : Operator) (span : Span) : origin.Stays (pane.operate op span).recorder := by
  rw [Pane.recorder_operate]
  exact stays.marked _

theorem operateOnLinesHere (op : Operator) (count : Nat) :
    origin.Stays (pane.operateOnLinesHere op count).recorder := stays.operate _ _

theorem operateOnCharsHere (op : Operator) (count : Nat) :
    origin.Stays (pane.operateOnCharsHere op count).recorder := stays.operate _ _

theorem reportMore (added : Nat) : origin.Stays (pane.reportMore added).recorder := by
  unfold Pane.reportMore
  split <;> exact stays

theorem putChars (reg : Register) (after : Bool) (count : Nat) :
    origin.Stays (pane.putChars reg after count).recorder := by
  unfold Pane.putChars
  dsimp only
  refine reportMore ?_ _
  split <;> exact stays.insertText _ _

theorem putLines (reg : Register) (after : Bool) (count : Nat) :
    origin.Stays (pane.putLines reg after count).recorder := by
  unfold Pane.putLines
  dsimp only
  refine reportMore ?_ _
  split
  · exact stays.insertText _ _
  · split <;> exact stays.insertText _ _

theorem putRow (col width count line : Nat) (row : List Char) :
    origin.Stays (pane.putRow col width count line row).recorder := by
  unfold Pane.putRow
  dsimp only
  split
  · exact ((stays.insertText _ _).insertText _ _).insertText _ _
  · exact (stays.insertText _ _).insertText _ _

theorem putRows (col width count line : Nat) (rows : List (List Char)) :
    origin.Stays (Pane.putRows col width count pane line rows).recorder := by
  induction rows generalizing pane line with
  | nil => exact stays
  | cons row rows ih => exact ih (stays.putRow col width count line row) _

theorem put (after : Bool) (count : Nat) : origin.Stays (pane.put after count).recorder := by
  have unnamed : origin.Stays (Pane.recorder { pane with register := none }) := stays
  unfold Pane.put
  dsimp only
  split
  · exact stays
  · split
    · exact stays
    · split
      · exact unnamed.putChars _ _ _
      · exact unnamed.putLines _ _ _
      · exact unnamed.putRows _ _ _ _ _

theorem openLine (below : Bool) : origin.Stays (pane.openLine below).recorder := by
  unfold Pane.openLine
  dsimp only
  split <;> exact stays.insertText _ _

theorem joinTimes (first count col : Nat) : origin.Stays (Pane.joinTimes first count pane col).1.recorder := by
  induction count generalizing pane col with
  | zero => exact stays
  | succ count ih => exact ih ((stays.eraseRange _).insertText _ _) _

theorem joinLines (first count : Nat) : origin.Stays (pane.joinLines first count).recorder := by
  unfold Pane.joinLines
  dsimp only
  split
  · exact stays
  · exact stays.joinTimes _ _ _

theorem toggleCase (count : Nat) : origin.Stays (pane.toggleCase count).recorder := by
  unfold Pane.toggleCase
  dsimp only
  split
  · exact stays
  · exact (stays.replaceText _ _).mark

theorem replaceChars (key : Key) (count : Nat) : origin.Stays (pane.replaceChars key count).recorder := by
  unfold Pane.replaceChars
  split
  · exact stays
  · dsimp only
    split
    · exact stays
    · split <;> exact (stays.eraseRange _).insertText _ _

theorem revisit (step : History → Buffer → Option Position × History × Buffer) (count : Nat) :
    origin.Stays (pane.revisit step count).recorder := by
  unfold Pane.revisit Pane.syncModified
  dsimp only
  split
  · split <;> exact stays
  · exact stays

theorem scroll (way : Scroll) (count : Option Nat) : origin.Stays (pane.scroll way count).recorder := by
  unfold Pane.scroll
  cases way with
  | lineUp =>
      dsimp only
      split <;> split <;> exact stays
  | _ =>
      dsimp only
      split <;> exact stays

end Editing

section Moving

theorem goTo (target : Target) : origin.Stays (pane.goTo target).recorder := by
  unfold Pane.goTo
  dsimp only
  split <;> exact stays

theorem move (motion : Motion) (count : Option Nat) : origin.Stays (pane.move motion count).recorder := by
  have looked := pane.recorder_resolve motion count false false
  unfold Pane.move
  split
  · rename_i target next found
    rw [found] at looked
    exact goTo (looked ▸ stays) target
  · rename_i next found
    rw [found] at looked
    exact looked ▸ stays

theorem operateByMotion (pending : PendingOperator) (motion : Motion) (count : Option Nat) :
    origin.Stays (pane.operateByMotion pending motion count).recorder := by
  have looked := pane.recorder_resolve (pane.motionFor pending.op motion).1 (mergeCounts pending.count count)
    true (pane.motionFor pending.op motion).2
  unfold Pane.operateByMotion
  dsimp only
  split
  · rename_i next found
    rw [found] at looked
    exact looked ▸ stays
  · rename_i target next found
    rw [found] at looked
    have stays : origin.Stays next.recorder := looked ▸ stays
    split
    · exact stays.operate _ _
    · split
      · exact stays.mark
      · exact stays

theorem moveOrOperate (op : Option PendingOperator) (motion : Motion) (count : Option Nat) :
    origin.Stays (pane.moveOrOperate op motion count).recorder := by
  cases op with
  | none => exact stays.move motion count
  | some pending => exact stays.operateByMotion pending motion count

theorem eraseCharsBefore (count : Nat) : origin.Stays (pane.eraseCharsBefore count).recorder := by
  unfold Pane.eraseCharsBefore
  dsimp only
  split
  · exact stays.operate _ _
  · exact stays

theorem appendHere (count : Nat) : origin.Stays (pane.appendHere count).recorder := by
  unfold Pane.appendHere
  dsimp only
  split <;> exact stays.mark

end Moving

section Selecting

theorem exitVisual : origin.Stays pane.exitVisual.recorder := by
  unfold Pane.exitVisual
  dsimp only
  split <;> exact stays

theorem selectObject (object : TextObject) : origin.Stays (pane.selectObject object).recorder := by
  unfold Pane.selectObject
  split
  · exact stays
  · split
    · exact stays
    · split <;> exact stays

theorem selectOrOperate (op : Option PendingOperator) (object : TextObject) :
    origin.Stays (pane.selectOrOperate op object).recorder := by
  unfold Pane.selectOrOperate
  split
  · exact stays.selectObject object
  · split
    · exact stays.operate _ _
    · exact stays

theorem operateOnBlock (op : Operator) (block : Block) (toLineEnd : Bool) :
    origin.Stays (pane.operateOnBlock op block toLineEnd).recorder := by
  have erased : ∀ pane : Pane, origin.Stays pane.recorder → origin.Stays (Pane.recorder
      ((linesBetween block.top block.bottom).foldl
        (fun pane line => pane.eraseRange (pane.blockRange block toLineEnd line)) pane)) :=
    fun pane stays => stays.foldl (fun stays line => stays.eraseRange _) _
  unfold Pane.operateOnBlock
  dsimp only
  split
  · split <;> exact stays
  · exact erased _ stays
  · exact mark (erased _ stays)

theorem operateOnSelection (op : Operator) : origin.Stays (pane.operateOnSelection op).recorder := by
  unfold Pane.operateOnSelection
  dsimp only
  split
  · exact stays
  · split
    · split <;> exact stays.exitVisual.operate _ _
    · split <;> exact stays.exitVisual.operate _ _
    · exact stays.exitVisual.operateOnBlock _ _ _

theorem toggleSelectionCase : origin.Stays pane.toggleSelectionCase.recorder := by
  unfold Pane.toggleSelectionCase
  split
  · exact stays
  · exact (foldl stays.exitVisual (fun stays range => stays.replaceText _ _) _).mark

theorem joinSelection : origin.Stays pane.joinSelection.recorder := stays.exitVisual.joinLines _ _

theorem insertAtSelection (append : Bool) : origin.Stays (pane.insertAtSelection append).recorder := by
  have dropped : origin.Stays pane.dropCount.recorder := stays
  have left := dropped.exitVisual
  unfold Pane.insertAtSelection
  dsimp only
  split
  · exact stays
  · split
    · split
      · exact (left.insertText _ _).mark
      · exact left.mark
    · exact left.mark
    · exact left.mark

end Selecting

section Executing

theorem submitSearch (text : List Char) (direction : Direction) (op : Option PendingOperator)
    (count : Option Nat) : origin.Stays (pane.submitSearch text direction op count).recorder := by
  unfold Pane.submitSearch
  split
  · exact stays
  · split
    · exact stays
    · rename_i pattern read
      have looked : (Pane.searchFrom { pane with search := .commit pattern direction } pattern pane.cursor.pos
          direction (count.getD 1)).2.recorder = pane.recorder := by
        obtain ⟨message, said⟩ := Pane.searchFrom_snd { pane with search := .commit pattern direction } pattern
          pane.cursor.pos direction (count.getD 1)
        rw [said]
      dsimp only
      split
      · rename_i next found
        rw [found] at looked
        exact looked ▸ stays
      · rename_i target next found
        rw [found] at looked
        have stays : origin.Stays next.recorder := looked ▸ stays
        split
        · exact stays.goTo target
        · split
          · exact stays.operate _ _
          · exact stays

theorem substituteLines (expr : Regex.Expr) (replacement : List Char) (flags : SubstituteFlags)
    (tally : Pane.Tally) (lines : List Nat) :
    origin.Stays (lines.foldl (Pane.substituteLine expr replacement flags) (pane, tally)).1.recorder := by
  induction lines generalizing pane tally with
  | nil => exact stays
  | cons line lines ih =>
      rw [List.foldl_cons, Pane.substituteLine]
      dsimp only
      split
      · exact ih stays tally
      · split
        · exact ih stays _
        · exact ih (stays.replaceText _ _) _

theorem concludeSubstitution (source : List Char) (flags : SubstituteFlags) (tally : Pane.Tally) :
    origin.Stays (pane.concludeSubstitution source flags tally).recorder := by
  unfold Pane.concludeSubstitution
  dsimp only
  split
  · exact stays
  · split
    · exact stays
    · split <;> exact stays.mark

theorem substitute (range : LineRange) (patternText replacement : List Char) (flags : SubstituteFlags) :
    origin.Stays (pane.substitute range patternText replacement flags).recorder := by
  unfold Pane.substitute
  split
  · exact stays
  · split
    · exact stays
    · split
      · exact stays
      · rename_i pattern read
        have ready : ∀ search last,
            origin.Stays (Pane.recorder { pane with search := search, lastSubstitute := last }) :=
          fun search last => stays
        exact concludeSubstitution ((ready _ _).substituteLines _ _ _ _ _) _ _ _

theorem execute (command : ExCommand) : origin.Stays (pane.execute command).recorder := by
  cases command with
  | quit =>
      unfold Pane.execute
      dsimp only
      split <;> exact stays
  | exitSave =>
      unfold Pane.execute
      dsimp only
      split <;> exact stays
  | set args =>
      unfold Pane.execute
      dsimp only
      split <;> exact stays
  | substitute range pattern replacement flags => exact stays.substitute _ _ _ _
  | repeatSubstitute range =>
      unfold Pane.execute
      dsimp only
      split
      · exact stays.substitute _ _ _ _
      · exact stays
  | _ => exact stays

theorem handlePromptKey (state : PromptState) (key : Key) :
    origin.Stays (pane.handlePromptKey state key).recorder := by
  unfold Pane.handlePromptKey
  split
  · exact stays
  · exact stays
  · have closed : origin.Stays (Pane.recorder { pane with prompt := none, mode := state.origin }) := stays
    unfold Pane.submit
    dsimp only
    split
    · exact closed.execute _
    · exact closed.submitSearch _ _ _ _

end Executing

section Typing

theorem typeChar (c : Char) : origin.Stays (pane.typeChar c).recorder := by
  unfold Pane.typeChar
  dsimp only
  refine insertText ?_ _ _
  split
  · exact stays.eraseRange _
  · exact stays

theorem joinWithPrevious : origin.Stays pane.joinWithPrevious.recorder := by
  unfold Pane.joinWithPrevious
  dsimp only
  split
  · exact stays
  · exact stays.eraseRange _

theorem eraseBack (col : Nat) : origin.Stays (pane.eraseBack col).recorder := stays.eraseRange _

theorem untype : origin.Stays pane.untype.recorder := stays

theorem backspaceInsert : origin.Stays pane.backspaceInsert.recorder :=
  ite stays.untype.joinWithPrevious (stays.untype.eraseBack _)

theorem backspaceReplace : origin.Stays pane.backspaceReplace.recorder := by
  unfold Pane.backspaceReplace
  dsimp only
  split
  · have revised := fun change => show origin.Stays (Pane.recorder (pane.untype.revise change)) from stays
    exact ite (revised _).joinWithPrevious (((revised _).eraseRange _).insertText _ _)
  · exact stays

theorem backspace : origin.Stays pane.backspace.recorder := by
  unfold Pane.backspace
  split
  · exact stays.backspaceReplace
  · exact stays.backspaceInsert

theorem eraseWord : origin.Stays pane.eraseWord.recorder := by
  unfold Pane.eraseWord
  dsimp only
  split
  · exact stays.backspace
  · exact stays.eraseRange _

theorem eraseLine : origin.Stays pane.eraseLine.recorder := by
  unfold Pane.eraseLine
  dsimp only
  split
  · exact stays.backspace
  · exact stays.eraseRange _

theorem eraseForward : origin.Stays pane.eraseForward.recorder := by
  unfold Pane.eraseForward
  dsimp only
  split
  · exact stays.eraseRange _
  · split
    · exact stays.eraseRange _
    · exact stays

theorem repeatForCount (session : InsertSession) : origin.Stays (pane.repeatForCount session).recorder := by
  unfold Pane.repeatForCount
  exact ite stays (ite stays (stays.insertText _ _))

theorem copyToLine (typed : List Char) (col : Nat) (append toLineEnd : Bool) (line : Nat) :
    origin.Stays (Pane.copyToLine typed col append toLineEnd pane line).recorder := by
  unfold Pane.copyToLine
  exact ite stays ((stays.insertText _ _).insertText _ _)

theorem copyToBlock (typed : List Char) (top bottom col : Nat) (append toLineEnd : Bool) :
    origin.Stays (pane.copyToBlock typed top bottom col append toLineEnd).recorder := by
  unfold Pane.copyToBlock
  split
  · exact stays
  · exact foldl stays (fun stays line => stays.copyToLine _ _ _ _ line) _

theorem endTyping : origin.Stays pane.endTyping.recorder := by
  have ended : origin.Stays (Pane.recorder { pane with insert := none, mode := .normal }) := stays
  unfold Pane.endTyping
  dsimp only
  split
  · exact stays
  · have repeated : ∀ session, origin.Stays (Pane.recorder
        (if pane.mode == .replace then { pane with insert := none, mode := .normal }
          else Pane.repeatForCount { pane with insert := none, mode := .normal } session)) := by
      intro session
      split
      · exact ended
      · exact ended.repeatForCount session
    split
    · exact (repeated _).copyToBlock _ _ _ _ _ _
    · exact repeated _

theorem handleTyping (key : Key) : origin.Stays (pane.handleTyping key).recorder := by
  unfold Pane.handleTyping
  split
  · exact stays.endTyping
  split
  · exact stays.backspace
  split
  · exact stays.eraseWord
  split
  · exact stays.eraseLine
  split
  case h_1 => exact stays.typeChar _
  case h_2 => exact stays.typeChar _
  case h_3 => exact stays.backspace
  case h_4 => exact stays.eraseForward
  case h_11 =>
    split
    · exact stays.typeChar _
    · exact stays
  all_goals exact stays

end Typing

end Stays

end Recorder

end ModalPanes
