import ModalPanes.Proofs.Pane.Editing
import ModalPanes.Proofs.Text.Standing

/-!
# Where commands end

Every command is made of edits and ends with the cursor in the text: most jump to where the cursor belongs,
and the others leave text and cursor alone.  Some go on typing from there.
-/

namespace ModalPanes

namespace Pane

/-- The cursor stands where it may. -/
def Placed (pastEnd : Bool) (pane : Pane) : Prop := pane.buffer.Admits pastEnd pane.cursor.pos

/-- A pane reached by edits, with the cursor where it may stand. -/
structure Lands (alphabet : Alphabet) (origin : Pane) (pastEnd : Bool) (pane : Pane) : Prop where
  edits : Edits alphabet origin pane
  placed : pane.Placed pastEnd

/-- Nothing has changed but what comes and goes, and the cursor has not moved. -/
structure Idles (pane next : Pane) : Prop where
  bare : next.bare = pane.bare
  pos : next.cursor.pos = pane.cursor.pos

/-- Normal mode with nothing half-typed, selected or asked for. -/
structure Quiet (pane : Pane) : Prop where
  mode : pane.mode = .normal
  prompt : pane.prompt = none
  pending : pane.pending = none
  insert : pane.insert = none
  anchor : pane.cursor.anchor = none

/-- Normal mode between commands. -/
structure AtRest (pane : Pane) : Prop extends Quiet pane where
  placed : pane.Placed false

/-- What a command comes to: it is done, or it goes on typing, if it is one that may. -/
inductive Ends (alphabet : Alphabet) (origin : Pane) (mayType : Prop) : Pane → Prop where
  | done {pane : Pane} (lands : Lands alphabet origin false pane) : Ends alphabet origin mayType pane
  | typing {pane : Pane} (may : mayType) (lands : Lands alphabet origin true pane)
      (kind : InsertKind) (count : Nat) :
      Ends alphabet origin mayType (pane.startInsert kind count)

variable {alphabet : Alphabet} {origin pane : Pane} {pastEnd : Bool}

theorem Ends.imp {mayType types : Prop} (ends : Ends alphabet origin mayType pane)
    (imp : mayType → types) : Ends alphabet origin types pane := by
  cases ends with
  | done lands => exact .done lands
  | typing may lands kind count => exact .typing (imp may) lands kind count

namespace Lands

theorem ite {next : Pane} (p : Prop) [Decidable p] (yes : Lands alphabet origin pastEnd pane)
    (no : Lands alphabet origin pastEnd next) :
    Lands alphabet origin pastEnd (if p then pane else next) := by
  split <;> assumption

theorem widen (lands : Lands alphabet origin false pane) (pastEnd : Bool) :
    Lands alphabet origin pastEnd pane :=
  ⟨lands.edits, lands.placed.widen pastEnd⟩

theorem tidy {next : Pane} (lands : Lands alphabet origin pastEnd pane) (idles : pane.Idles next) :
    Lands alphabet origin pastEnd next := by
  have buffer : next.buffer = pane.buffer := (congrArg Pane.buffer idles.bare :)
  refine ⟨lands.edits.tidy idles.bare, ?_⟩
  rw [Placed, buffer, idles.pos]
  exact lands.placed

theorem say (lands : Lands alphabet origin pastEnd pane) (text : List Char) :
    Lands alphabet origin pastEnd (pane.say text) :=
  lands.tidy ⟨rfl, rfl⟩

theorem fail (lands : Lands alphabet origin pastEnd pane) (text : List Char) :
    Lands alphabet origin pastEnd (pane.fail text) :=
  lands.tidy ⟨rfl, rfl⟩

theorem reportFewer (lands : Lands alphabet origin pastEnd pane) (before : Nat) :
    Lands alphabet origin pastEnd (pane.reportFewer before) := by
  unfold Pane.reportFewer
  dsimp only
  split
  · exact lands.say _
  · exact lands

theorem reportMore (lands : Lands alphabet origin pastEnd pane) (added : Nat) :
    Lands alphabet origin pastEnd (pane.reportMore added) := by
  unfold Pane.reportMore
  split
  · exact lands.say _
  · exact lands

theorem reportYanked (lands : Lands alphabet origin pastEnd pane) (lines : Nat) :
    Lands alphabet origin pastEnd (pane.reportYanked lines) := by
  unfold Pane.reportYanked
  split
  · exact lands.say _
  · exact lands

end Lands

namespace Edits

variable (edits : Edits alphabet origin pane)
include edits

theorem jump (pastEnd : Bool) (pos : Position) :
    Lands alphabet origin pastEnd (pane.jump pastEnd pos) :=
  ⟨edits.tidy rfl, Cursor.admits_jump _ _ _ _⟩

theorem jumpToLine (pastEnd : Bool) (line : Nat) :
    Lands alphabet origin pastEnd (pane.jumpToLine pastEnd line) :=
  ⟨edits.tidy (pane.jumpToLine_bare pastEnd line), Cursor.admits_toLine _ _ _ _⟩

theorem markChange : Edits alphabet origin pane.markChange := edits.tidy rfl

theorem say (text : List Char) : Edits alphabet origin (pane.say text) := edits.tidy rfl

theorem replaceText (range : Range) {text : List Char} (known : alphabet.Spells text) :
    Edits alphabet origin (pane.replaceText range text) := by
  unfold Pane.replaceText
  split
  · exact edits
  · exact (edits.erase range).insert range.start known

theorem swapCaseIn (range : Range) : Edits alphabet origin (swapCaseIn pane range) :=
  edits.replaceText range (Buffer.spells_slice edits.spelled.text range).swapCase

theorem operateOnChars (placed : pane.Placed false) (op : Operator) (range : Range)
    (register : Option Char) :
    Ends alphabet origin (op = .change) (pane.operateOnChars op range register) := by
  have text := Buffer.spells_slice edits.spelled.text range
  have stored : Edits alphabet origin (if (pane.buffer.slice range).isEmpty then pane
      else pane.store register .char (pane.buffer.slice range)) := by
    split
    · exact edits
    · exact edits.store register .char text
  unfold Pane.operateOnChars
  cases op with
  | yank => exact .done ((stored.jump false range.start).reportYanked _)
  | change => exact .typing rfl ((stored.erase range).jump true range.start) .plain 1
  | delete =>
      dsimp only at stored ⊢
      split
      · exact .done ⟨edits, placed⟩
      · rename_i filled
        rw [if_neg filled] at stored
        exact .done (((stored.erase range).jump false range.start).reportFewer _)

theorem operateOnLines (placed : pane.Placed false) (op : Operator) (first last : Nat)
    (register : Option Char) :
    Ends alphabet origin (op = .change) (pane.operateOnLines op first last register) := by
  have text : alphabet.Spells ((linesBetween first (min last pane.buffer.lastLine)).flatMap
      fun line => pane.buffer.line line ++ ['\n']) :=
    .flatMap fun line _ =>
      (Buffer.spells_line edits.spelled.text line).append (.cons alphabet.newline .nil)
  have stored := edits.store register .line text
  unfold Pane.operateOnLines
  cases op with
  | yank =>
      dsimp only
      split
      · exact .done ((stored.jump false _).reportYanked _)
      · exact .done (Lands.reportYanked ⟨stored, placed⟩ _)
  | change => exact .typing rfl ((stored.erase _).jump true _) .plain 1
  | delete =>
      have erased := fun range => (stored.erase range).jumpToLine false first
      dsimp only
      split
      · exact .done ((erased _).say _)
      · exact .done ((erased _).reportFewer _)

theorem operate (placed : pane.Placed false) (op : Operator) (span : Span) :
    Ends alphabet origin (op = .change) (pane.operate op span) := by
  have dropped : Edits alphabet origin { pane with register := none } := edits.tidy rfl
  unfold Pane.operate
  dsimp only
  split
  · exact dropped.operateOnLines placed op _ _ _
  · exact dropped.operateOnChars placed op _ _

theorem putChars {reg : Register} (known : alphabet.Spells reg.text) (after : Bool) (count : Nat) :
    Lands alphabet origin false (pane.putChars reg after count) := by
  have put := fun pos => edits.insert pos (known.repeatText count)
  unfold Pane.putChars
  dsimp only
  split
  · exact ((put _).jump false _).reportMore _
  · exact ((put _).jump false _).reportMore _

theorem putLines {reg : Register} (known : alphabet.Spells reg.text) (after : Bool) (count : Nat) :
    Lands alphabet origin false (pane.putLines reg after count) := by
  have body := known.repeatText count
  unfold Pane.putLines
  dsimp only
  refine Lands.reportMore (jumpToLine ?_ false _) _
  split
  · exact edits.insert _ body
  · split
    · exact edits.insert _ body
    · exact edits.insert _ (.cons alphabet.newline body.trimBreak)

theorem putRow (col width count line : Nat) {row : List Char} (known : alphabet.Spells row) :
    Edits alphabet origin (pane.putRow col width count line row) := by
  have written := (known.padRight width).repeatText count
  unfold Pane.putRow
  refine insert (insert ?_ _ (.replicate alphabet.space _)) _ ?_
  · split
    · exact edits.insert _ (.cons alphabet.newline .nil)
    · exact edits
  · have trimmed := written.trimEnd (· == ' ')
    split_ifs
    all_goals assumption

theorem putBlock {reg : Register} (known : alphabet.Spells reg.text) (after : Bool) (count : Nat) :
    Lands alphabet origin false (pane.putBlock reg after count) := by
  have put : ∀ (rows : List (List Char)) (pane : Pane) (line col width : Nat),
      Edits alphabet origin pane → (∀ row ∈ rows, alphabet.Spells row) →
        Edits alphabet origin (putRows col width count pane line rows) := by
    intro rows
    induction rows with
    | nil => exact fun _ _ _ _ edits _ => edits
    | cons row rows ih =>
        intro pane line col width edits known
        obtain ⟨knownRow, knownRows⟩ := List.forall_mem_cons.1 known
        exact ih _ _ _ _ (edits.putRow _ _ _ _ knownRow) knownRows
  exact (put _ _ _ _ _ edits (Registers.spells_rows known)).jump false _

theorem put (placed : pane.Placed false) (after : Bool) (count : Nat) :
    Lands alphabet origin false (pane.put after count) := by
  have dropped : Edits alphabet origin { pane with register := none } := edits.tidy rfl
  have known := edits.spelled.registers.get pane.register
  unfold Pane.put
  dsimp only
  split
  · exact Lands.fail ⟨dropped, placed⟩ _
  · split
    · exact Lands.fail ⟨dropped, placed⟩ _
    · split
      · exact dropped.putChars known after _
      · exact dropped.putLines known after _
      · exact dropped.putBlock known after _

theorem openLine (below : Bool) : Lands alphabet origin true (pane.openLine below) := by
  have newline : alphabet.Spells ['\n'] := .cons alphabet.newline .nil
  unfold Pane.openLine
  dsimp only
  split
  · exact (edits.insert _ newline).jump true _
  · exact (edits.insert _ newline).jump true _

theorem joinNext (first : Nat) : Edits alphabet origin (pane.joinNext first).1 := by
  unfold Pane.joinNext
  refine insert (edits.erase _) _ ?_
  unfold joint
  dsimp only
  split
  · exact .nil
  · split
    · exact .cons alphabet.space (.cons alphabet.space .nil)
    · exact .cons alphabet.space .nil

theorem joinTimes (first : Nat) : ∀ (count : Nat) (col : Nat),
    Edits alphabet origin (Pane.joinTimes first count pane col).1 := by
  intro count
  induction count generalizing pane with
  | zero => exact fun _ => edits
  | succ count ih => exact fun _ => ih (edits.joinNext first) _

theorem joinLines (placed : pane.Placed false) (first count : Nat) :
    Lands alphabet origin false (pane.joinLines first count) := by
  unfold Pane.joinLines
  dsimp only
  split
  · exact ⟨edits, placed⟩
  · exact (edits.joinTimes first _ _).jump false _

theorem toggleCase (placed : pane.Placed false) (count : Nat) :
    Lands alphabet origin false (pane.toggleCase count) := by
  unfold Pane.toggleCase
  dsimp only
  split
  · exact ⟨edits, placed⟩
  · exact (edits.swapCaseIn _).markChange.jump false _

theorem replaceChars (placed : pane.Placed false) (pending : pane.pending = none) {key : Key}
    (known : ∀ c ∈ replacement? key, alphabet.Has c) (count : Nat) :
    Lands alphabet origin false (pane.replaceChars key count) := by
  unfold Pane.replaceChars
  split
  · exact ⟨edits.tidy (by simp [bare, cancelCommand, pending]), placed⟩
  · rename_i c replacement
    dsimp only
    split
    · exact ⟨edits.tidy rfl, placed⟩
    · split
      · exact ((edits.erase _).insert _ (.cons alphabet.newline .nil)).jump false _
      · exact ((edits.erase _).insert _ (.replicate (known c replacement) _)).jump false _

/-- Scrolling moves the cursor only to lines of the buffer. -/
theorem scroll (placed : pane.Placed pastEnd) (mode : pane.mode.cursorPastEnd = false)
    (way : Scroll) (count : Option Nat) :
    Lands alphabet origin pastEnd (pane.scroll way count) := by
  have top := fun line => edits.tidy (pane.setTop_bare line)
  unfold Pane.scroll
  simp only [mode]
  cases way with
  | halfDown => exact .ite _ ⟨edits, placed⟩ (((top _).jumpToLine false _).widen pastEnd)
  | halfUp => exact .ite _ ⟨edits, placed⟩ (((top _).jumpToLine false _).widen pastEnd)
  | lineDown =>
      refine .ite _ (Lands.widen ?_ pastEnd) ⟨top _, placed⟩
      exact ⟨(top _).tidy (moveCursor_bare _ rfl), Cursor.admits_down _ _ _ _⟩
  | lineUp =>
      refine .ite _ (Lands.widen ?_ pastEnd) ⟨top _, placed⟩
      exact ⟨(top _).tidy (moveCursor_bare _ rfl), Cursor.admits_up _ placed.1 _⟩

theorem goTo (mode : origin.mode.cursorPastEnd = false) (target : Target) :
    Lands alphabet origin false (pane.goTo target) := by
  have jumped := edits.jump pane.mode.cursorPastEnd target.pos
  rw [edits.keeps.mode, mode] at jumped
  unfold Pane.goTo
  rw [edits.keeps.mode, mode]
  cases target.sticky with
  | keep => exact jumped.tidy ⟨rfl, rfl⟩
  | lineEnd => exact jumped.tidy ⟨rfl, rfl⟩
  | reset => exact jumped

end Edits

section Searching

variable (pane)

theorem searchFrom_idles (pattern : Pattern) (start : Position) (direction : Direction)
    (count : Nat) : pane.Idles (pane.searchFrom pattern start direction count).2 := by
  unfold searchFrom
  split
  · exact ⟨rfl, rfl⟩
  · exact ⟨rfl, rfl⟩

theorem searchAgain_idles (start : Position) (direction : Direction) (count : Option Nat) :
    pane.Idles (pane.searchAgain start direction count).2 := by
  unfold searchAgain
  split
  · exact ⟨rfl, rfl⟩
  · obtain ⟨bare, pos⟩ := searchFrom_idles { pane with search := pane.search.setHighlight true } _
      start direction (count.getD 1)
    exact ⟨bare, pos⟩

theorem searchWord_idles (direction : Direction) (count : Option Nat) :
    pane.Idles (pane.searchWord direction count).2 := by
  unfold searchWord
  split
  · exact ⟨rfl, rfl⟩
  · rename_i pattern _
    obtain ⟨bare, pos⟩ := searchAgain_idles { pane with search := .commit pattern direction }
      (pane.matchStart pattern) direction count
    exact ⟨bare, pos⟩

/-- Looking for the target of a motion moves nothing yet. -/
theorem resolve_idles (motion : Motion) (count : Option Nat) (operator changeWord : Bool) :
    pane.Idles (pane.resolve motion count operator changeWord).2 := by
  unfold resolve
  split
  · rename_i motion
    cases motion with
    | next => exact pane.searchAgain_idles _ _ _
    | previous => exact pane.searchAgain_idles _ _ _
    | wordForward => exact pane.searchWord_idles _ _
    | wordBackward => exact pane.searchWord_idles _ _
  · exact ⟨rfl, rfl⟩

/-- Where a search leads, whatever is said about it. -/
def found? (pattern : Pattern) (start : Position) (direction : Direction) (count : Nat) : Option Target :=
  (searchTimes pane.buffer pattern direction (max count 1) ⟨start, false⟩).map fun found =>
    ⟨found.pos, .exclusive, .reset⟩

theorem searchFrom_fst (pattern : Pattern) (start : Position) (direction : Direction) (count : Nat) :
    (pane.searchFrom pattern start direction count).1 = pane.found? pattern start direction count := by
  unfold searchFrom found?
  split <;> simp_all

theorem searchAgain_fst (start : Position) (direction : Direction) (count : Option Nat) :
    (pane.searchAgain start direction count).1 =
      pane.search.pattern.bind fun pattern => pane.found? pattern start direction (count.getD 1) := by
  unfold searchAgain
  cases pane.search.pattern with
  | none => rfl
  | some pattern => exact searchFrom_fst _ _ _ _ _

theorem searchWord_fst (direction : Direction) (count : Option Nat) :
    (pane.searchWord direction count).1 =
      (Pattern.ofWordAt? pane.buffer pane.cursor.pos).bind fun pattern =>
        pane.found? pattern (pane.matchStart pattern) direction (count.getD 1) := by
  unfold searchWord
  cases Pattern.ofWordAt? pane.buffer pane.cursor.pos with
  | none => rfl
  | some pattern => exact searchAgain_fst _ _ _ _

theorem goTo_bare (target : Target) : (pane.goTo target).bare = pane.bare := by
  unfold goTo
  cases target.sticky <;> rfl

theorem move_bare (motion : Motion) (count : Option Nat) :
    (pane.move motion count).bare = pane.bare := by
  have idles := pane.resolve_idles motion count false false
  unfold move
  split
  · rename_i target other found
    rw [found] at idles
    exact (other.goTo_bare target).trans idles.bare
  · rename_i other found
    rw [found] at idles
    exact idles.bare

theorem scroll_bare (way : Scroll) (count : Option Nat) :
    (pane.scroll way count).bare = pane.bare := by
  have either : ∀ (p : Prop) [Decidable p] {yes no : Pane}, yes.bare = pane.bare →
      no.bare = pane.bare → (if p then yes else no).bare = pane.bare := by
    intro p _ yes no yesBare noBare
    split <;> assumption
  have jumped := fun top line => ((pane.setTop top).jumpToLine_bare pane.mode.cursorPastEnd line).trans
    (pane.setTop_bare top)
  unfold scroll
  cases way with
  | halfDown => exact either _ rfl (jumped _ _)
  | halfUp => exact either _ rfl (jumped _ _)
  | lineDown => exact either _ ((moveCursor_bare _ rfl).trans (pane.setTop_bare _)) (pane.setTop_bare _)
  | lineUp => exact either _ ((moveCursor_bare _ rfl).trans (pane.setTop_bare _)) (pane.setTop_bare _)

end Searching

theorem Lands.move (lands : Lands alphabet origin pastEnd pane)
    (mode : origin.mode.cursorPastEnd = false) (motion : Motion) (count : Option Nat) :
    Lands alphabet origin pastEnd (pane.move motion count) := by
  have resolved := lands.tidy (pane.resolve_idles motion count false false)
  unfold Pane.move
  split
  · rename_i target other found
    rw [found] at resolved
    exact (resolved.edits.goTo mode target).widen pastEnd
  · rename_i other found
    rwa [found] at resolved

theorem Quiet.after (quiet : origin.Quiet) (lands : Lands alphabet origin false pane) :
    pane.AtRest := by
  have keeps := lands.edits.keeps
  exact
    { mode := keeps.mode.trans quiet.mode
      prompt := keeps.prompt.trans quiet.prompt
      pending := keeps.pending.trans quiet.pending
      insert := Option.isNone_iff_eq_none.1 (by simpa [quiet.insert] using keeps.insert)
      anchor := keeps.anchor.trans quiet.anchor
      placed := lands.placed }

namespace Quiet

variable (quiet : origin.Quiet) (lands : Lands alphabet origin false pane)
include quiet lands

theorem cancelCommand : Lands alphabet origin false pane.cancelCommand := by
  have pending := (quiet.after lands).pending
  exact lands.tidy ⟨by simp [bare, Pane.cancelCommand, pending], rfl⟩

theorem operateByMotion (pending : PendingOperator) (motion : Motion) (count : Option Nat) :
    Ends alphabet origin (pending.op = .change) (pane.operateByMotion pending motion count) := by
  have resolved := lands.tidy (pane.resolve_idles (pane.motionFor pending.op motion).1
    (mergeCounts pending.count count) true (pane.motionFor pending.op motion).2)
  unfold Pane.operateByMotion
  dsimp only
  split
  · rename_i other found
    rw [found] at resolved
    exact .done (quiet.cancelCommand resolved)
  · rename_i target other found
    rw [found] at resolved
    split
    · exact resolved.edits.operate resolved.placed _ _
    · have dropped : Lands alphabet origin false { other with register := none } :=
        resolved.tidy ⟨rfl, rfl⟩
      split
      · rename_i change
        exact .typing change (dropped.widen true) _ _
      · exact .done dropped

end Quiet

end Pane

end ModalPanes
