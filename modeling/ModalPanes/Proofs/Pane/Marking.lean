import ModalPanes.Proofs.Pane.Likeness.Commands

/-!
# What is recorded of a command

While a command is typed, the recorder has its keys without the digits, and the product of the counts that
were taken.  Running it adds at most the mark of a change, and only what the command reads of the pane decides
about that.  While a change is being replayed, nothing is noted but keys, and the last change stays.
-/

namespace ModalPanes

namespace Recorder

variable {origin recorder : Recorder} {keys : List Key} {count : Option Nat}

/-- The recorder has the keys of a command under way, the latest first, and its count. -/
inductive Notes (origin : Recorder) (keys : List Key) (count : Option Nat) : Recorder → Prop where
  | live (live : origin.replaying = false) :
      Notes origin keys count ⟨some ⟨keys, count, false⟩, false, origin.last⟩
  | replaying (replaying : origin.replaying = true) {recording : Option Recording}
      (unchanged : ∀ rec ∈ recording, rec.changed = false) :
      Notes origin keys count ⟨recording, true, origin.last⟩

/-- The recorder when a command has run that changes the text, or one that does not. -/
def marked (recorder : Recorder) (marks : Bool) : Recorder :=
  if marks then recorder.markChange else recorder

theorem markChange_marked (recorder : Recorder) (marks : Bool) :
    (recorder.marked marks).markChange = recorder.markChange := by
  obtain ⟨recording, replaying, last⟩ := recorder
  cases marks <;> cases replaying <;> cases recording <;> rfl

namespace Notes

theorem start (rests : origin.recording = none) : Notes origin [] none origin.start := by
  obtain ⟨recording, replaying, last⟩ := origin
  obtain rfl : recording = none := rests
  cases replaying with
  | false => exact .live rfl
  | true => exact .replaying rfl fun rec mem => Option.some.inj mem ▸ rfl

variable (notes : Notes origin keys count recorder)
include notes

theorem push (key : Key) : Notes origin (key :: keys) count (recorder.push key) := by
  cases notes with
  | live live => exact .live live
  | replaying replaying unchanged =>
      refine .replaying replaying fun rec mem => ?_
      obtain ⟨before, here, rfl⟩ := Option.map_eq_some_iff.1 (Option.mem_def.1 mem)
      exact unchanged before here

theorem dropDigit : Notes origin keys.tail count recorder.dropDigit := by
  cases notes with
  | live live => exact .live live
  | replaying replaying unchanged => exact .replaying replaying unchanged

theorem noteCount (more : Option Nat) :
    Notes origin keys (mergeCounts count more) (recorder.noteCount more) := by
  cases notes with
  | live live => exact .live live
  | replaying replaying unchanged => exact .replaying replaying unchanged

/-- Until the command is finished, the last change stays. -/
theorem last_marked (marks : Bool) : (recorder.marked marks).last = origin.last := by
  cases notes <;> cases marks <;> rfl

/-- A finished command is the last change if it changed the text. -/
theorem last_finish (marks : Bool) :
    (recorder.marked marks).finish.last =
      if origin.replaying || !marks || keys.isEmpty then origin.last else some ⟨keys.reverse, count⟩ := by
  cases notes with
  | live live =>
      rw [live]
      cases marks <;> cases keys <;> rfl
  | @replaying replaying recording unchanged =>
      rw [replaying, Bool.true_or, Bool.true_or, if_pos rfl]
      cases recording with
      | none => cases marks <;> rfl
      | some rec => cases marks <;> simp [marked, markChange, revise, finish, unchanged rec rfl]

end Notes

end Recorder

namespace Pane

open Recorder (Notes)

variable {a b pane : Pane}

/-- Whether there is anything in a range to take out. -/
def erases (pane : Pane) (range : Range) : Bool := pane.inside range.start != pane.inside range.stop

/-- Whether an operator on a span counts as a change of the text. -/
def marks (pane : Pane) (op : Operator) (span : Span) : Bool :=
  match op with
  | .yank => false
  | .change => true
  | .delete =>
      if span.linewise then
        pane.erases (wholeLines pane.buffer span.firstLine (min span.lastLine pane.buffer.lastLine))
      else !(pane.buffer.slice span.range).isEmpty && pane.erases span.range

theorem recorder_eraseRange (pane : Pane) (range : Range) :
    (pane.eraseRange range).recorder = pane.recorder.marked (pane.erases range) := by
  unfold eraseRange beginChange erases
  dsimp only
  split
  · rename_i same
    rw [same, bne_self_eq_false]
    rfl
  · rename_i differ
    rw [bne_iff_ne.2 differ]
    split <;> rfl

theorem recorder_reportFewer (pane : Pane) (before : Nat) :
    (pane.reportFewer before).recorder = pane.recorder := by
  unfold reportFewer
  dsimp only
  split <;> rfl

theorem recorder_reportYanked (pane : Pane) (lines : Nat) :
    (pane.reportYanked lines).recorder = pane.recorder := by
  unfold reportYanked
  split <;> rfl

theorem recorder_operateOnChars (pane : Pane) (op : Operator) (range : Range) (register : Option Char) :
    (pane.operateOnChars op range register).recorder = pane.recorder.marked (pane.marks op (.chars range)) := by
  unfold operateOnChars
  dsimp only
  obtain ⟨registers, stored⟩ : ∃ registers,
      (if (pane.buffer.slice range).isEmpty then pane
        else pane.store register .char (pane.buffer.slice range)) = { pane with registers := registers } := by
    split
    · exact ⟨pane.registers, rfl⟩
    · exact ⟨_, rfl⟩
  rw [stored]
  have erased := recorder_eraseRange { pane with registers := registers } range
  cases op with
  | yank => exact recorder_reportYanked _ _
  | change =>
      show Recorder.markChange (Pane.recorder (eraseRange _ range)) = pane.recorder.markChange
      rw [erased, Recorder.markChange_marked]
  | delete =>
      show _ = pane.recorder.marked (!(pane.buffer.slice range).isEmpty && pane.erases range)
      dsimp only
      split
      · rename_i empty
        rw [empty]
        rfl
      · rename_i some
        rw [Bool.not_eq_true] at some
        rw [recorder_reportFewer, some]
        exact erased

theorem recorder_operateOnLines (pane : Pane) (op : Operator) (span : Span) (linewise : span.linewise = true)
    (register : Option Char) :
    (pane.operateOnLines op span.firstLine span.lastLine register).recorder =
      pane.recorder.marked (pane.marks op span) := by
  unfold operateOnLines
  dsimp only
  generalize (linesBetween span.firstLine (min span.lastLine pane.buffer.lastLine)).flatMap _ = text
  have erased := recorder_eraseRange (pane.store register .line text)
  cases op with
  | yank =>
      refine (recorder_reportYanked _ _).trans ?_
      split <;> rfl
  | change =>
      show Recorder.markChange (Pane.recorder (eraseRange _ _)) = pane.recorder.markChange
      rw [erased, Recorder.markChange_marked]
      rfl
  | delete =>
      unfold marks
      dsimp only
      rw [if_pos linewise]
      have erased := erased (wholeLines pane.buffer span.firstLine (min span.lastLine pane.buffer.lastLine))
      split
      · exact erased
      · exact (recorder_reportFewer _ _).trans erased

theorem recorder_operate (pane : Pane) (op : Operator) (span : Span) :
    (pane.operate op span).recorder = pane.recorder.marked (pane.marks op span) := by
  unfold operate
  dsimp only
  split
  · rename_i linewise
    exact recorder_operateOnLines _ op span linewise _
  · rename_i chars
    obtain ⟨range, linewise⟩ := span
    obtain rfl : linewise = false := by simpa using chars
    exact recorder_operateOnChars _ op range _

theorem Alike.marks (alike : a.Alike b) (op : Operator) (span : Span) : a.marks op span = b.marks op span :=
  alike.same (·.marks op span) fun _ => rfl

theorem searchFrom_snd (pane : Pane) (pattern : Pattern) (start : Position) (direction : Direction) (count : Nat) :
    ∃ message, (pane.searchFrom pattern start direction count).2 = { pane with message := message } := by
  unfold searchFrom
  split <;> exact ⟨_, rfl⟩

theorem searchAgain_snd (pane : Pane) (start : Position) (direction : Direction) (count : Option Nat) :
    ∃ search message, (pane.searchAgain start direction count).2 =
      { pane with search := search, message := message } := by
  unfold searchAgain
  split
  · exact ⟨pane.search, _, rfl⟩
  · obtain ⟨message, eq⟩ := searchFrom_snd { pane with search := pane.search.setHighlight true } _ start direction
      (count.getD 1)
    exact ⟨_, message, eq⟩

theorem searchWord_snd (pane : Pane) (direction : Direction) (count : Option Nat) :
    ∃ search message, (pane.searchWord direction count).2 =
      { pane with search := search, message := message } := by
  unfold searchWord
  split
  · exact ⟨pane.search, _, rfl⟩
  · obtain ⟨search, message, eq⟩ := searchAgain_snd { pane with search := .commit _ direction } _ direction count
    exact ⟨search, message, eq⟩

/-- Looking for the target of a motion changes nothing but what is searched for and said. -/
theorem resolve_snd (pane : Pane) (motion : Motion) (count : Option Nat) (operator changeWord : Bool) :
    ∃ search message, (pane.resolve motion count operator changeWord).2 =
      { pane with search := search, message := message } := by
  cases motion with
  | search motion =>
      cases motion with
      | next => exact searchAgain_snd _ _ _ _
      | previous => exact searchAgain_snd _ _ _ _
      | wordForward => exact searchWord_snd _ _ _
      | wordBackward => exact searchWord_snd _ _ _
  | _ => exact ⟨pane.search, pane.message, rfl⟩

theorem recorder_resolve (pane : Pane) (motion : Motion) (count : Option Nat) (operator changeWord : Bool) :
    (pane.resolve motion count operator changeWord).2.recorder = pane.recorder := by
  obtain ⟨search, message, eq⟩ := pane.resolve_snd motion count operator changeWord
  rw [eq]

/-- On the way to the same target, an operator marks the same. -/
theorem Alike.recorders_operateByMotion (alike : a.Alike b) (pending : PendingOperator) {motion : Motion}
    {count : Option Nat}
    (leads : Leads
      (a.resolve (a.motionFor pending.op motion).1 (mergeCounts pending.count count) true
        (a.motionFor pending.op motion).2)
      (b.resolve (a.motionFor pending.op motion).1 (mergeCounts pending.count count) true
        (a.motionFor pending.op motion).2)) :
    ∃ marks, (a.operateByMotion pending motion count).recorder = a.recorder.marked marks ∧
      (b.operateByMotion pending motion count).recorder = b.recorder.marked marks := by
  have here := a.recorder_resolve (a.motionFor pending.op motion).1 (mergeCounts pending.count count) true
    (a.motionFor pending.op motion).2
  have there := b.recorder_resolve (a.motionFor pending.op motion).1 (mergeCounts pending.count count) true
    (a.motionFor pending.op motion).2
  unfold Pane.operateByMotion
  dsimp only
  rw [← alike.same (·.motionFor pending.op motion) fun _ => rfl, ← alike.same (·.cursor.pos) fun _ => rfl]
  revert here there
  refine leads.elim (fun next other moved here there => ?_) fun target next other moved here there => ?_
  · exact ⟨false, here, there⟩
  · dsimp only at here there ⊢
    rw [← here, ← there, ← moved.same (fun pane => target.span? pane.buffer _) fun _ => rfl]
    split
    · rename_i span found
      exact ⟨next.marks pending.op span, next.recorder_operate _ _,
        moved.marks pending.op span ▸ other.recorder_operate _ _⟩
    · split
      · exact ⟨true, rfl, rfl⟩
      · exact ⟨false, rfl, rfl⟩

theorem Alike.recorders_operateOnLinesHere (alike : a.Alike b) (op : Operator) (count : Nat) :
    ∃ marks, (a.operateOnLinesHere op count).recorder = a.recorder.marked marks ∧
      (b.operateOnLinesHere op count).recorder = b.recorder.marked marks := by
  unfold Pane.operateOnLinesHere
  dsimp only
  rw [← alike.same (·.cursor.pos.line) fun _ => rfl, ← alike.same (·.buffer.lastLine) fun _ => rfl]
  exact ⟨_, a.recorder_operate _ _, alike.marks op _ ▸ b.recorder_operate _ _⟩

end Pane

end ModalPanes
