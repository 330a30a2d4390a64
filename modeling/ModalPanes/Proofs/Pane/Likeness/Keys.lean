import ModalPanes.Proofs.Pane.Likeness.Commands
import ModalPanes.Proofs.Pane.Repeating

/-!
# Keys in panes that are alike

A key does the same in two panes that are alike, unless its command looks back at what they need not share:
at the history, at the view, or at the last change.  Recording a key and settling after it change nothing but
that, so that a key that is handed out and a key that is typed leave panes that are alike.
-/

namespace ModalPanes

/-- Commands that look at the history, at the view or at the last change. -/
def Command.looksBack : Command → Bool
  | .motion way => way.isOnScreen
  | .undo | .redo | .repeatChange | .scroll _ => true
  | _ => false

/-- The motions that start with `g` do not go to a row of the screen. -/
theorem Keymap.looksBack_afterG {key : Key} {motion : Motion}
    (found : Keymap.find? Keymap.afterG key = some (.motion motion)) : motion.isOnScreen = false := by
  have table : ∀ entry ∈ Keymap.afterG, entry.2.looksBack = false := by decide
  obtain ⟨front, back, eq, -⟩ := List.lookup_eq_some_iff.1 found
  exact table (Keymap.foldShift key, .motion motion) (by simp [eq])

namespace Pane

variable {a b c pane : Pane}

/-- Whether a key is taken for a command that looks back. -/
def looksBack (pane : Pane) (key : Key) : Bool :=
  pane.prompt.isNone &&
    match pane.pending, pane.mode with
    | some (.operator _), _ => (Keymap.find? Keymap.motions key).any Command.looksBack
    | some _, _ => false
    | none, .normal => (Keymap.findOrMotion? Keymap.normal key).any Command.looksBack
    | none, .visual _ => (Keymap.findOrMotion? Keymap.visual key).any Command.looksBack
    | none, _ => false

theorem runsRepeat_eq_false {key : Key} (ahead : pane.looksBack key = false) :
    pane.runsRepeat key = false := by
  unfold runsRepeat
  unfold looksBack at ahead
  by_contra repeats
  simp only [Bool.not_eq_false, Bool.and_eq_true, Option.isNone_iff_eq_none, beq_iff_eq] at repeats
  obtain ⟨⟨⟨⟨prompt, mode⟩, waits⟩, -⟩, found⟩ := repeats
  simp [prompt, mode, waits, found, Command.looksBack] at ahead

/-- Only the product of its two counts matters to an operator. -/
theorem operateByMotion_merged (pane : Pane) (pending : PendingOperator) (motion : Motion)
    (count : Option Nat) :
    pane.operateByMotion pending motion count =
      pane.operateByMotion ⟨pending.op, none⟩ motion (mergeCounts pending.count count) := by
  unfold operateByMotion
  rw [show mergeCounts none (mergeCounts pending.count count) = mergeCounts pending.count count from by
    cases mergeCounts pending.count count <;> rfl]

namespace Alike

section Counting

variable (alike : a.Alike b)
include alike

theorem withCount {run : Pane → Option Nat → Pane}
    (runs : ∀ {a b : Pane}, a.Alike b → ∀ count, (run a count).Alike (run b count)) :
    (a.withCount run).Alike (b.withCount run) := by
  unfold Pane.withCount
  rw [alike.same (·.takeCount.1) fun _ => rfl]
  exact runs (alike.through (·.takeCount.2) fun _ => ⟨rfl⟩) _

theorem withTimes {run : Pane → Nat → Pane}
    (runs : ∀ {a b : Pane}, a.Alike b → ∀ count, (run a count).Alike (run b count)) :
    (a.withTimes run).Alike (b.withTimes run) :=
  alike.withCount fun alike count => runs alike (count.getD 1)

theorem pushDigit (digit : Nat) : (a.pushDigit digit).Alike (b.pushDigit digit) :=
  alike.through (·.pushDigit digit) fun _ => ⟨rfl⟩

theorem cancelRecording : a.cancelRecording.Alike b.cancelRecording :=
  alike.through (·.cancelRecording) fun _ => ⟨rfl⟩

end Counting

section Operators

/-- What an operator does depends on the product of the counts in front of it and behind it. -/
theorem withMerged (alike : a.dropCount.Alike b.dropCount) {first second : Option Nat}
    (total : mergeCounts first a.count = mergeCounts second b.count) {run : Pane → Option Nat → Pane}
    (runs : ∀ {a b : Pane}, a.Alike b → ∀ count, (run a count).Alike (run b count)) :
    (a.withCount fun pane count => run pane (mergeCounts first count)).Alike
      (b.withCount fun pane count => run pane (mergeCounts second count)) := by
  unfold Pane.withCount
  dsimp only [takeCount]
  rw [total]
  refine runs ?_ _
  have taken : ∀ pane : Pane,
      Alike { pane with count := none, recorder := pane.recorder.noteCount pane.count } pane.dropCount :=
    fun _ => ⟨rfl⟩
  exact (taken a).trans (alike.trans (taken b).symm)

theorem operateByTable (alike : a.dropCount.Alike b.dropCount) {p q : PendingOperator} (op : p.op = q.op)
    (total : mergeCounts p.count a.count = mergeCounts q.count b.count) {key : Key}
    (ahead : (Keymap.find? Keymap.motions key).any Command.looksBack = false) :
    Alike
      (match Keymap.find? Keymap.motions key with
        | some (.motion motion) => a.withCount fun pane count => pane.operateByMotion p motion count
        | some (.awaitFind find) => a.withCount fun pane count =>
            pane.await (.find find (some ⟨p.op, none⟩) (mergeCounts p.count count))
        | some .awaitG => a.withCount fun pane count =>
            pane.await (.g (some ⟨p.op, none⟩) (mergeCounts p.count count))
        | _ => a.cancelCommand)
      (match Keymap.find? Keymap.motions key with
        | some (.motion motion) => b.withCount fun pane count => pane.operateByMotion q motion count
        | some (.awaitFind find) => b.withCount fun pane count =>
            pane.await (.find find (some ⟨q.op, none⟩) (mergeCounts q.count count))
        | some .awaitG => b.withCount fun pane count =>
            pane.await (.g (some ⟨q.op, none⟩) (mergeCounts q.count count))
        | _ => b.cancelCommand) := by
  rw [op]
  split
  · rename_i motion found
    rw [found] at ahead
    simp only [operateByMotion_merged _ p, operateByMotion_merged _ q, op]
    exact withMerged alike total fun alike count => alike.operateByMotion ⟨q.op, none⟩ ahead count
  · exact withMerged alike total fun alike count => alike.await (.find _ _ count)
  · exact withMerged alike total fun alike count => alike.await (.g _ count)
  · exact alike.cancelCommand

/-- The key behind an operator, unless it is one more digit or the start of a text object. -/
theorem operateByKey (alike : a.dropCount.Alike b.dropCount) {p q : PendingOperator} (op : p.op = q.op)
    (total : mergeCounts p.count a.count = mergeCounts q.count b.count) {key : Key}
    (left : key.countDigit? a.count.isSome = none) (right : key.countDigit? b.count.isSome = none)
    (object : ∀ c ∈ key.typed?, ¬ (c = 'i' ∨ c = 'a'))
    (ahead : (Keymap.find? Keymap.motions key).any Command.looksBack = false) :
    (a.handleOperatorKey p key).Alike (b.handleOperatorKey q key) := by
  have byTable := operateByTable alike op total ahead
  unfold Pane.handleOperatorKey Pane.acceptDigit?
  rw [left, right, op] at *
  dsimp only [Option.map_none]
  split
  · exact byTable
  · rename_i c typed
    rw [if_neg (object c typed), if_neg (object c typed)]
    refine .ite .rfl ?_ (.ite .rfl ?_ (.ite .rfl ?_ byTable))
    · exact withMerged alike total fun alike count => alike.operateOnLinesHere q.op (count.getD 1)
    · exact withMerged alike total fun alike count => alike.openPrompt (.search .forward) [] _ count
    · exact withMerged alike total fun alike count => alike.openPrompt (.search .backward) [] _ count

end Operators

section Pending

variable (alike : a.Alike b)
include alike

theorem moveOrOperate (op : Option PendingOperator) {motion : Motion}
    (other : motion.isOnScreen = false) (count : Option Nat) :
    (a.moveOrOperate op motion count).Alike (b.moveOrOperate op motion count) := by
  cases op with
  | none => exact alike.move other count
  | some pending => exact alike.operateByMotion pending other count

theorem selectOrOperate (op : Option PendingOperator) (object : TextObject) :
    (a.selectOrOperate op object).Alike (b.selectOrOperate op object) := by
  cases op with
  | none => exact alike.selectObject object
  | some pending =>
      unfold Pane.selectOrOperate
      dsimp only
      rw [alike.same (fun pane => object.span? pane.buffer pane.cursor.pos)
        fun pane => (object.span?_unmarked pane.buffer pane.cursor.pos).symm]
      split
      · exact alike.operate _ _
      · exact alike.cancelCommand

theorem handleOperatorKey (pending : PendingOperator) {key : Key}
    (ahead : (Keymap.find? Keymap.motions key).any Command.looksBack = false) :
    (a.handleOperatorKey pending key).Alike (b.handleOperatorKey pending key) := by
  have count := alike.same (·.count) fun _ => rfl
  cases digit : key.countDigit? b.count.isSome with
  | some digit' =>
      unfold Pane.handleOperatorKey Pane.acceptDigit?
      rw [show a.count = b.count from count, digit]
      exact (alike.pushDigit digit').await _
  | none =>
      by_cases object : ∃ c ∈ key.typed?, c = 'i' ∨ c = 'a'
      · obtain ⟨c, typed, starts⟩ := object
        unfold Pane.handleOperatorKey Pane.acceptDigit?
        rw [show a.count = b.count from count, digit, show key.typed? = some c from typed]
        dsimp only [Option.map_none]
        refine .ite .rfl ?_ ?_
        · exact alike.withCount fun alike count =>
            alike.operateOnLinesHere pending.op ((mergeCounts pending.count count).getD 1)
        · rw [if_pos starts, if_pos starts]
          exact alike.await _
      · refine operateByKey alike.dropCount rfl (by rw [count]) ?_ digit ?_ ahead
        · rw [count]
          exact digit
        · exact fun c typed starts => object ⟨c, typed, starts⟩

theorem handlePending (pending : Pending) {key : Key}
    (ahead : ∀ op, pending = .operator op →
      (Keymap.find? Keymap.motions key).any Command.looksBack = false) :
    (a.handlePending pending key).Alike (b.handlePending pending key) := by
  have ready : Alike { a with pending := none } { b with pending := none } :=
    alike.through (fun pane => { pane with pending := none }) fun _ => ⟨rfl⟩
  unfold Pane.handlePending
  refine .ite .rfl ready.cancelCommand ?_
  unfold Pane.completePending
  cases pending with
  | register =>
      dsimp only
      split
      · rename_i name typed
        exact ready.through (fun pane => { pane with register := some name }) fun _ => ⟨rfl⟩
      · exact ready.cancelCommand
  | g op count =>
      dsimp only
      split
      · rename_i motion found
        exact ready.moveOrOperate op (Keymap.looksBack_afterG found) count
      · exact ready.cancelCommand
  | z =>
      dsimp only
      split
      · exact ready.execute _
      · exact ready.execute _
      · exact ready.cancelCommand
  | find find op count =>
      dsimp only
      split
      · rename_i c typed
        have found := ready.through (fun pane => { pane with lastFind := some (find, c) }) fun _ => ⟨rfl⟩
        exact found.moveOrOperate op rfl count
      · exact ready.cancelCommand
  | replace count => exact ready.replaceChars key _
  | operator op => exact ready.handleOperatorKey op (ahead op rfl)
  | object op around =>
      dsimp only
      split
      · exact ready.selectOrOperate op _
      · exact ready.cancelCommand

end Pending

section Running

variable (alike : a.Alike b)
include alike

theorem operateOnCharsHere (op : Operator) (count : Nat) :
    (a.operateOnCharsHere op count).Alike (b.operateOnCharsHere op count) := by
  refine alike.through (·.operateOnCharsHere op count) fun pane => ?_
  unfold Pane.operateOnCharsHere
  exact pane.alike_core.operate op _

theorem eraseCharsBefore (count : Nat) : (a.eraseCharsBefore count).Alike (b.eraseCharsBefore count) := by
  refine alike.through (·.eraseCharsBefore count) fun pane => ?_
  have same := pane.alike_core
  unfold Pane.eraseCharsBefore
  exact .ite .rfl (same.operate .delete _) same

theorem appendHere (count : Nat) : (a.appendHere count).Alike (b.appendHere count) := by
  refine alike.through (·.appendHere count) fun pane => ?_
  have same := pane.alike_core
  exact Alike.startInsert (.ite .rfl (same.jump true _) same) .plain count

theorem startInsertAt (move : Buffer → Cursor → Cursor)
    (reads : ∀ buf : Buffer, move buf.unmarked = move buf) (count : Nat) :
    ((a.moveCursor (move a.buffer)).startInsert .plain count).Alike
      ((b.moveCursor (move b.buffer)).startInsert .plain count) := by
  rw [show move a.buffer = move b.buffer from
    alike.same (fun pane => move pane.buffer) fun pane => (reads pane.buffer).symm]
  exact (alike.moveCursor _).startInsert .plain count

theorem runNormal {command : Command} (ahead : command.looksBack = false) :
    (a.runNormal command).Alike (b.runNormal command) := by
  cases command with
  | motion motion => exact alike.withCount fun alike count => alike.move ahead count
  | awaitFind find => exact alike.withCount fun alike count => alike.await (.find find none count)
  | operator op => exact alike.withCount fun alike count => alike.await (.operator ⟨op, count⟩)
  | awaitReplace => exact alike.withCount fun alike count => alike.await (.replace count)
  | awaitG => exact alike.withCount fun alike count => alike.await (.g none count)
  | awaitRegister => exact alike.await _
  | awaitZ => exact alike.dropCount.await _
  | insert => exact alike.withTimes fun alike n => alike.startInsert .plain n
  | append => exact alike.withTimes fun alike n => alike.appendHere n
  | insertAtLineStart =>
      exact alike.withTimes fun alike n =>
        alike.startInsertAt (fun buf cursor => cursor.toFirstNonBlank buf true) (fun _ => rfl) n
  | appendAtLineEnd =>
      exact alike.withTimes fun alike n =>
        alike.startInsertAt (fun buf cursor => cursor.toLineEnd buf true) (fun _ => rfl) n
  | openBelow => exact alike.withTimes fun alike n => (alike.openLine true).startInsert .openLine n
  | openAbove => exact alike.withTimes fun alike n => (alike.openLine false).startInsert .openLine n
  | deleteChar => exact alike.withTimes fun alike n => alike.operateOnCharsHere .delete n
  | substituteChar => exact alike.withTimes fun alike n => alike.operateOnCharsHere .change n
  | deleteCharBefore => exact alike.withTimes fun alike n => alike.eraseCharsBefore n
  | substituteLine => exact alike.withTimes fun alike n => alike.operateOnLinesHere .change n
  | yankLine => exact alike.withTimes fun alike n => alike.operateOnLinesHere .yank n
  | deleteToEnd =>
      have onLine : Motion.lineEnd.isOnScreen = false := rfl
      exact alike.withCount fun alike count => alike.operateByMotion ⟨.delete, count⟩ onLine none
  | changeToEnd =>
      have onLine : Motion.lineEnd.isOnScreen = false := rfl
      exact alike.withCount fun alike count => alike.operateByMotion ⟨.change, count⟩ onLine none
  | putAfter => exact alike.withTimes fun alike n => alike.put true n
  | putBefore => exact alike.withTimes fun alike n => alike.put false n
  | joinLines =>
      have joins : ∀ {a b : Pane}, a.Alike b → ∀ count : Option Nat,
          (a.joinLines a.cursor.pos.line (count.getD 2)).Alike
            (b.joinLines b.cursor.pos.line (count.getD 2)) := fun {a b} alike count => by
        rw [alike.same (·.cursor.pos.line) fun _ => rfl]
        exact alike.joinLines _ _
      exact alike.withCount joins
  | toggleCase => exact alike.withTimes fun alike n => alike.toggleCase n
  | replaceMode => exact alike.withTimes fun alike n => alike.beginTyping .replace .plain n
  | visual kind => exact alike.dropCount.enterVisual kind
  | commandLine => exact alike.cancelCommand.cancelRecording.openPrompt .command [] none none
  | search direction =>
      unfold Pane.runNormal withUnrecordedCount
      dsimp only
      rw [alike.same (·.count) fun _ => rfl]
      exact alike.dropCount.cancelRecording.openPrompt (.search direction) [] none _
  | exitSave => exact alike.execute .exitSave
  | forceQuit => exact alike.execute .forceQuit
  | escape => exact alike.cancelCommand
  | swapSelectionEnds => exact alike.cancelCommand
  | blockInsert => exact alike.cancelCommand
  | blockAppend => exact alike.cancelCommand
  | undo => contradiction
  | redo => contradiction
  | repeatChange => contradiction
  | scroll way => contradiction

theorem runVisual (kind : VisualKind) {command : Command} (ahead : command.looksBack = false) :
    (a.runVisual kind command).Alike (b.runVisual kind command) := by
  unfold Pane.runVisual
  split
  · exact alike.withCount fun alike count => alike.move ahead count
  · exact alike.withCount fun alike count => alike.await (.find _ none count)
  · exact alike.withCount fun alike count => alike.await (.g none count)
  · exact alike.await _
  · exact alike.dropCount.operateOnSelection _
  · exact alike.dropCount.toggleSelectionCase
  · exact alike.dropCount.joinSelection
  · exact alike.moveCursor _
  · exact alike.insertAtSelection false
  · exact alike.insertAtSelection true
  · exact .ite .rfl alike.dropCount.exitVisual (alike.dropCount.withMode _)
  · exact alike.dropCount.exitVisual.cancelRecording.openPrompt .command _ none none
  · contradiction
  · exact alike.cancelCommand.exitVisual
  · exact alike.cancelCommand

theorem handleVisual (kind : VisualKind) {key : Key} (prompt : a.prompt = none)
    (mode : a.mode = .visual kind) (ahead : a.looksBack key = false) :
    (a.handleVisual kind key).Alike (b.handleVisual kind key) := by
  unfold Pane.looksBack at ahead
  rw [prompt, mode] at ahead
  unfold Pane.handleVisual Pane.acceptDigit?
  rw [← alike.same (·.pending) fun _ => rfl, ← alike.same (·.count) fun _ => rfl]
  cases waits : a.pending with
  | some pending =>
      refine alike.handlePending pending fun op eq => ?_
      simpa [waits, eq] using ahead
  | none =>
      cases key.countDigit? a.count.isSome with
      | some digit => exact alike.pushDigit digit
      | none =>
          dsimp only [Option.map_none]
          refine .ite .rfl (alike.dropCount.await _) ?_
          cases found : Keymap.findOrMotion? Keymap.visual key with
          | some command => exact alike.runVisual kind (by simpa [waits, found] using ahead)
          | none => exact alike.cancelCommand

theorem handleNormal {key : Key} (prompt : a.prompt = none) (mode : a.mode = .normal)
    (ahead : a.looksBack key = false) :
    ∃ next other, (∀ again, Pane.handleNormal again key a = some next) ∧
      (∀ again, Pane.handleNormal again key b = some other) ∧ next.Alike other := by
  unfold Pane.looksBack at ahead
  rw [prompt, mode] at ahead
  unfold Pane.handleNormal Pane.acceptDigit?
  rw [← alike.same (·.pending) fun _ => rfl, ← alike.same (·.count) fun _ => rfl]
  cases waits : a.pending with
  | some pending =>
      refine ⟨_, _, fun _ => rfl, fun _ => rfl, alike.handlePending pending fun op eq => ?_⟩
      simpa [waits, eq] using ahead
  | none =>
      cases key.countDigit? a.count.isSome with
      | some digit => exact ⟨_, _, fun _ => rfl, fun _ => rfl, alike.pushDigit digit⟩
      | none =>
          cases found : Keymap.findOrMotion? Keymap.normal key with
          | none => exact ⟨_, _, fun _ => rfl, fun _ => rfl, alike.cancelCommand⟩
          | some command =>
              have onward : command.looksBack = false := by simpa [waits, found] using ahead
              have ordinary : command ≠ .repeatChange := by
                rintro rfl
                contradiction
              refine ⟨a.runNormal command, b.runNormal command, fun again => ?_, fun again => ?_,
                alike.runNormal onward⟩
              · dsimp only [Option.map_none]
                split <;> simp_all
              · dsimp only [Option.map_none]
                split <;> simp_all

/-- A key that does not look back is handed out, and leaves panes that are alike. -/
theorem dispatchWith {key : Key} (ahead : a.looksBack key = false) :
    ∃ next other, (∀ again, Pane.dispatchWith again key a = some next) ∧
      (∀ again, Pane.dispatchWith again key b = some other) ∧ next.Alike other := by
  unfold Pane.dispatchWith
  rw [← alike.same (·.prompt) fun _ => rfl, ← alike.same (·.mode) fun _ => rfl]
  cases prompt : a.prompt with
  | some state => exact ⟨_, _, fun _ => rfl, fun _ => rfl, alike.handlePromptKey state key⟩
  | none =>
      cases mode : a.mode with
      | normal => exact alike.handleNormal prompt mode ahead
      | insert => exact ⟨_, _, fun _ => rfl, fun _ => rfl, alike.handleTyping key⟩
      | replace => exact ⟨_, _, fun _ => rfl, fun _ => rfl, alike.handleTyping key⟩
      | visual kind => exact ⟨_, _, fun _ => rfl, fun _ => rfl, alike.handleVisual kind prompt mode ahead⟩
      | commandLine => exact ⟨_, _, fun _ => rfl, fun _ => rfl, alike.closePrompt .normal⟩

end Running

theorem record (key : Key) (pane : Pane) : (pane.record key).Alike pane := ⟨rfl⟩

theorem settle (pane : Pane) : pane.settle.Alike pane := by
  unfold Pane.settle syncModified
  dsimp only
  refine ⟨?_⟩
  split <;> split <;> split <;> rfl

theorem handled {key : Key} {next : Pane}
    (handed : ∀ again, Pane.dispatchWith again key (a.record key) = some next) :
    (a.handleKey key).Alike next := handleKey_of_handed handed ▸ settle next

/-- Handing a key out in one of two panes that are alike and typing it in the other leaves them alike. -/
theorem handleKey {key : Key} (alike : a.Alike b) (ahead : a.looksBack key = false) :
    ∃ next, (∀ again, Pane.dispatchWith again key a = some next) ∧ next.Alike (b.handleKey key) := by
  have recorded : a.Alike (b.record key) := alike.trans (record key b).symm
  obtain ⟨next, other, handed, typed, same⟩ := recorded.dispatchWith ahead
  exact ⟨next, handed, same.trans (handled typed).symm⟩

end Alike

end Pane

end ModalPanes
