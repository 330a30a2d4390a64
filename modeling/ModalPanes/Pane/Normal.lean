import ModalPanes.Pane.Executing
import ModalPanes.Pane.Selection

/-!
# Normal mode

A command is `["x] [count] operator [count] motion` or a single key with a count in front of it.  Digits
build the count; a key that needs another one to be complete leaves a pending state, and the next key
completes it.  Pending states are shared with Visual mode.
-/

namespace ModalPanes

/-- The digit that a key adds to a count: a zero only extends one. -/
def Key.countDigit? (key : Key) (counting : Bool) : Option Nat :=
  key.typed?.bind fun c =>
    if '1' ≤ c ∧ c ≤ '9' ∨ c = '0' ∧ counting then some (c.toNat - '0'.toNat) else none

namespace Pane

variable (pane : Pane)

/-- Add a digit to the count. -/
def pushDigit (digit : Nat) : Pane :=
  { pane with
    count := some (Numeral.saturate (pane.count.getD 0 * 10 + digit))
    recorder := pane.recorder.dropDigit }

/-- Take the key as a digit of the count, if it is one. -/
def acceptDigit? (key : Key) : Option Pane :=
  (key.countDigit? pane.count.isSome).map pane.pushDigit

/-- Run a command with the count, which it takes. -/
def withCount (run : Pane → Option Nat → Pane) : Pane := run pane.takeCount.2 pane.takeCount.1

/-- Run a command a number of times: as often as the count says, or once. -/
def withTimes (run : Pane → Nat → Pane) : Pane :=
  pane.withCount fun pane count => run pane (count.getD 1)

def moveOrOperate (op : Option PendingOperator) (motion : Motion) (count : Option Nat) : Pane :=
  match op with
  | some pending => pane.operateByMotion pending motion count
  | none => pane.move motion count

def selectOrOperate (op : Option PendingOperator) (object : TextObject) : Pane :=
  match op with
  | none => pane.selectObject object
  | some pending =>
      match object.span? pane.buffer pane.cursor.pos with
      | some span => pane.operate pending.op span
      | none => pane.cancelCommand

/-- A key behind an operator that waits: a digit, the operator again for whole lines, the start of a
text object, a search, or a motion. -/
def handleOperatorKey (pending : PendingOperator) (key : Key) : Pane :=
  match pane.acceptDigit? key with
  | some pane => pane.await (.operator pending)
  | none =>
      let plain : PendingOperator := ⟨pending.op, none⟩
      let merged := fun run : Pane → Option Nat → Pane =>
        pane.withCount fun pane count => run pane (mergeCounts pending.count count)
      let search := fun direction : Direction =>
        merged fun pane count => pane.openPrompt (.search direction) [] (some plain) count
      let byTable :=
        match Keymap.find? Keymap.motions key with
        | some (.motion motion) => pane.withCount fun pane count =>
            pane.operateByMotion pending motion count
        | some (.awaitFind find) => merged fun pane count =>
            pane.await (.find find (some plain) count)
        | some .awaitG => merged fun pane count => pane.await (.g (some plain) count)
        | _ => pane.cancelCommand
      match key.typed? with
      | none => byTable
      | some c =>
          if c = pending.op.key then
            merged fun pane count => pane.operateOnLinesHere pending.op (count.getD 1)
          else if c = 'i' ∨ c = 'a' then pane.await (.object (some pending) (c == 'a'))
          else if c = '/' then search .forward
          else if c = '?' then search .backward
          else byTable

/-- The key that completes a pending state; a key that does not fit gives the command up. -/
def completePending (pending : Pending) (key : Key) : Pane :=
  match pending with
  | .register =>
      match key.typed? with
      | some name => { pane with register := some name }
      | none => pane.cancelCommand
  | .g op count =>
      match Keymap.find? Keymap.afterG key with
      | some (.motion motion) => pane.moveOrOperate op motion count
      | _ => pane.cancelCommand
  | .z =>
      match Keymap.find? Keymap.afterZ key with
      | some .exitSave => pane.execute .exitSave
      | some .forceQuit => pane.execute .forceQuit
      | _ => pane.cancelCommand
  | .find find op count =>
      match key.typed? with
      | some c => { pane with lastFind := some (find, c) }.moveOrOperate op (.find find c) count
      | none => pane.cancelCommand
  | .replace count => pane.replaceChars key (count.getD 1)
  | .operator op => pane.handleOperatorKey op key
  | .object op around =>
      match key.typed?.bind ObjectKind.ofKey? with
      | some kind => pane.selectOrOperate op ⟨kind, around⟩
      | none => pane.cancelCommand

/-- The next key behind a pending state, which is over with it; Escape gives the command up. -/
def handlePending (pending : Pending) (key : Key) : Pane :=
  let pane := { pane with pending := none }
  if key.code = .escape ∨ key.isCtrl 'c' then pane.cancelCommand
  else pane.completePending pending key

/-- Erase or change some characters from the cursor on, up to the end of the line. -/
def operateOnCharsHere (op : Operator) (count : Nat) : Pane :=
  let pos := pane.cursor.pos
  let stop := min (pos.col + count) (pane.buffer.lineLength pos.line)
  pane.operate op (.chars (.between pos (pos.withCol stop)))

/-- Erase some characters in front of the cursor, up to the start of the line. -/
def eraseCharsBefore (count : Nat) : Pane :=
  let pos := pane.cursor.pos
  if 0 < pos.col then
    pane.operate .delete (.chars (.between (pos.withCol (pos.col - count)) pos))
  else pane

/-- Start typing behind the cursor. -/
def appendHere (count : Nat) : Pane :=
  let pos := pane.cursor.pos
  let pane :=
    if 0 < pane.buffer.lineLength pos.line then pane.jump true (pos.withCol (pos.col + 1)) else pane
  pane.startInsert .plain count

/-- Undo, redo, scroll and search take the count without making it part of the recording. -/
def withUnrecordedCount (run : Pane → Option Nat → Pane) : Pane := run pane.dropCount pane.count

def cancelRecording : Pane := { pane with recorder := pane.recorder.cancel }

/-- Run a command of Normal mode.  Repeating the last change is not among them: it handles keys again
and is given with the handling of keys. -/
def runNormal (command : Command) : Pane :=
  match command with
  | .motion motion => pane.withCount fun pane count => pane.move motion count
  | .awaitFind find => pane.withCount fun pane count => pane.await (.find find none count)
  | .awaitG => pane.withCount fun pane count => pane.await (.g none count)
  | .awaitZ => pane.dropCount.await .z
  | .awaitRegister => pane.await .register
  | .awaitReplace => pane.withCount fun pane count => pane.await (.replace count)
  | .operator op => pane.withCount fun pane count => pane.await (.operator ⟨op, count⟩)
  | .insert => pane.withTimes fun pane n => pane.startInsert .plain n
  | .append => pane.withTimes fun pane n => pane.appendHere n
  | .insertAtLineStart =>
      pane.withTimes fun pane n =>
        (pane.moveCursor fun cursor => cursor.toFirstNonBlank pane.buffer true).startInsert .plain n
  | .appendAtLineEnd =>
      pane.withTimes fun pane n =>
        (pane.moveCursor fun cursor => cursor.toLineEnd pane.buffer true).startInsert .plain n
  | .openBelow => pane.withTimes fun pane n => (pane.openLine true).startInsert .openLine n
  | .openAbove => pane.withTimes fun pane n => (pane.openLine false).startInsert .openLine n
  | .deleteChar => pane.withTimes fun pane n => pane.operateOnCharsHere .delete n
  | .substituteChar => pane.withTimes fun pane n => pane.operateOnCharsHere .change n
  | .deleteCharBefore => pane.withTimes fun pane n => pane.eraseCharsBefore n
  | .substituteLine => pane.withTimes fun pane n => pane.operateOnLinesHere .change n
  | .yankLine => pane.withTimes fun pane n => pane.operateOnLinesHere .yank n
  | .deleteToEnd =>
      pane.withCount fun pane count => pane.operateByMotion ⟨.delete, count⟩ .lineEnd none
  | .changeToEnd =>
      pane.withCount fun pane count => pane.operateByMotion ⟨.change, count⟩ .lineEnd none
  | .putAfter => pane.withTimes fun pane n => pane.put true n
  | .putBefore => pane.withTimes fun pane n => pane.put false n
  | .joinLines =>
      pane.withCount fun pane count => pane.joinLines pane.cursor.pos.line (count.getD 2)
  | .toggleCase => pane.withTimes fun pane n => pane.toggleCase n
  | .replaceMode => pane.withTimes fun pane n => pane.startReplace n
  | .undo => pane.withUnrecordedCount fun pane count => pane.undo (count.getD 1)
  | .redo => pane.withUnrecordedCount fun pane count => pane.redo (count.getD 1)
  | .visual kind => pane.dropCount.enterVisual kind
  | .commandLine => pane.cancelCommand.cancelRecording.openPrompt .command [] none none
  | .search direction =>
      pane.withUnrecordedCount fun pane count =>
        pane.cancelRecording.openPrompt (.search direction) [] none count
  | .scroll way => pane.withUnrecordedCount fun pane count => pane.scroll way count
  | .exitSave => pane.execute .exitSave
  | .forceQuit => pane.execute .forceQuit
  | .repeatChange | .escape | .swapSelectionEnds | .blockInsert | .blockAppend => pane.cancelCommand

end Pane

end ModalPanes
