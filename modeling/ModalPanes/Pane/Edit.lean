import ModalPanes.Pane.Basic
import ModalPanes.Unicode.Case

/-!
# Edits

Every change of a pane's text is made by `insertText` and `eraseRange`, which record it in the history.
A step of the history is opened by the first edit, and ends when the pane settles outside of typing, so a
command, or all that is typed in a row, is one step.
-/

namespace ModalPanes

def linesBetween (first last : Nat) : List Nat := List.range' first (last + 1 - first)

def repeatText (count : Nat) (text : List Char) : List Char := (List.replicate count text).flatten

/-- A text filled up with spaces to a number of characters. -/
def padRight (width : Nat) (text : List Char) : List Char :=
  text ++ List.replicate (width - text.length) ' '

/-- Every upper-case letter in lower case, and everything else in upper case. -/
def swapCase (text : List Char) : List Char :=
  text.flatMap fun c => if Unicode.isUppercase c then Unicode.toLower c else Unicode.toUpper c

namespace Pane

/-- The most lines that a command may touch without saying so. -/
def quietLines : Nat := 2

/-- The longest text, in bytes, that a count may write. -/
def longestRepeat : Nat := 1048576

/-- What is said when a count asks for more. -/
def tooLong : List Char := "E1240: Resulting text too long".toList

variable (pane : Pane)

def inside (pos : Position) : Position := pane.buffer.positionOf (pane.buffer.index pos)

/-- A step of the history is open, and the command changes the text. -/
def beginChange : Pane :=
  let pane :=
    if pane.history.isOpen then pane
    else { pane with history := pane.history.start pane.cursor.pos }
  pane.markChange

def insertText (pos : Position) (text : List Char) : Pane :=
  if text.isEmpty then pane
  else
    let pos := pane.inside pos
    let pane := pane.beginChange
    { pane with
      buffer := pane.buffer.insert pos text
      history := pane.history.record (.insert pos text) }

def eraseRange (range : Range) : Pane :=
  let start := pane.inside range.start
  let stop := pane.inside range.stop
  if start = stop then pane
  else
    let text := pane.buffer.slice ⟨start, stop⟩
    let pane := pane.beginChange
    { pane with
      buffer := pane.buffer.erase ⟨start, stop⟩
      history := pane.history.record (.erase start text) }

/-- Put text in the place of a range, if it is different. -/
def replaceText (range : Range) (text : List Char) : Pane :=
  if pane.buffer.slice range = text then pane
  else (pane.eraseRange range).insertText range.start text

def store (name : Option Char) (kind : RegisterKind) (text : List Char) : Pane :=
  { pane with registers := pane.registers.store name (.of kind text) }

/-- Say how many lines are gone, if they are many. -/
def reportFewer (before : Nat) : Pane :=
  let removed := before - pane.buffer.lineCount
  if quietLines < removed then pane.say (decimal removed ++ " fewer lines".toList) else pane

/-- Say how many lines were added, if they are many. -/
def reportMore (added : Nat) : Pane :=
  if quietLines < added then pane.say (decimal added ++ " more lines".toList) else pane

/-- Say how many lines were yanked, if they are many. -/
def reportYanked (lines : Nat) : Pane :=
  if quietLines < lines then pane.say (decimal lines ++ " lines yanked".toList) else pane

def operateOnChars (op : Operator) (range : Range) (register : Option Char) : Pane :=
  let text := pane.buffer.slice range
  let pane := if text.isEmpty then pane else pane.store register .char text
  match op with
  | .yank => (pane.jump false range.start).reportYanked range.lineSpan
  | .delete =>
      if text.isEmpty then pane
      else
        let before := pane.buffer.lineCount
        ((pane.eraseRange range).jump false range.start).reportFewer before
  | .change => ((pane.eraseRange range).jump true range.start).startInsert .plain 1

/-- The range that holds whole lines with one of the line breaks around them. -/
def wholeLines (buf : Buffer) (first last : Nat) : Range :=
  if last < buf.lastLine then .between ⟨first, 0⟩ ⟨last + 1, 0⟩
  else if 0 < first then
    .between ⟨first - 1, buf.lineLength (first - 1)⟩ ⟨last, buf.lineLength last⟩
  else .between .zero ⟨last, buf.lineLength last⟩

def operateOnLines (op : Operator) (first last : Nat) (register : Option Char) : Pane :=
  let last := min last pane.buffer.lastLine
  let text := (linesBetween first last).flatMap fun line => pane.buffer.line line ++ ['\n']
  let pane := pane.store register .line text
  match op with
  | .yank =>
      let pane :=
        if first < pane.cursor.pos.line then pane.jump false ⟨first, pane.cursor.pos.col⟩ else pane
      pane.reportYanked (last - first + 1)
  | .delete =>
      let before := pane.buffer.lineCount
      let pane := pane.eraseRange (wholeLines pane.buffer first last)
      let pane := pane.jumpToLine false first
      if pane.buffer.text.isEmpty then pane.say "--No lines in buffer--".toList
      else pane.reportFewer before
  | .change =>
      let range := Range.between ⟨first, 0⟩ ⟨last, pane.buffer.lineLength last⟩
      ((pane.eraseRange range).jump true ⟨first, 0⟩).startInsert .plain 1

/-- An operator on a span, with the register that was named for it. -/
def operate (op : Operator) (span : Span) : Pane :=
  let register := pane.register
  let pane := { pane with register := none }
  if span.linewise then pane.operateOnLines op span.firstLine span.lastLine register
  else pane.operateOnChars op span.range register

/-- Where text put at the cursor goes: behind the character under it, or in front. -/
def putColumn (after : Bool) : Nat :=
  let pos := pane.cursor.pos
  if after && 0 < pane.buffer.lineLength pos.line then pos.col + 1 else pos.col

def putChars (reg : Register) (after : Bool) (count : Nat) : Pane :=
  let spot := pane.cursor.pos.withCol (pane.putColumn after)
  let text := repeatText count reg.text
  let pane := pane.insertText spot text
  let added := text.count '\n'
  let pane :=
    if added = 0 then pane.jump false (spot.withCol (spot.col + text.length - 1))
    else pane.jump false spot
  pane.reportMore added

def putLines (reg : Register) (after : Bool) (count : Nat) : Pane :=
  let line := pane.cursor.pos.line
  let body := repeatText count reg.text
  let first := if after then line + 1 else line
  let pane :=
    if !after then pane.insertText ⟨line, 0⟩ body
    else if line + 1 < pane.buffer.lineCount then pane.insertText ⟨line + 1, 0⟩ body
    else pane.insertText ⟨line, pane.buffer.lineLength line⟩ ('\n' :: Line.trimBreak body)
  (pane.jumpToLine false first).reportMore (reg.rows.length * count)

/-- The number of characters of the longest row. -/
def blockWidth (rows : List (List Char)) : Nat := (rows.map List.length).foldl max 0

/-- Put one row of a block at a column; a line that is missing is added, a short one filled up. -/
def putRow (col width count line : Nat) (row : List Char) : Pane :=
  let last := pane.buffer.lastLine
  let pane :=
    if pane.buffer.lineCount ≤ line then
      pane.insertText ⟨last, pane.buffer.lineLength last⟩ ['\n']
    else pane
  let length := pane.buffer.lineLength line
  let pane := pane.insertText ⟨line, length⟩ (List.replicate (col - length) ' ')
  let text := repeatText count (padRight width row)
  let text := if length ≤ col then (text.reverse.dropWhile (· == ' ')).reverse else text
  pane.insertText ⟨line, col⟩ text

def putRows (col width count : Nat) (pane : Pane) (line : Nat) : List (List Char) → Pane
  | [] => pane
  | row :: rows => putRows col width count (pane.putRow col width count line row) (line + 1) rows

def putBlock (reg : Register) (after : Bool) (count : Nat) : Pane :=
  let pos := pane.cursor.pos
  let col := pane.putColumn after
  (putRows col (blockWidth reg.rows) count pane pos.line reg.rows).jump false ⟨pos.line, col⟩

/-- The bytes that a register takes when it is put once. -/
def putSize (reg : Register) : Nat :=
  match reg.kind with
  | .block => byteLength reg.rows.flatten + reg.rows.length * blockWidth reg.rows
  | _ => byteLength reg.text

/-- Put the named register, or the unnamed one. -/
def put (after : Bool) (count : Nat) : Pane :=
  let name := pane.register
  let pane := { pane with register := none }
  let reg := pane.registers.get name
  if reg.isEmpty then
    pane.fail ("E353: Nothing in register ".toList ++ [name.getD '"'])
  else
    let count := max count 1
    if longestRepeat < putSize reg * count then pane.fail tooLong
    else
      match reg.kind with
      | .char => pane.putChars reg after count
      | .line => pane.putLines reg after count
      | .block => pane.putBlock reg after count

/-- Open an empty line below or above, and stand on it. -/
def openLine (below : Bool) : Pane :=
  let line := pane.cursor.pos.line
  if below then
    (pane.insertText ⟨line, pane.buffer.lineLength line⟩ ['\n']).jump true ⟨line + 1, 0⟩
  else (pane.insertText ⟨line, 0⟩ ['\n']).jump true ⟨line, 0⟩

def isIndent (c : Char) : Bool := c == ' ' || c == '\t'

/-- What comes between two lines that are joined: nothing next to an empty side, behind white space or
in front of a closing parenthesis; two spaces behind the end of a sentence; otherwise one. -/
def joint (current rest : List Char) : List Char :=
  let final := current.getLast?
  if current.isEmpty || rest.isEmpty || (final.map isIndent).getD false || rest.head? == some ')' then []
  else if final == some '.' || final == some '!' || final == some '?' then [' ', ' ']
  else [' ']

/-- Join the line behind `first` to it, without its indent, and say at which column. -/
def joinNext (first : Nat) : Pane × Nat :=
  let current := pane.buffer.line first
  let next := pane.buffer.line (first + 1)
  let rest := next.dropWhile isIndent
  let pane :=
    pane.eraseRange (.between ⟨first, current.length⟩ ⟨first + 1, next.length - rest.length⟩)
  (pane.insertText ⟨first, current.length⟩ (joint current rest), current.length)

/-- Join several lines in turn; the answer ends at the last joint. -/
def joinTimes (first : Nat) : Nat → Pane → Nat → Pane × Nat
  | 0, pane, col => (pane, col)
  | count + 1, pane, _ =>
      let joined := pane.joinNext first
      joinTimes first count joined.1 joined.2

def joinLines (first count : Nat) : Pane :=
  let last := pane.buffer.lastLine
  if last ≤ first then pane
  else
    let joined := joinTimes first (min (max count 2 - 1) (last - first)) pane 0
    joined.1.jump false ⟨first, joined.2⟩

/-- Swap the case of some characters from the cursor on, and move behind them. -/
def toggleCase (count : Nat) : Pane :=
  let pos := pane.cursor.pos
  let length := pane.buffer.lineLength pos.line
  if length = 0 then pane
  else
    let stop := pos.withCol (min (pos.col + count) length)
    let range := Range.between pos stop
    ((pane.replaceText range (swapCase (pane.buffer.slice range))).markChange).jump false stop

/-- The character that a key puts in the place of others. -/
def replacement? (key : Key) : Option Char :=
  match key.code with
  | .enter => some '\n'
  | .tab => some '\t'
  | _ => key.typed?

/-- Put the character of a key in the place of some from the cursor on; a line break takes the place of
all of them.  There have to be enough. -/
def replaceChars (key : Key) (count : Nat) : Pane :=
  match replacement? key with
  | none => pane.cancelCommand
  | some c =>
      let pos := pane.cursor.pos
      if pane.buffer.lineLength pos.line < pos.col + count then { pane with register := none }
      else
        let pane := pane.eraseRange (.between pos (pos.withCol (pos.col + count)))
        if c = '\n' then
          let pane := pane.insertText pos ['\n']
          pane.jump false ⟨pos.line + 1, pane.buffer.firstNonBlank (pos.line + 1)⟩
        else
          (pane.insertText pos (List.replicate count c)).jump false
            (pos.withCol (pos.col + count - 1))

/-- Take steps of the history, at most so many: the cursor to restore, the history and the buffer. -/
def travel (step : History → Buffer → Option Position × History × Buffer) :
    Nat → Option Position × History × Buffer → Option Position × History × Buffer
  | 0, reached => reached
  | count + 1, reached =>
      match step reached.2.1 reached.2.2 with
      | (some pos, history, buffer) => travel step count (some pos, history, buffer)
      | (none, history, buffer) => (reached.1, history, buffer)

/-- Go back or forth in the history, and restore the cursor. -/
def revisit (step : History → Buffer → Option Position × History × Buffer) (count : Nat) : Pane :=
  let reached := travel step (max count 1) (none, pane.history, pane.buffer)
  let pane := { pane with history := reached.2.1, buffer := reached.2.2 }
  match reached.1 with
  | some pos => (pane.jump false pos).syncModified
  | none => pane

def undo (count : Nat) : Pane := pane.revisit History.undo count

/-- Make changes again that were taken back. -/
def redo (count : Nat) : Pane := pane.revisit History.redo count

def setTop (line : Nat) : Pane := { pane with view := { pane.view with top := line } }

/-- Scroll.  By half screens, view and cursor move together; by lines, the cursor moves only as far as it
has to. -/
def scroll (way : Scroll) (count : Option Nat) : Pane :=
  let rows := pane.textArea.rows
  let last := pane.buffer.lastLine
  let line := pane.cursor.pos.line
  let top := pane.view.top
  let pastEnd := pane.mode.cursorPastEnd
  let half := count.getD (max (rows / 2) 1)
  match way with
  | .halfDown =>
      if line = last then pane
      else
        let maxTop :=
          max (View.maxTop (TextArea.heightAt pane.heights) pane.buffer.lineCount rows) top
        (pane.setTop (min (top + half) maxTop)).jumpToLine pastEnd (min (line + half) last)
  | .halfUp =>
      if line = 0 then pane
      else (pane.setTop (top - half)).jumpToLine pastEnd (line - half)
  | .lineDown =>
      let newTop := min (top + count.getD 1) last
      let pane := pane.setTop newTop
      let least := min (newTop + pane.options.scrollOff) last
      if line < least then
        pane.moveCursor fun cursor => cursor.down pane.buffer pastEnd (least - line)
      else pane
  | .lineUp =>
      let pane := pane.setTop (top - count.getD 1)
      let bottom := pane.bottomLine
      let most := if bottom = last then bottom else bottom - pane.options.scrollOff
      if most < line then
        pane.moveCursor fun cursor => cursor.up pane.buffer pastEnd (line - most)
      else pane

end Pane

end ModalPanes
