import ModalPanes.Pane.Edit
import ModalPanes.Text.Word

/-!
# Insert and Replace mode

Typing goes on from the key that enters one of these modes to the one that leaves it.  What was typed is
remembered, to be repeated for a count or copied to the lines of a block when typing ends; Replace mode
also remembers the characters that it wrote over, so that Backspace can put them back.
-/

namespace ModalPanes

namespace Pane

variable (pane : Pane)

def revise (change : InsertSession → InsertSession) : Pane :=
  { pane with insert := pane.insert.map change }

/-- Type a character at the cursor; in Replace mode it takes the place of the one there. -/
def typeChar (c : Char) : Pane :=
  let pos := pane.cursor.pos
  let next := pos.withCol (pos.col + 1)
  let overwrites :=
    pane.mode == .replace && c != '\n' && pos.col < pane.buffer.lineLength pos.line
  let old := if overwrites then pane.buffer.charAt? pos else none
  let pane := if overwrites then pane.eraseRange (.between pos next) else pane
  let pane := pane.insertText pos [c]
  let pane := pane.jump true (if c = '\n' then ⟨pos.line + 1, 0⟩ else next)
  pane.revise fun session =>
    { session with
      typed := session.typed ++ [c]
      replaced := if pane.mode = .replace then old :: session.replaced else session.replaced }

/-- Join the line of the cursor to the one above. -/
def joinWithPrevious : Pane :=
  let line := pane.cursor.pos.line
  if line = 0 then pane
  else
    let joint : Position := ⟨line - 1, pane.buffer.lineLength (line - 1)⟩
    (pane.eraseRange (.between joint ⟨line, 0⟩)).jump true joint

/-- Erase the characters between a column and the cursor. -/
def eraseBack (col : Nat) : Pane :=
  let pos := pane.cursor.pos
  (pane.eraseRange (.between (pos.withCol col) pos)).jump true (pos.withCol col)

/-- The last typed character no longer counts as typed. -/
def untype : Pane := pane.revise fun session => { session with typed := session.typed.dropLast }

/-- Erase the character in front of the cursor. -/
def backspaceInsert : Pane :=
  let pane := pane.untype
  if pane.cursor.pos.col = 0 then pane.joinWithPrevious else pane.eraseBack (pane.cursor.pos.col - 1)

/-- Take the last typed character back and restore the one in its place; behind the start of typing,
only move. -/
def backspaceReplace : Pane :=
  let pane := pane.untype
  let pos := pane.cursor.pos
  match pane.insert.map InsertSession.replaced with
  | some (old :: replaced) =>
      let pane := pane.revise fun session => { session with replaced := replaced }
      if pos.col = 0 then pane.joinWithPrevious
      else
        let spot := pos.withCol (pos.col - 1)
        let pane := pane.eraseRange (.between spot pos)
        (pane.insertText spot old.toList).jump true spot
  | _ => pane.jump true (pos.withCol (pos.col - 1))

def backspace : Pane := if pane.mode = .replace then pane.backspaceReplace else pane.backspaceInsert

/-- Erase the text from a column up to the cursor; it no longer counts as typed. -/
def eraseTo (col : Nat) : Pane :=
  let pos := pane.cursor.pos
  let spot := pos.withCol col
  (pane.eraseBack col).revise fun session =>
    { session with
      typed := session.typed.take (session.typed.length - (pos.col - col))
      start := if session.start ≤ spot then session.start else spot }

/-- Where the word at the end of a text starts; white space behind it belongs to it. -/
def wordStartIn (text : List Char) : Nat :=
  match text.reverse.dropWhile Unicode.isSpace with
  | [] => 0
  | c :: rest =>
      (rest.dropWhile fun d => !Unicode.isSpace d && classify d == classify c).length

def eraseWord : Pane :=
  let pos := pane.cursor.pos
  if pos.col = 0 then pane.backspace
  else pane.eraseTo (wordStartIn ((pane.buffer.line pos.line).take pos.col))

/-- Erase the text in front of the cursor: back to where typing started, and then the whole line. -/
def eraseLine : Pane :=
  let pos := pane.cursor.pos
  if pos.col = 0 then pane.backspace
  else
    let start := (pane.insert.map InsertSession.start).getD pos
    pane.eraseTo (if start.line = pos.line ∧ start.col < pos.col then start.col else 0)

/-- Erase the character under the cursor, or the line break. -/
def eraseForward : Pane :=
  let pos := pane.cursor.pos
  if pos.col < pane.buffer.lineLength pos.line then
    pane.eraseRange (.between pos (pos.withCol (pos.col + 1)))
  else if pos.line + 1 < pane.buffer.lineCount then
    pane.eraseRange (.between pos ⟨pos.line + 1, 0⟩)
  else pane

/-- Move the cursor; what was typed before is neither repeated nor taken back any more. -/
def moveWhileTyping (code : KeyCode) : Pane :=
  let pane := pane.moveCursor fun cursor =>
    match code with
    | .left => cursor.left pane.buffer true 1
    | .right => cursor.right pane.buffer true 1
    | .up => cursor.up pane.buffer true 1
    | .down => cursor.down pane.buffer true 1
    | .home => cursor.toLineStart
    | _ => cursor.toLineEnd pane.buffer true
  { pane with insert := pane.insert.map fun _ => ⟨.plain, 1, pane.cursor.pos, [], []⟩ }

def repeatTyped (session : InsertSession) (times : Nat) : Pane :=
  let pos := pane.cursor.pos
  let onNewLines := session.kind == .openLine
  let spot := if onNewLines then ⟨pos.line, pane.buffer.lineLength pos.line⟩ else pos
  let text := repeatText times (if onNewLines then '\n' :: session.typed else session.typed)
  let pane := pane.insertText spot text
  pane.jump true (pane.buffer.positionOf (pane.buffer.index spot + text.length))

/-- Write the typed text for its count, if that does not get too long. -/
def repeatForCount (session : InsertSession) : Pane :=
  let times := session.count - 1
  let unit := byteLength session.typed + if session.kind = .openLine then 1 else 0
  if session.typed.isEmpty || times = 0 then pane
  else if longestRepeat < unit * times then pane.fail tooLong
  else pane.repeatTyped session times

def copyToLine (typed : List Char) (col : Nat) (append toLineEnd : Bool) (pane : Pane) (line : Nat) :
    Pane :=
  let length := pane.buffer.lineLength line
  let col := if toLineEnd then length else col
  if length < col && !append then pane
  else
    let pane := pane.insertText ⟨line, length⟩ (List.replicate (col - length) ' ')
    pane.insertText ⟨line, col⟩ typed

/-- Copy typed text to the lines of a block below its first; a text with line breaks is not copied. -/
def copyToBlock (typed : List Char) (top bottom col : Nat) (append toLineEnd : Bool) : Pane :=
  if typed.isEmpty || typed.contains '\n' then pane
  else
    (linesBetween (top + 1) (min bottom pane.buffer.lastLine)).foldl
      (copyToLine typed col append toLineEnd) pane

/-- Leave Insert or Replace mode: repeat what was typed, and step back by one column; a block leaves the
cursor where typing started. -/
def endTyping : Pane :=
  let replacing := pane.mode == .replace
  let session := pane.insert
  let pane := { pane with insert := none, mode := .normal }
  match session with
  | none => pane.moveCursor fun cursor => cursor.clamp pane.buffer false
  | some session =>
      let pane := if replacing then pane else pane.repeatForCount session
      match session.kind with
      | .block top bottom col append toLineEnd =>
          (pane.copyToBlock session.typed top bottom col append toLineEnd).jump false session.start
      | _ =>
          let pos := pane.cursor.pos
          pane.jump false (pos.withCol (pos.col - 1))

def handleTyping (key : Key) : Pane :=
  if key.code = .escape || key.isCtrl 'c' || key.isCtrl '[' then pane.endTyping
  else if key.isCtrl 'h' then pane.backspace
  else if key.isCtrl 'w' then pane.eraseWord
  else if key.isCtrl 'u' then pane.eraseLine
  else
    match key.code with
    | .enter => pane.typeChar '\n'
    | .tab => pane.typeChar '\t'
    | .backspace => pane.backspace
    | .delete => pane.eraseForward
    | .left | .right | .up | .down | .home | .endKey => pane.moveWhileTyping key.code
    | _ =>
        match key.typed? with
        | some c => pane.typeChar c
        | none => pane

end Pane

end ModalPanes
