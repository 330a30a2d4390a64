import ModalPanes.History
import ModalPanes.Keymap
import ModalPanes.Pane.Recorder
import ModalPanes.Prompt
import ModalPanes.Register
import ModalPanes.Search.Find
import ModalPanes.View.Scroll

/-!
# Panes

A pane is one editor: a buffer with its cursor, mode, history, registers and view, and whatever of a
command has been typed so far.  This file holds the state and its simplest changes; the families of
commands have files of their own.
-/

namespace ModalPanes

/-- A message on the status row. -/
structure Message where
  text : List Char
  error : Bool
deriving DecidableEq

/-- An operator with the count typed in front of it. -/
structure PendingOperator where
  op : Operator
  count : Option Nat
deriving DecidableEq

/-- A key that waits for the one that completes it. -/
inductive Pending where
  | register
  | g (op : Option PendingOperator) (count : Option Nat)
  | z
  | find (find : Find) (op : Option PendingOperator) (count : Option Nat)
  | replace (count : Option Nat)
  | operator (op : PendingOperator)
  | object (op : Option PendingOperator) (around : Bool)
deriving DecidableEq

/-- An open prompt, the mode it returns to, and the operator and count that its search is for. -/
structure PromptState where
  prompt : Prompt
  origin : Mode
  operator : Option PendingOperator
  count : Option Nat
deriving DecidableEq

/-- What becomes of typed text when typing ends: it is repeated in place or on new lines, or copied to
the lines of a block.  A block that appends fills up short lines, others leave them out; one that goes
to the ends of lines appends there. -/
inductive InsertKind where
  | plain
  | openLine
  | block (top bottom col : Nat) (append toLineEnd : Bool)
deriving DecidableEq

/-- Typing under way: what becomes of the text, how often it is typed, where it started, the text so
far, and the characters that it replaced, the latest first; a character that replaced none stands at
the end of its line. -/
structure InsertSession where
  kind : InsertKind
  count : Nat
  start : Position
  typed : List Char := []
  replaced : List (Option Char) := []
deriving DecidableEq

/-- The last substitution: its pattern and its replacement. -/
structure LastSubstitute where
  pattern : List Char
  replacement : List Char
deriving DecidableEq

/-- One editor. -/
structure Pane where
  buffer : Buffer
  options : Options
  width : Nat
  height : Nat
  cursor : Cursor := Cursor.ofPosition .zero
  mode : Mode := .normal
  history : History := {}
  registers : Registers := {}
  search : SearchState := {}
  view : View := {}
  pending : Option Pending := none
  count : Option Nat := none
  register : Option Char := none
  prompt : Option PromptState := none
  message : Option Message := none
  lastFind : Option (Find × Char) := none
  insert : Option InsertSession := none
  recorder : Recorder := {}
  lastSubstitute : Option LastSubstitute := none
  lastVisual : Option (Position × Position) := none
  savedId : Nat := 0
  closing : Bool := false
deriving DecidableEq

namespace Pane

def showing (buffer : Buffer) (options : Options) (width height : Nat) : Pane :=
  { buffer := buffer, options := options, width := width, height := height }

variable (pane : Pane)

/-- The columns and rows that the pane takes up. -/
def size : Nat × Nat := (pane.width, pane.height)

/-- Whether the text differs from what was last written. -/
def isDirty : Bool := pane.buffer.modified

def bufferName : List Char := pane.buffer.name.getD "[No Name]".toList

def textArea : TextArea := .of pane.buffer pane.options pane.width pane.height

/-- The number of rows of every line. -/
def heights : Array Nat := (pane.textArea.heights pane.buffer).toArray

def visibleLines : Nat :=
  pane.view.visibleLines (TextArea.heightAt pane.heights) pane.buffer.lineCount pane.textArea.rows

def bottomLine : Nat :=
  pane.view.bottomLine (TextArea.heightAt pane.heights) pane.buffer.lineCount pane.textArea.rows

def say (text : List Char) : Pane := { pane with message := some ⟨text, false⟩ }

def fail (text : List Char) : Pane := { pane with message := some ⟨text, true⟩ }

def clearMessage : Pane := { pane with message := none }

/-- Scroll so that the cursor is visible. -/
def follow : Pane :=
  { pane with
    view := pane.view.scrollTo pane.buffer pane.textArea pane.options.scrollOff pane.cursor.pos }

def resize (width height : Nat) : Pane :=
  if width = pane.width ∧ height = pane.height then pane
  else { pane with width := width, height := height }.follow

def moveCursor (move : Cursor → Cursor) : Pane := { pane with cursor := move pane.cursor }

def jump (pastEnd : Bool) (pos : Position) : Pane :=
  pane.moveCursor fun cursor => cursor.jump pane.buffer pastEnd pos

/-- Jump to a line and its first character that is not blank. -/
def jumpToLine (pastEnd : Bool) (line : Nat) : Pane :=
  pane.moveCursor fun cursor => cursor.toLine pane.buffer pastEnd line

def cancelCommand : Pane := { pane with count := none, register := none, pending := none }

/-- Take the count for the command to be run. -/
def takeCount : Option Nat × Pane :=
  (pane.count, { pane with count := none, recorder := pane.recorder.noteCount pane.count })

def dropCount : Pane := { pane with count := none }

/-- Wait for the key that completes a command. -/
def await (pending : Pending) : Pane := { pane with pending := some pending }

def markChange : Pane := { pane with recorder := pane.recorder.markChange }

def isIdle : Bool :=
  pane.mode == .normal && pane.pending.isNone && pane.count.isNone && pane.register.isNone &&
    pane.prompt.isNone

/-- The buffer counts as changed unless the history is at the written state. -/
def syncModified : Pane :=
  if pane.history.isOpen then pane
  else
    { pane with
      buffer := { pane.buffer with modified := pane.history.stateId != pane.savedId } }

def beginTyping (mode : Mode) (kind : InsertKind) (count : Nat) : Pane :=
  let pane := { pane with mode := mode }.clearMessage.markChange
  { pane with insert := some ⟨kind, max count 1, pane.cursor.pos, [], []⟩ }

def startInsert (kind : InsertKind) (count : Nat) : Pane := pane.beginTyping .insert kind count

def startReplace (count : Nat) : Pane := pane.beginTyping .replace .plain count

end Pane

end ModalPanes
