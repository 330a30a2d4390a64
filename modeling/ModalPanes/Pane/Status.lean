import ModalPanes.Pane.Selection
import ModalPanes.Screen.Grid

/-!
# The status row

The last row of a pane shows the open prompt, or a message, or the mode and the name of the buffer; where
there is room, the ruler stands at its right.
-/

namespace ModalPanes

/-- A text filled up with spaces in front. -/
def padLeft (width : Nat) (text : List Char) : List Char :=
  List.replicate (width - text.length) ' ' ++ text

namespace Pane

variable (pane : Pane)

def rulerWidth : Nat := 18

/-- How much of the text is above the view, as a part of all that is not visible. -/
def filePosition : List Char :=
  let above := pane.view.top
  let below := pane.buffer.lineCount - 1 - pane.bottomLine
  if above = 0 then (if below = 0 then "All" else "Top").toList
  else if below = 0 then "Bot".toList
  else decimal (above * 100 / (above + below)) ++ ['%']

/-- The column of the cursor on the screen, from one: a tab shows it in its last cell, unless it may stand
between characters. -/
def screenColumn : Nat :=
  let pos := pane.cursor.pos
  let text := pane.buffer.line pos.line
  let column := fun col => displayColumn text col pane.textArea.tabStop
  if text[pos.col]? = some '\t' ∧ pane.mode.cursorPastEnd = false then column (pos.col + 1)
  else column pos.col + 1

/-- The line of the cursor, and its column in bytes and, where that differs, on the screen. -/
def lineAndColumn : List Char :=
  let pos := pane.cursor.pos
  let line := pane.buffer.line pos.line
  if line.isEmpty then
    decimal (if pane.buffer.lineCount = 1 then 0 else pos.line + 1) ++ ",0-1".toList
  else
    let byte := byteLength (line.take pos.col) + 1
    let shown := pane.screenColumn
    decimal (pos.line + 1) ++ ',' :: decimal byte ++
      if shown = byte then [] else '-' :: decimal shown

def ruler : List Char := padRight 13 pane.lineAndColumn ++ ' ' :: pane.filePosition

/-- What stands on the left of the status row, and its marks. -/
def statusLeft : List Char × Attr :=
  match pane.message with
  | some message => (message.text, { bold := message.error })
  | none =>
      let indicator := pane.mode.indicator
      let gap := if indicator.isEmpty then [] else [' ']
      let changed := if pane.isDirty then " [+]".toList else []
      (indicator ++ gap ++ pane.bufferName ++ changed, {})

def status : List Char × Attr :=
  match pane.prompt with
  | some state => (state.prompt.display, {})
  | none =>
      let left := pane.statusLeft
      let column := pane.width - rulerWidth
      let used := textWidth left.1
      if pane.width < rulerWidth + 2 ∨ column ≤ used then left
      else (left.1 ++ List.replicate (column - used) ' ' ++ pane.ruler, left.2)

end Pane

end ModalPanes
