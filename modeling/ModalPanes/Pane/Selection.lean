import ModalPanes.Pane.Edit

/-!
# The Visual selection

In Visual mode the text between a fixed end and the cursor is selected, both included: its characters,
its lines, or the block between them.  Leaving the mode remembers the lines for commands that ask for
them.
-/

namespace ModalPanes

/-- Selected text.  A block that goes to the ends of lines includes all of every line from its left
edge on. -/
inductive Selection where
  | chars (range : Range)
  | lines (first last : Nat)
  | block (block : Block) (toLineEnd : Bool)
deriving DecidableEq

namespace Pane

variable (pane : Pane)

/-- The position behind a character; behind the end of a line it is the start of the next one. -/
def behind (pos : Position) : Position :=
  let length := pane.buffer.lineLength pos.line
  if pos.col < length then pos.withCol (pos.col + 1)
  else if pos.line + 1 < pane.buffer.lineCount then ⟨pos.line + 1, 0⟩
  else pos.withCol length

/-- The block between two corners, and whether it goes to the ends of lines; then it is as wide as the
longest of them. -/
def blockBetween (a b : Position) : Block × Bool :=
  let block := Block.ofCorners a b
  if pane.cursor.sticky = .lineEnd then
    let widest := ((linesBetween block.top block.bottom).map pane.buffer.lineLength).foldl max 0
    ({ block with right := max block.right (widest - 1) }, true)
  else (block, false)

def selection? : Option Selection :=
  match pane.mode, pane.cursor.anchor with
  | .visual kind, some anchor =>
      let cursor := pane.cursor.pos
      match kind with
      | .char =>
          let range := Range.between anchor cursor
          some (.chars ⟨range.start, pane.behind range.stop⟩)
      | .line => some (.lines (min anchor.line cursor.line) (max anchor.line cursor.line))
      | .block =>
          let found := pane.blockBetween anchor cursor
          some (.block found.1 found.2)
  | _, _ => none

def selectionStart : Position :=
  match pane.cursor.anchor with
  | some anchor => if anchor ≤ pane.cursor.pos then anchor else pane.cursor.pos
  | none => pane.cursor.pos

def enterVisual (kind : VisualKind) : Pane :=
  { pane.moveCursor Cursor.setAnchor with mode := .visual kind }.clearMessage

/-- Back to Normal mode; the selection is remembered. -/
def exitVisual : Pane :=
  let pane :=
    match pane.mode, pane.cursor.anchor with
    | .visual _, some anchor =>
        let range := Range.between anchor pane.cursor.pos
        { pane with lastVisual := some (range.start, range.stop) }
    | _, _ => pane
  { pane with
    mode := .normal
    cursor := pane.cursor.clearAnchor.clamp pane.buffer false }

def selectObject (object : TextObject) : Pane :=
  match object.span? pane.buffer pane.cursor.pos with
  | none => pane
  | some span =>
      if span.linewise then
        let pane := { pane with mode := .visual .line }
        ((pane.jump false ⟨span.firstLine, 0⟩).moveCursor Cursor.setAnchor).jump false
          ⟨span.lastLine, 0⟩
      else if span.range.isEmpty then pane
      else
        let stop := pane.buffer.positionOf (pane.buffer.index span.range.stop - 1)
        ((pane.jump false span.range.start).moveCursor Cursor.setAnchor).jump true stop

def blockRange (block : Block) (toLineEnd : Bool) (line : Nat) : Range :=
  let length := pane.buffer.lineLength line
  let left := min block.left length
  let right := if toLineEnd then length else min (block.right + 1) length
  .between ⟨line, left⟩ ⟨line, max right left⟩

/-- Several texts with a line feed between neighbours. -/
def joinRows (rows : List (List Char)) : List Char := ['\n'].intercalate rows

def operateOnBlock (op : Operator) (block : Block) (toLineEnd : Bool) : Pane :=
  let register := pane.register
  let pane := { pane with register := none }
  let lines := linesBetween block.top block.bottom
  let rows := lines.map fun line => pane.buffer.slice (pane.blockRange block toLineEnd line)
  let pane := pane.store register .block (joinRows rows)
  let corner : Position := ⟨block.top, block.left⟩
  let erased := fun pane : Pane =>
    lines.foldl (fun pane line => pane.eraseRange (pane.blockRange block toLineEnd line)) pane
  match op with
  | .yank =>
      let pane :=
        if 2 < rows.length then
          pane.say ("block of ".toList ++ decimal rows.length ++ " lines yanked".toList)
        else pane
      pane.jump false corner
  | .delete => (erased pane).jump false corner
  | .change =>
      ((erased pane).jump true corner).startInsert
        (.block block.top block.bottom block.left false false) 1

def operateOnSelection (op : Operator) : Pane :=
  match pane.selection? with
  | none => pane
  | some selection =>
      let start := pane.selectionStart
      let pane := pane.exitVisual
      let back := fun pane : Pane => if op = .yank then pane.jump false start else pane
      match selection with
      | .chars range => back (pane.operate op (.chars range))
      | .lines first last => back (pane.operate op (.lines first last))
      | .block block toLineEnd => pane.operateOnBlock op block toLineEnd

def selectionRanges : Selection → List Range
  | .chars range => [range]
  | .lines first last => [.between ⟨first, 0⟩ ⟨last, pane.buffer.lineLength last⟩]
  | .block block toLineEnd =>
      (linesBetween block.top block.bottom).map (pane.blockRange block toLineEnd)

def swapCaseIn (pane : Pane) (range : Range) : Pane :=
  pane.replaceText range (swapCase (pane.buffer.slice range))

def toggleSelectionCase : Pane :=
  match pane.selection? with
  | none => pane
  | some selection =>
      let start := pane.selectionStart
      let pane := pane.exitVisual
      let pane := ((pane.selectionRanges selection).foldl swapCaseIn pane).markChange
      pane.jump false <|
        match selection with
        | .lines first _ => ⟨first, 0⟩
        | .block block _ => ⟨block.top, block.left⟩
        | .chars _ => start

def joinSelection : Pane :=
  let line := pane.cursor.pos.line
  let anchor := (pane.cursor.anchor.map Position.line).getD line
  pane.exitVisual.joinLines (min anchor line) (max anchor line - min anchor line + 1)

/-- Start typing at one side of the selection.  In a block, what is typed on the first line is copied
to the others when typing ends. -/
def insertAtSelection (append : Bool) : Pane :=
  match pane.selection? with
  | none => pane
  | some selection =>
      let start := pane.selectionStart
      let pane := pane.dropCount.exitVisual
      match selection with
      | .block block toLineEnd =>
          let col := if append then block.right + 1 else block.left
          let toLineEnd := append && toLineEnd
          let length := pane.buffer.lineLength block.top
          let spot := if toLineEnd then length else col
          let pane :=
            if append then
              pane.insertText ⟨block.top, length⟩ (List.replicate (spot - length) ' ')
            else pane
          (pane.jump true ⟨block.top, spot⟩).startInsert
            (.block block.top block.bottom col append toLineEnd) 1
      | .lines first last =>
          let spot := if append then ⟨last, pane.buffer.lineLength last⟩ else ⟨first, 0⟩
          (pane.jump true spot).startInsert .plain 1
      | .chars range => (pane.jump true (if append then range.stop else start)).startInsert .plain 1

end Pane

end ModalPanes
