import ModalPanes.Pane.Status

/-!
# Drawing a pane

A pane draws its lines from the first visible one on, then the rows that stay free, and the status row.
A wrapped line that no longer fits is not begun.
-/

namespace ModalPanes

namespace Selection

def contains (pos : Position) : Selection → Bool
  | chars range => range.contains pos
  | lines first last => first ≤ pos.line && pos.line ≤ last
  | block area toLineEnd =>
      area.top ≤ pos.line && pos.line ≤ area.bottom && area.left ≤ pos.col &&
        (toLineEnd || pos.col ≤ area.right)

/-- Whether the break behind a line is selected; a block never includes it. -/
def containsBreak (line length : Nat) : Selection → Bool
  | chars range => range.contains ⟨line, length⟩
  | lines first last => first ≤ line && line ≤ last
  | block _ _ => false

end Selection

/-- What decorates the text of a pane: the matches of a pattern and the selection. -/
structure Decoration where
  pattern : Option Pattern
  selection : Option Selection

namespace Decoration

def matchesOn (decoration : Decoration) (buf : Buffer) (line : Nat) : List LineMatch :=
  (decoration.pattern.map fun pattern => buf.lineMatches pattern line).getD []

def attrAt (decoration : Decoration) (found : List LineMatch) (pos : Position) : Attr :=
  { search :=
      found.any fun m => m.start.col ≤ pos.col && pos.col < m.start.col + m.length
    selected := (decoration.selection.map (Selection.contains pos)).getD false }

def marksBreak (decoration : Decoration) (line length : Nat) : Bool :=
  (decoration.selection.map (Selection.containsBreak line length)).getD false

end Decoration

namespace Pane

variable (pane : Pane)

def decoration : Decoration := ⟨pane.search.highlighted?, pane.selection?⟩

/-- The number in front of a line: its distance from the cursor line, or its number. -/
def gutterText (line width : Nat) : List Char :=
  let digits := width - 1
  let current := pane.cursor.pos.line
  let relative := pane.options.relativeNumber
  let text :=
    if relative ∧ line ≠ current then padLeft digits (decimal (line - current + (current - line)))
    else if relative ∧ pane.options.number then padRight digits (decimal (line + 1))
    else if relative then padLeft digits (decimal 0)
    else padLeft digits (decimal (line + 1))
  text ++ [' ']

def drawGlyph (grid : Grid) (x y : Nat) (glyph : Glyph) (attr : Attr) : Grid :=
  let grid := grid.put x y (.styled glyph.char attr)
  if glyph.width = 2 then grid.put (x + 1) y (.continuation attr) else grid

def drawGlyphs (attrAt : Nat → Attr) (x y : Nat) (grid : Grid) (glyphs : List Glyph) : Grid :=
  (Glyph.placed x glyphs).foldl
    (fun grid spot => drawGlyph grid spot.1 y spot.2 ((spot.2.col.map attrAt).getD {})) grid

/-- Draw some rows of a line, one below the other; if the last one among them leaves room and the line
break is marked, the cell behind it is drawn too. -/
def drawRows (attrAt : Nat → Attr) (marksBreak : Bool) (x width : Nat) (grid : Grid) (y : Nat) :
    Nat → List (List Glyph) → Grid
  | 0, _ => grid
  | _, [] => grid
  | room + 1, row :: rest =>
      let grid := drawGlyphs attrAt x y grid row
      let used := Glyph.total row
      let grid :=
        if rest.isEmpty && used < width && marksBreak then
          grid.put (x + used) y (.styled ' ' { selected := true })
        else grid
      drawRows attrAt marksBreak x width grid (y + 1) room rest

/-- Draw a line with its number, in no more rows than there is room for. -/
def drawLine (grid : Grid) (x y room line : Nat) (text : List Char) : Grid :=
  let area := pane.textArea
  let decoration := pane.decoration
  let grid :=
    if 0 < area.gutter then
      (grid.putText x y (pane.gutterText line area.gutter) {} area.gutter).1
    else grid
  let found := decoration.matchesOn pane.buffer line
  drawRows (fun col => decoration.attrAt found ⟨line, col⟩)
    (decoration.marksBreak line text.length) (x + area.gutter) area.width grid y room
    (area.rowsOf text pane.view.left)

def drawSigns (sign : Char) (x : Nat) (grid : Grid) (y count : Nat) : Grid :=
  (List.range count).foldl (fun grid row => grid.put x (y + row) (.styled sign {})) grid

/-- Where the cursor is drawn, when its line starts in a row. -/
def cursorPlace (x y : Nat) (text : List Char) : Nat × Nat :=
  let area := pane.textArea
  let place := area.cursorCell text pane.cursor.pos.col pane.view.left pane.mode.cursorPastEnd
  (x + area.gutter + min place.2 (area.width - 1), y + place.1)

/-- Draw the lines from a number on into the rows that are left, and say where the cursor came to be. -/
def drawLines (x : Nat) (grid : Grid) (y room line : Nat) (cursor : Nat × Nat) :
    List (List Char) → Grid × (Nat × Nat)
  | [] => (drawSigns '~' x grid y room, cursor)
  | text :: rest =>
      let height := (pane.textArea.rowsOf text pane.view.left).length
      if room = 0 then (grid, cursor)
      else if pane.textArea.wrap && room < pane.height - 1 && room < height then
        (drawSigns '@' x grid y room, cursor)
      else
        let cursor := if line = pane.cursor.pos.line then pane.cursorPlace x y text else cursor
        let grid := pane.drawLine grid x y room line text
        drawLines x grid (y + min height room) (room - height) (line + 1) cursor rest

def clear (grid : Grid) (x y : Nat) : Grid :=
  (List.range pane.height).foldl (fun grid row => grid.fill x (y + row) pane.width .blank) grid

def promptCell (line : InputLine) : Nat :=
  min (1 + textWidth (line.text.take line.cursor)) (pane.width - 1)

/-- Draw the pane with its upper left corner at a place, and say where the cursor is: on the open prompt,
or in the text. -/
def draw (grid : Grid) (x y : Nat) : Grid × (Nat × Nat) :=
  if pane.width = 0 ∨ pane.height = 0 then (grid, (x, y))
  else
    let drawn :=
      pane.drawLines x (pane.clear grid x y) y (pane.height - 1) pane.view.top
        (x + pane.textArea.gutter, y) (pane.buffer.lines.drop pane.view.top)
    let statusRow := y + (pane.height - 1)
    let status := pane.status
    let grid := (drawn.1.putText x statusRow status.1 status.2 pane.width).1
    match pane.prompt with
    | some state => (grid, (x + pane.promptCell state.prompt.line, statusRow))
    | none => (grid, drawn.2)

end Pane

end ModalPanes
