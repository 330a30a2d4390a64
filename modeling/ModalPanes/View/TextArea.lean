import ModalPanes.Options
import ModalPanes.Text.Buffer
import ModalPanes.View.Glyph

/-!
# The text area

The part of a pane that shows text: what is left of its width beside the gutter, and of its height above
the status row.
-/

namespace ModalPanes

/-- The width of the gutter for a number of lines, its separator included.  It depends on the options
and the number of lines only. -/
def gutterWidth (lineCount : Nat) (options : Options) : Nat :=
  if options.gutterEnabled then
    max (decimal (max lineCount 1)).length (options.numberWidth - 1) + 1
  else 0

/-- Where text goes in a pane. -/
structure TextArea where
  gutter : Nat
  width : Nat
  rows : Nat
  wrap : Bool
  tabStop : Nat
deriving DecidableEq

namespace TextArea

/-- The text area of a pane of the given size that shows a buffer. -/
def of (buf : Buffer) (options : Options) (width height : Nat) : TextArea :=
  let gutter := min (gutterWidth buf.lineCount options) width
  ⟨gutter, width - gutter, max (height - 1) 1, options.wrap, max options.tabStop 1⟩

variable (area : TextArea)

/-- The rows of a line: wrapped, or one row that starts at cell `left`. -/
def rowsOf (line : List Char) (left : Nat) : List (List Glyph) :=
  let glyphs := Glyph.ofLine area.tabStop line
  if area.wrap then Glyph.wrap area.width glyphs else [Glyph.clip left area.width glyphs]

def heightOf (line : List Char) : Nat :=
  if area.wrap then (Glyph.wrap area.width (Glyph.ofLine area.tabStop line)).length else 1

/-- The number of rows of every line of a buffer. -/
def heights (buf : Buffer) : List Nat := buf.lines.map area.heightOf

/-- The number of rows of a line by its number; lines that do not exist would take one. -/
def heightAt (heights : Array Nat) (line : Nat) : Nat := heights.getD line 1

/-- The places at which a column is drawn, as row and cell, in order. -/
def cellsOf (rows : List (List Glyph)) (col : Nat) : List (Nat × Nat) :=
  rows.zipIdx.flatMap fun row =>
    ((Glyph.placed 0 row.1).filter fun glyph => glyph.2.col == some col).map fun glyph =>
      (row.2, glyph.1)

/-- The place behind the end of the rows; behind a full row of wrapped text it is the next one. -/
def endCell (rows : List (List Glyph)) : Nat × Nat :=
  let last := rows.length - 1
  let used := Glyph.total (rows.getLast?.getD [])
  if area.wrap ∧ area.width ≤ used ∧ 0 < used then (last + 1, 0) else (last, used)

/-- The place of the cursor at a column: its row within the line, and its cell.  Between characters it
is the first cell of the column, otherwise the last. -/
def cursorCell (line : List Char) (col left : Nat) (pastEnd : Bool) : Nat × Nat :=
  let glyphs := Glyph.ofLine area.tabStop line
  let rows := if area.wrap then Glyph.wrap area.width glyphs else [glyphs]
  let places := cellsOf rows col
  let place := (if pastEnd then places.head? else places.getLast?).getD (area.endCell rows)
  (place.1, place.2 - if area.wrap then 0 else left)

end TextArea

end ModalPanes
