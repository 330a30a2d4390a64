import ModalPanes.View.TextArea

/-!
# Scrolling

A view shows a buffer from its top line on, and without wrapping from a cell of its lines on.  It scrolls
so that the cursor line stays visible with some lines around it: a short way by as much as is needed, a
long way so that the cursor line comes to the middle.

Lines are measured by a function from line numbers to screen rows.
-/

namespace ModalPanes

namespace Scroll

variable (height : Nat → Nat)

/-- How many of `count` lines from a line on are shown in full in the given rows. -/
def shownFrom (line rows : Nat) : Nat → Nat
  | 0 => 0
  | count + 1 =>
      if height line ≤ rows then shownFrom (line + 1) (rows - height line) count + 1 else 0

/-- Whether `count` lines from a line on fit in the given rows. -/
def fits (line rows : Nat) : Nat → Bool
  | 0 => true
  | count + 1 => height line ≤ rows && fits (line + 1) (rows - height line) count

/-- The first line, up from a line, such that all lines down to that one fit in the given rows. -/
def climb (rows : Nat) : Nat → Nat
  | 0 => 0
  | line + 1 => if height line ≤ rows then climb (rows - height line) line else line + 1

/-- The first line to show so that a line is the last one shown in full. -/
def topForBottom (rows bottom : Nat) : Nat := climb height (rows - height bottom) bottom

/-- The first line to show around the lines from `top` to `bottom`: the lines below and above come in
turn as long as rows are left, and those above get the rows that missing lines below leave. -/
def spread (lineCount top bottom rows above below : Nat) : Nat :=
  if _lower : bottom + 1 < lineCount ∧ (below ≤ above ∨ top = 0) then
    let taken := height (bottom + 1)
    if taken ≤ rows then spread lineCount top (bottom + 1) (rows - taken) above (below + taken)
    else top
  else if _upper : 0 < top then
    let taken := height (top - 1)
    if taken ≤ rows then spread lineCount (top - 1) bottom (rows - taken) (above + taken) below
    else top
  else top
termination_by (lineCount - bottom) + top

/-- The first line to show so that a line is in the middle. -/
def centerTop (lineCount rows line : Nat) : Nat :=
  if rows < height line then line
  else spread height lineCount line line (rows - height line) 0 0

end Scroll

/-- What a pane shows of its buffer: the first line, and the first cell of lines that are not
wrapped. -/
structure View where
  top : Nat := 0
  left : Nat := 0
deriving DecidableEq, Inhabited

namespace View

variable (view : View) (height : Nat → Nat) (lineCount rows : Nat)

/-- The number of lines shown in full, at least one. -/
def visibleLines : Nat :=
  max (Scroll.shownFrom height view.top rows (lineCount - view.top)) 1

def bottomLine : Nat :=
  min (view.top + view.visibleLines height lineCount rows - 1) (lineCount - 1)

/-- The first line when the last line of the buffer is at the bottom. -/
def maxTop : Nat := Scroll.topForBottom height rows (lineCount - 1)

/-- The first line for a cursor line with `context` lines around it.  A jump of about a screen brings
the cursor line to the middle. -/
def topFor (line context : Nat) : Nat :=
  let last := lineCount - 1
  let top := min view.top last
  let wantTop := line - context
  let wantBottom := min (line + context) last
  if wantTop < top then
    if rows / 2 ≤ top - wantTop ∧ 1 < rows then Scroll.centerTop height lineCount rows line
    else wantTop
  else if Scroll.fits height top rows (wantBottom + 1 - top) then top
  else
    let bottom := bottomLine ⟨top, view.left⟩ height lineCount rows
    if rows < wantBottom - bottom then Scroll.centerTop height lineCount rows line
    else Scroll.topForBottom height rows wantBottom

/-- The lines kept around the cursor line: no more than the option says, nor than half of the rows. -/
def contextFor (scrollOff : Nat) : Nat := min scrollOff ((rows - 1) / 2)

/-- The first cell for a cursor at a cell, when `width` cells are shown. -/
def leftFor (cell width : Nat) : Nat :=
  if cell < view.left then cell
  else if view.left + width ≤ cell then cell + 1 - width
  else view.left

def scrollTo (view : View) (buf : Buffer) (area : TextArea) (scrollOff : Nat) (pos : Position) : View :=
  let line := min pos.line (buf.lineCount - 1)
  let heights := (area.heights buf).toArray
  let top := view.topFor (TextArea.heightAt heights) buf.lineCount area.rows line
    (contextFor area.rows scrollOff)
  let left :=
    if area.wrap then 0
    else view.leftFor (displayColumn (buf.line line) pos.col area.tabStop) (max area.width 1)
  ⟨top, left⟩

end View

end ModalPanes
