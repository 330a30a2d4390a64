import ModalPanes.Pane.Drawing
import ModalPanes.Session.Commands

/-!
# Drawing a session

A frame shows every visible pane, the dividers between them, and a question or a notice over the status
row of the active pane.
-/

namespace ModalPanes

/-- One screen, with the place of the terminal cursor as column and row. -/
structure Frame where
  grid : Grid
  cursor : Nat × Nat
deriving DecidableEq

namespace Session

variable (session : Session)

/-- The text of the overlay.  A question names the pane by its place in the layout. -/
def overlayText? : Option (List Char) :=
  session.overlay.map fun overlay =>
    match overlay with
    | .confirmKill id =>
        let place := (session.layout.leaves.idxOf? id).getD 0
        "kill-pane ".toList ++ decimal place ++ "? (y/n)".toList
    | .notice text => text

/-- Draw one of the panes; the active one places the cursor. -/
def drawPane (frame : Frame) (entry : PaneId × Rect) : Frame :=
  match session.pane? entry.1 with
  | none => frame
  | some pane =>
      let drawn := pane.draw frame.grid entry.2.x entry.2.y
      ⟨drawn.1, if entry.1 = session.active then drawn.2 else frame.cursor⟩

def drawDivider (grid : Grid) (divider : Divider) : Grid :=
  (List.range divider.length).foldl
    (fun grid step =>
      if divider.vertical then grid.put divider.x (divider.y + step) (.styled '│' {})
      else grid.put (divider.x + step) divider.y (.styled '─' {}))
    grid

def drawOverlay (frame : Frame) (text : List Char) (rect : Rect) : Frame :=
  let y := rect.y + (rect.h - 1)
  let grid := frame.grid.fill rect.x y rect.w .blank
  let drawn := grid.putText rect.x y text { inverse := true } rect.w
  ⟨drawn.1, (rect.x + min drawn.2 (rect.w - 1), y)⟩

def draw : Frame :=
  let grid := Grid.blank session.cols session.rows
  if session.exited then
    ⟨(grid.putText 0 0 "[exited]".toList {} session.cols).1, (0, 1)⟩
  else
    let frame := session.paneRects.foldl session.drawPane ⟨grid, (0, 0)⟩
    let dividers := if session.zoomed then [] else session.layout.dividers session.area
    let frame := { frame with grid := dividers.foldl drawDivider frame.grid }
    match session.overlayText?, session.paneRects.lookup session.active with
    | some text, some rect => drawOverlay frame text rect
    | _, _ => frame

/-- The text of the last row of the active pane. -/
def status : List Char :=
  match session.overlayText? with
  | some text => text
  | none =>
      let pane := session.activePane
      let text := pane.status.1
      if pane.width < textWidth text then text.take pane.width else text

end Session

end ModalPanes
