import ModalPanes.Session.Drawing

/-!
# Snapshots

A snapshot is what can be seen of a session: the rows of the screen and of the active pane, its status row,
mode and text, and the terminal cursor.  Rows lose the blanks at their ends.
-/

namespace ModalPanes

structure ScreenPlace where
  row : Nat := 0
  col : Nat := 0
deriving DecidableEq, Inhabited

/-- What can be seen of a session. -/
structure Snapshot where
  screen : List (List Char) := []
  paneLines : List (List Char) := []
  status : List Char := []
  cursor : ScreenPlace := {}
  mode : List Char := []
  buffer : List (List Char) := []
deriving DecidableEq, Inhabited

namespace Snapshot

def rowsOf (grid : Grid) (rect : Rect) : List (List Char) :=
  (List.range rect.h).map fun row =>
    Blank.trimEnd ((((grid.rows[rect.y + row]?).getD []).drop rect.x).take rect.w |> Row.text)

/-- The snapshot of a session.  One that has ended shows no pane. -/
def capture (session : Session) : Snapshot :=
  let frame := session.draw
  let active := session.activePane
  { screen := frame.grid.lines.map Blank.trimEnd
    paneLines :=
      if session.exited then []
      else ((session.paneRects.lookup session.active).map (rowsOf frame.grid)).getD []
    status := Blank.trimEnd session.status
    cursor := ⟨frame.cursor.2, frame.cursor.1⟩
    mode := active.mode.name
    buffer := active.buffer.lines }

end Snapshot

end ModalPanes
