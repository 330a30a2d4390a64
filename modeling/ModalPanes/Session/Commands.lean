import ModalPanes.Session.Basic

/-!
# Commands of a session

Splitting, closing, zooming, choosing and resizing panes, and the keys that do it.  A key goes to the
active pane unless it follows the leader key or answers a question.
-/

namespace ModalPanes

namespace Session

variable (session : Session)

def splitRoom : Nat := 3

/-- Split the active pane; the new pane is empty and gets the focus. -/
def split (kind : SplitKind) : Session :=
  let session := session.unzoom
  match session.layout.rectOf? session.active session.area with
  | none => session
  | some rect =>
      if rect.extent kind < splitRoom then
        { session with overlay := some (.notice "no space for new pane".toList) }
      else
        let id := session.nextId
        let session :=
          { session with
            nextId := id + 1
            layout := (session.layout.splitPane? session.active id kind).getD session.layout
            panes := session.panes ++ [(id, Pane.showing {} session.options rect.w rect.h)] }
        (session.select id).arrange

/-- The pane that gets the focus when the active one closes: the last one that had it, or else the
neighbour in the order of the layout. -/
def heir (order : List PaneId) (closed : PaneId) : PaneId :=
  let place := (order.idxOf? closed).getD 0
  let neighbor := (order[if 0 < place then place - 1 else 1]?).getD session.active
  (session.lastActive.filter session.isOpen).getD neighbor

def closePane (id : PaneId) : Session :=
  if !session.isOpen id then session
  else
    let session := session.unzoom
    let order := session.layout.leaves
    if order.length = 1 then { session with exited := true }
    else
      let session :=
        { session with
          layout := (session.layout.remove? id).getD session.layout
          panes := session.panes.filter fun entry => entry.1 != id }
      let session :=
        if session.active = id then
          { session with active := session.heir order id, lastActive := none }
        else if session.lastActive = some id then { session with lastActive := none }
        else session
      session.arrange

/-- Close the active pane, but ask first if its text was changed. -/
def killActive : Session :=
  let session := session.unzoom
  if session.activePane.isDirty then
    { session with overlay := some (.confirmKill session.active) }
  else session.closePane session.active

/-- Zoom the active pane or end the zoom; a single pane cannot be zoomed. -/
def toggleZoom : Session :=
  if session.layout.paneCount < 2 then session
  else { session with zoomed := !session.zoomed }.arrange

def selectSide (side : Side) : Session :=
  let session := session.unzoom
  match session.layout.neighbor? session.active side session.area with
  | some id => session.select id
  | none => session

def resizePane (side : Side) (amount : Nat) : Session :=
  let session := session.unzoom
  match session.layout.resize? session.active side amount session.area with
  | some layout => { session with layout := layout }.arrange
  | none => session

/-- Move the focus to the next pane in the order of the layout. -/
def selectNext : Session :=
  let session := session.unzoom
  session.select (session.layout.next session.active)

/-- Move the focus back to the pane that had it last. -/
def selectLast : Session :=
  match session.lastActive.filter session.isOpen with
  | some id => session.unzoom.select id
  | none => session

/-- The cells that a divider moves by with Ctrl. -/
def smallStep : Nat := 1

/-- The cells that a divider moves by with Alt. -/
def largeStep : Nat := 5

def sideOf? : KeyCode → Option Side
  | .left => some .left
  | .right => some .right
  | .up => some .up
  | .down => some .down
  | _ => none

/-- An arrow key behind the leader: choose the pane on that side, or move the divider. -/
def handleArrow (side : Side) (mods : Modifiers) : Session :=
  if mods = { ctrl := true } then session.resizePane side smallStep
  else if mods = { alt := true } then session.resizePane side largeStep
  else if mods = {} then session.selectSide side
  else session

/-- A key behind the leader.  The leader itself goes to the pane; a key without a meaning is dropped. -/
def handleLed (key : Key) : Session :=
  if key = session.leader then session.onPane session.active (·.handleKey key)
  else
    match sideOf? key.code with
    | some side => session.handleArrow side key.mods
    | none =>
        match key.typed? with
        | some '%' => session.split .vertical
        | some '"' => session.split .horizontal
        | some 'x' => session.killActive
        | some 'z' => session.toggleZoom
        | some 'o' => session.selectNext
        | some ';' => session.selectLast
        | _ => session

/-- A key for the active pane, which is closed if it asks for that. -/
def handlePaneKey (key : Key) : Session :=
  let session := session.onPane session.active (·.handleKey key)
  if session.activePane.closing then
    (session.onPane session.active fun pane => { pane with closing := false }).closePane
      session.active
  else session

def handleKey (key : Key) : Session :=
  if session.exited then session
  else
    match session.overlay with
    | some (.confirmKill id) =>
        let session := { session with overlay := none }
        if key.typed? = some 'y' then session.closePane id else session
    | _ =>
        let session := { session with overlay := none }
        if session.led then { session with led := false }.handleLed key
        else if key = session.leader then { session with led := true }
        else session.handlePaneKey key

def handleKeys (keys : List Key) : Session := keys.foldl handleKey session

/-- Handle the keys of typed text in which names in angle brackets stand for keys. -/
def handleTyped (text : List Char) : Session := session.handleKeys (Key.readTyped text)

/-- Handle the keys of tokens; the first one that names no key ends it. -/
def handleTokens (session : Session) : List (List Char) → Session × Option SessionError
  | [] => (session, none)
  | token :: rest =>
      match Key.readToken token with
      | .ok keys => (session.handleKeys keys).handleTokens rest
      | .error error => (session, some (.key error))

end Session

end ModalPanes
