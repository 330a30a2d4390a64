import ModalPanes.Key.Name
import ModalPanes.Layout
import ModalPanes.Pane.Keys

/-!
# Sessions

A session holds every pane of a terminal, the layout tree that places them and the order of focus.  Panes
that are visible have the size of their rectangles; while one pane is zoomed it has the whole terminal.
Whatever changes the layout or the focus ends the zoom first.
-/

namespace ModalPanes

/-- What a session starts with: the size of the terminal, the options of every pane, the name of the first
buffer, and the key in front of the commands of the session. -/
structure Setup where
  cols : Nat := 80
  rows : Nat := 24
  options : Options := {}
  filename : Option (List Char) := none
  leader : Key := .ctrl 'b'
deriving DecidableEq

/-- What can go wrong with a session. -/
inductive SessionError where
  | key (error : KeyError)
  | terminalSize (cols rows : Nat)
  | unknownPane (id : PaneId)
deriving DecidableEq

namespace SessionError

def message : SessionError → List Char
  | key error => "invalid key token: ".toList ++ error.message
  | terminalSize cols rows =>
      "terminal size ".toList ++ decimal cols ++ 'x' :: decimal rows ++
        " is too small (need at least 2x2)".toList
  | unknownPane id => "no pane with id ".toList ++ decimal id

def fullMessage : SessionError → List Char
  | key error => (key error).message ++ ": ".toList ++ error.message
  | error => error.message

end SessionError

/-- What is drawn over the status row of the active pane: the question whether to close a pane, or a
notice. -/
inductive Overlay where
  | confirmKill (id : PaneId)
  | notice (text : List Char)
deriving DecidableEq

/-- Every pane of a terminal. -/
structure Session where
  cols : Nat
  rows : Nat
  options : Options
  leader : Key
  panes : List (PaneId × Pane)
  layout : Layout
  active : PaneId := 0
  lastActive : Option PaneId := none
  nextId : PaneId := 1
  zoomed : Bool := false
  /-- The last key was the leader. -/
  led : Bool := false
  overlay : Option Overlay := none
  exited : Bool := false
deriving DecidableEq

namespace Session

def start (setup : Setup) (text : List Char) : Except SessionError Session :=
  if setup.cols < 2 ∨ setup.rows < 2 then .error (.terminalSize setup.cols setup.rows)
  else
    let buffer := { Buffer.ofText text with name := setup.filename }
    .ok
      { cols := setup.cols
        rows := setup.rows
        options := setup.options
        leader := setup.leader
        panes := [(0, .showing buffer setup.options setup.cols setup.rows)]
        layout := .leaf 0 }

variable (session : Session)

/-- The pane with a number, if it is open. -/
def pane? (id : PaneId) : Option Pane := session.panes.lookup id

def pane (id : PaneId) : Except SessionError Pane :=
  match session.pane? id with
  | some pane => .ok pane
  | none => .error (.unknownPane id)

def isOpen (id : PaneId) : Bool := (session.pane? id).isSome

def onPane (id : PaneId) (change : Pane → Pane) : Session :=
  { session with
    panes := session.panes.map fun entry =>
      if entry.1 = id then (entry.1, change entry.2) else entry }

def activePane : Pane :=
  (session.pane? session.active).getD (.showing {} session.options session.cols session.rows)

/-- The numbers of the panes in the order of the layout. -/
def paneIds : List PaneId := session.layout.leaves

def area : Rect := ⟨0, 0, session.cols, session.rows⟩

def paneRects : List (PaneId × Rect) :=
  if session.zoomed then [(session.active, session.area)] else session.layout.rects session.area

/-- Every visible pane gets the size of its rectangle. -/
def arrange : Session :=
  session.paneRects.foldl
    (fun session entry => session.onPane entry.1 (·.resize entry.2.w entry.2.h)) session

def unzoom : Session :=
  if session.zoomed then { session with zoomed := false }.arrange else session

def select (id : PaneId) : Session :=
  if id ≠ session.active ∧ session.isOpen id then
    { session with lastActive := some session.active, active := id }
  else session

end Session

end ModalPanes
