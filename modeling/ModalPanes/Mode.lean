/-!
# Modes

A pane is always in exactly one mode.  The mode decides what keys mean, and whether the cursor may stand
behind the last character of a line.
-/

namespace ModalPanes

/-- Forward or backward in the text. -/
inductive Direction where
  | forward
  | backward
deriving DecidableEq, Inhabited

namespace Direction

def opposite : Direction → Direction
  | forward => backward
  | backward => forward

def isForward : Direction → Bool
  | forward => true
  | backward => false

def sign : Direction → Char
  | forward => '/'
  | backward => '?'

@[simp] theorem opposite_opposite (direction : Direction) : direction.opposite.opposite = direction := by
  cases direction <;> rfl

end Direction

/-- The shape of a Visual selection. -/
inductive VisualKind where
  | char
  | line
  | block
deriving DecidableEq, Inhabited

inductive Mode where
  | normal
  | insert
  | replace
  | visual (kind : VisualKind)
  | commandLine
deriving DecidableEq, Inhabited

namespace Mode

def all : List Mode :=
  [normal, insert, replace, visual .char, visual .line, visual .block, commandLine]

def name : Mode → List Char
  | normal => "normal".toList
  | insert => "insert".toList
  | replace => "replace".toList
  | visual .char => "visual".toList
  | visual .line => "visual_line".toList
  | visual .block => "visual_block".toList
  | commandLine => "command_line".toList

/-- What the status row says about the mode. -/
def indicator : Mode → List Char
  | normal | commandLine => []
  | insert => "-- INSERT --".toList
  | replace => "-- REPLACE --".toList
  | visual .char => "-- VISUAL --".toList
  | visual .line => "-- VISUAL LINE --".toList
  | visual .block => "-- VISUAL BLOCK --".toList

/-- Whether the cursor may stand behind the last character of a line. -/
def cursorPastEnd : Mode → Bool
  | insert | replace => true
  | _ => false

def visualKind? : Mode → Option VisualKind
  | visual kind => some kind
  | _ => none

/-- Whether text is selected. -/
def isVisual (mode : Mode) : Bool := mode.visualKind?.isSome

/-- Whether typed characters go into the text. -/
def isTyping : Mode → Bool
  | insert | replace => true
  | _ => false

end Mode

end ModalPanes
