import ModalPanes.Text.Buffer

/-!
# The cursor

The cursor is a position, the column that vertical movement aims for, and the fixed end of a Visual
selection.  Between characters (`pastEnd`) it may stand behind the last one of a line; otherwise it stands
on a character, or at the start of an empty line.

Going through a short line and on brings the cursor back to its column, because the wanted column is
kept apart; after a jump to the end of a line it is the end of whatever line comes.
-/

namespace ModalPanes

/-- The column that vertical movement aims for. -/
inductive Sticky where
  | column (col : Nat)
  | lineEnd
deriving DecidableEq, Inhabited

namespace Sticky

def within (last : Nat) : Sticky → Nat
  | .column col => min col last
  | .lineEnd => last

@[simp] theorem within_le (last : Nat) (sticky : Sticky) : sticky.within last ≤ last := by
  cases sticky
  · exact Nat.min_le_right _ _
  · exact Nat.le_refl _

end Sticky

/-- A cursor in a buffer. -/
structure Cursor where
  pos : Position
  sticky : Sticky
  anchor : Option Position := none
deriving DecidableEq

namespace Cursor

/-- A cursor at a position, without a selection. -/
def ofPosition (pos : Position) : Cursor := ⟨pos, .column pos.col, none⟩

instance : Inhabited Cursor := ⟨Cursor.ofPosition .zero⟩

def setAnchor (cur : Cursor) : Cursor := { cur with anchor := some cur.pos }

def clearAnchor (cur : Cursor) : Cursor := { cur with anchor := none }

/-- Change ends with the selection's fixed end. -/
def swapAnchor (cur : Cursor) : Cursor :=
  match cur.anchor with
  | some anchor => ⟨anchor, .column anchor.col, some cur.pos⟩
  | none => cur

/-- Stand at a column of the present line, and remember it. -/
def atColumn (cur : Cursor) (col : Nat) : Cursor :=
  { cur with pos := cur.pos.withCol col, sticky := .column col }

/-- Stand at a position, and remember its column. -/
def atPosition (cur : Cursor) (pos : Position) : Cursor :=
  { cur with pos := pos, sticky := .column pos.col }

def jump (cur : Cursor) (buf : Buffer) (pastEnd : Bool) (pos : Position) : Cursor :=
  cur.atPosition (buf.nearest pastEnd pos)

/-- The first character of the present line that is not blank. -/
def toFirstNonBlank (cur : Cursor) (buf : Buffer) (pastEnd : Bool) : Cursor :=
  cur.atColumn (min (buf.firstNonBlank cur.pos.line) (buf.lastColumn pastEnd cur.pos.line))

/-- Jump to a line, or the last one, and its first character that is not blank. -/
def toLine (cur : Cursor) (buf : Buffer) (pastEnd : Bool) (line : Nat) : Cursor :=
  { cur with pos := ⟨min line buf.lastLine, cur.pos.col⟩ }.toFirstNonBlank buf pastEnd

/-- Change the wanted column without moving. -/
def setSticky (cur : Cursor) (sticky : Sticky) : Cursor := { cur with sticky := sticky }

def left (cur : Cursor) (buf : Buffer) (pastEnd : Bool) (count : Nat) : Cursor :=
  cur.atColumn (min cur.pos.col (buf.lastColumn pastEnd cur.pos.line) - count)

def right (cur : Cursor) (buf : Buffer) (pastEnd : Bool) (count : Nat) : Cursor :=
  cur.atColumn (min (cur.pos.col + count) (buf.lastColumn pastEnd cur.pos.line))

def toLineStart (cur : Cursor) : Cursor := cur.atColumn 0

/-- The end of the line, and of every line that vertical movement reaches. -/
def toLineEnd (cur : Cursor) (buf : Buffer) (pastEnd : Bool) : Cursor :=
  { cur with
    pos := cur.pos.withCol (buf.lastColumn pastEnd cur.pos.line)
    sticky := .lineEnd }

/-- The column counted from one, or the last one of the line. -/
def toColumn (cur : Cursor) (buf : Buffer) (pastEnd : Bool) (n : Nat) : Cursor :=
  cur.atColumn (min (n - 1) (buf.lastColumn pastEnd cur.pos.line))

/-- Stand on a line at the wanted column. -/
def onLine (cur : Cursor) (buf : Buffer) (pastEnd : Bool) (line : Nat) : Cursor :=
  { cur with pos := ⟨line, cur.sticky.within (buf.lastColumn pastEnd line)⟩ }

/-- Up, at most to the first line. -/
def up (cur : Cursor) (buf : Buffer) (pastEnd : Bool) (count : Nat) : Cursor :=
  cur.onLine buf pastEnd (cur.pos.line - count)

/-- Down, at most to the last line. -/
def down (cur : Cursor) (buf : Buffer) (pastEnd : Bool) (count : Nat) : Cursor :=
  cur.onLine buf pastEnd (min (cur.pos.line + count) buf.lastLine)

/-- Take a step several times, at least once, and then the nearest place for a cursor. -/
def steps (cur : Cursor) (buf : Buffer) (pastEnd : Bool) (step : Position → Position) (count : Nat) :
    Cursor :=
  cur.jump buf pastEnd (Nat.repeat step (max count 1) cur.pos)

/-- Back into the buffer after an edit, the selection's fixed end included. -/
def clamp (cur : Cursor) (buf : Buffer) (pastEnd : Bool) : Cursor :=
  { cur with
    pos := buf.nearest pastEnd cur.pos
    anchor := cur.anchor.map (buf.nearest true) }

end Cursor

end ModalPanes
