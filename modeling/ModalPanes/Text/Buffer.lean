import ModalPanes.Text.Position
import ModalPanes.Text.Line

/-!
# Buffers

A buffer is the text being edited, with a name and a flag that says whether it was changed.  Lines are
read off the text, so an edit is a change of the text alone.  `index` and `positionOf` go between
positions and character indices; both accept anything and answer a place in the buffer.
-/

namespace ModalPanes

/-- A text under edit. -/
structure Buffer where
  text : List Char := []
  name : Option (List Char) := none
  modified : Bool := false
deriving DecidableEq, Inhabited

namespace Buffer

/-- Each carriage return in front of a line feed is dropped. -/
def normalizeBreaks : List Char → List Char
  | '\r' :: '\n' :: rest => '\n' :: normalizeBreaks rest
  | c :: rest => c :: normalizeBreaks rest
  | [] => []

/-- The buffer of a text as it stands in a file: the line feed that ends the file is no line. -/
def ofText (text : List Char) : Buffer :=
  { text := Line.trimBreak (normalizeBreaks text) }

/-- The lines with their breaks. -/
def pieces (buf : Buffer) : List (List Char) := Line.pieces buf.text

/-- The number of lines, at least one. -/
def lineCount (buf : Buffer) : Nat := buf.pieces.length

/-- The number of characters. -/
def length (buf : Buffer) : Nat := buf.text.length

/-- The size of the file in bytes, with the line feed at its end. -/
def writtenBytes (buf : Buffer) : Nat := byteLength buf.text + 1

/-- A line without its line feed. -/
def line? (buf : Buffer) (n : Nat) : Option (List Char) :=
  buf.pieces[n]?.map Line.trimBreak

/-- A line without its line feed; lines that do not exist are empty. -/
def line (buf : Buffer) (n : Nat) : List Char := (buf.line? n).getD []

/-- The number of characters of a line, its line feed apart. -/
def lineLength (buf : Buffer) (n : Nat) : Nat := (buf.line n).length

def lines (buf : Buffer) : List (List Char) := buf.pieces.map Line.trimBreak

/-- The character at a position, if there is one before the end of the line. -/
def charAt? (buf : Buffer) (pos : Position) : Option Char := (buf.line pos.line)[pos.col]?

def lineStart (buf : Buffer) (n : Nat) : Nat := (buf.pieces.take n).flatten.length

/-- The character index of a position: lines beyond the end are the end, columns beyond the line are
its end. -/
def index (buf : Buffer) (pos : Position) : Nat :=
  if pos.line < buf.lineCount then
    buf.lineStart pos.line + min pos.col (buf.lineLength pos.line)
  else buf.length

/-- The line and column at which a character index lies in a text cut into lines, the first of which
has number `line`. -/
def locate (line : Nat) : List (List Char) → Nat → Position
  | piece :: next :: rest, index =>
      if index < piece.length then ⟨line, index⟩
      else locate (line + 1) (next :: rest) (index - piece.length)
  | _, index => ⟨line, index⟩

/-- The position of a character index; beyond the end it is the end. -/
def positionOf (buf : Buffer) (index : Nat) : Position :=
  locate 0 buf.pieces (min index buf.length)

/-- The nearest position that holds a character, or the start of an empty line. -/
def clamp (buf : Buffer) (pos : Position) : Position :=
  let line := min pos.line (buf.lineCount - 1)
  ⟨line, min pos.col (buf.lineLength line - 1)⟩

def slice (buf : Buffer) (range : Range) : List Char :=
  (buf.text.take (buf.index range.stop)).drop (buf.index range.start)

def insert (buf : Buffer) (pos : Position) (text : List Char) : Buffer :=
  if text.isEmpty then buf
  else
    let i := buf.index pos
    { buf with text := buf.text.take i ++ text ++ buf.text.drop i, modified := true }

def erase (buf : Buffer) (range : Range) : Buffer :=
  let first := buf.index range.start
  let last := buf.index range.stop
  if last ≤ first then buf
  else { buf with text := buf.text.take first ++ buf.text.drop last, modified := true }

def describe (buf : Buffer) : List Char :=
  "Buffer \x7b lines: ".toList ++ decimal buf.lineCount ++ ", name: ".toList ++
    (match buf.name with
      | some name => "Some(".toList ++ quoteText name ++ [')']
      | none => "None".toList) ++
    ", modified: ".toList ++ (toString buf.modified).toList ++ " \x7d".toList

/-- A buffer has at least one line. -/
theorem lineCount_pos (buf : Buffer) : 0 < buf.lineCount :=
  List.length_pos_iff.2 (Line.pieces_ne_nil buf.text)

def lastColumn (buf : Buffer) (pastEnd : Bool) (line : Nat) : Nat :=
  if pastEnd then buf.lineLength line else buf.lineLength line - 1

/-- The column of the first character that is neither space nor tab, or the length of the line. -/
def firstNonBlank (buf : Buffer) (line : Nat) : Nat :=
  ((buf.line line).takeWhile fun c => c == ' ' || c == '\t').length

def lastLine (buf : Buffer) : Nat := buf.lineCount - 1

def nearest (buf : Buffer) (pastEnd : Bool) (pos : Position) : Position :=
  let line := min pos.line buf.lastLine
  ⟨line, min pos.col (buf.lastColumn pastEnd line)⟩

/-- The columns of a character in a list of characters that starts at the given column. -/
def columnsOf (c : Char) (col : Nat) : List Char → List Nat
  | [] => []
  | d :: rest => if d = c then col :: columnsOf c (col + 1) rest else columnsOf c (col + 1) rest

/-- The column of the `count`th occurrence of a character behind `pos`. -/
def findForward? (buf : Buffer) (pos : Position) (c : Char) (count : Nat) : Option Nat :=
  (columnsOf c (pos.col + 1) ((buf.line pos.line).drop (pos.col + 1)))[count - 1]?

/-- The column of the `count`th occurrence of a character in front of `pos`. -/
def findBackward? (buf : Buffer) (pos : Position) (c : Char) (count : Nat) : Option Nat :=
  (columnsOf c 0 ((buf.line pos.line).take pos.col)).reverse[count - 1]?

theorem nearest_line_lt (buf : Buffer) (pastEnd : Bool) (pos : Position) :
    (buf.nearest pastEnd pos).line < buf.lineCount := by
  have := buf.lineCount_pos
  simp only [nearest, lastLine]
  omega

theorem nearest_col_le (buf : Buffer) (pastEnd : Bool) (pos : Position) :
    (buf.nearest pastEnd pos).col ≤ buf.lastColumn pastEnd (buf.nearest pastEnd pos).line := by
  simp only [nearest]
  omega

end Buffer

end ModalPanes
