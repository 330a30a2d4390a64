import ModalPanes.Text.Quoted

/-!
# Positions, ranges and spans

Lines and columns count from zero, columns in characters.  A range is half open.  A span is what an
operator acts on: a range of characters, or whole lines.  A block is a rectangle of lines and columns,
its corners included.
-/

namespace ModalPanes

/-- A line and a column. -/
structure Position where
  line : Nat
  col : Nat
deriving DecidableEq, Inhabited

namespace Position

def zero : Position := ⟨0, 0⟩

/-- The same line at another column. -/
def withCol (pos : Position) (col : Nat) : Position := ⟨pos.line, col⟩

instance : LT Position where
  lt a b := a.line < b.line ∨ (a.line = b.line ∧ a.col < b.col)

/-- Reading order: lines first, then columns. -/
instance : LE Position where
  le a b := a.line < b.line ∨ (a.line = b.line ∧ a.col ≤ b.col)

instance (a b : Position) : Decidable (a < b) :=
  inferInstanceAs (Decidable (a.line < b.line ∨ (a.line = b.line ∧ a.col < b.col)))

instance (a b : Position) : Decidable (a ≤ b) :=
  inferInstanceAs (Decidable (a.line < b.line ∨ (a.line = b.line ∧ a.col ≤ b.col)))

theorem lt_def {a b : Position} : a < b ↔ a.line < b.line ∨ (a.line = b.line ∧ a.col < b.col) :=
  Iff.rfl

theorem le_def {a b : Position} : a ≤ b ↔ a.line < b.line ∨ (a.line = b.line ∧ a.col ≤ b.col) :=
  Iff.rfl

theorem le_total (a b : Position) : a ≤ b ∨ b ≤ a := by
  simp only [le_def]
  omega

theorem not_le {a b : Position} : ¬ a ≤ b ↔ b < a := by
  simp only [le_def, lt_def]
  omega

/-- The position as the user counts it, from one. -/
def display (pos : Position) : List Char :=
  decimal (pos.line + 1) ++ ',' :: decimal (pos.col + 1)

/-- A short description, counting from zero. -/
def describe (pos : Position) : List Char :=
  "Pos(".toList ++ decimal pos.line ++ ':' :: decimal pos.col ++ [')']

end Position

/-- The text from `start` up to, and without, `stop`. -/
structure Range where
  start : Position
  stop : Position
deriving DecidableEq, Inhabited

namespace Range

def between (a b : Position) : Range :=
  if a ≤ b then ⟨a, b⟩ else ⟨b, a⟩

def point (pos : Position) : Range := ⟨pos, pos⟩

/-- Whether the range holds nothing. -/
def isEmpty (range : Range) : Bool := range.start == range.stop

def contains (range : Range) (pos : Position) : Bool :=
  decide (range.start ≤ pos) && decide (pos < range.stop)

def lineSpan (range : Range) : Nat := range.stop.line - range.start.line + 1

def describe (range : Range) : List Char :=
  "Range(".toList ++ range.start.describe ++ " .. ".toList ++ range.stop.describe ++ [')']

end Range

/-- How the end of a motion counts for an operator. -/
inductive RangeKind where
  | exclusive
  | inclusive
  | linewise
deriving DecidableEq, Inhabited

/-- What an operator acts on: the characters of a range, or all lines that it touches. -/
structure Span where
  range : Range
  linewise : Bool
deriving DecidableEq, Inhabited

namespace Span

def chars (range : Range) : Span := ⟨range, false⟩

def lines (first last : Nat) : Span :=
  if first ≤ last then ⟨⟨⟨first, 0⟩, ⟨last, 0⟩⟩, true⟩ else ⟨⟨⟨last, 0⟩, ⟨first, 0⟩⟩, true⟩

def firstLine (span : Span) : Nat := span.range.start.line

def lastLine (span : Span) : Nat := span.range.stop.line

end Span

/-- A rectangle of text, all four edges included. -/
structure Block where
  top : Nat
  bottom : Nat
  left : Nat
  right : Nat
deriving DecidableEq, Inhabited

namespace Block

/-- The rectangle between two opposite corners. -/
def ofCorners (a b : Position) : Block :=
  ⟨min a.line b.line, max a.line b.line, min a.col b.col, max a.col b.col⟩

def width (block : Block) : Nat := block.right - block.left + 1

def contains (block : Block) (pos : Position) : Bool :=
  block.top ≤ pos.line && pos.line ≤ block.bottom && block.left ≤ pos.col && pos.col ≤ block.right

end Block

end ModalPanes
