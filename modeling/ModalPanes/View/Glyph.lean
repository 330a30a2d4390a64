import ModalPanes.Unicode.Letter
import ModalPanes.Unicode.Width

/-!
# Glyphs

A line is drawn as a list of glyphs: characters, the pieces of a tab, the two signs of a control
character, and fillers.  `Glyph.wrap` breaks such a list into rows of a given width, and `Glyph.clip`
shows the part of it that a window covers.
-/

namespace ModalPanes

/-- The cells that a character takes when it starts at a given cell of its line: a tab goes to the next
stop, and a control character is shown by two signs. -/
def cellWidth (tabStop start : Nat) (c : Char) : Nat :=
  if c = '\t' then tabStop - start % tabStop
  else if Unicode.isControl c then 2
  else Unicode.width c

def cellsFrom (tabStop start : Nat) : List Char → Nat
  | [] => start
  | c :: rest => cellsFrom tabStop (start + cellWidth tabStop start c) rest

def displayColumn (line : List Char) (col tabStop : Nat) : Nat :=
  cellsFrom (max tabStop 1) 0 (line.take col)

/-- Something drawn in one cell or two, with the column that it belongs to; fillers have none. -/
structure Glyph where
  col : Option Nat
  char : Char
  width : Nat
deriving DecidableEq

namespace Glyph

/-- A sign that belongs to no column. -/
def filler (c : Char) : Glyph := ⟨none, c, 1⟩

def controlSign (c : Char) : Char := Char.ofNat (c.toNat ^^^ 0x40)

/-- The glyphs of a character: blanks for a tab, two signs for a control character, none for a
character without width. -/
def ofChar (tabStop start col : Nat) (c : Char) : List Glyph :=
  let width := cellWidth tabStop start c
  if c = '\t' then List.replicate width ⟨some col, ' ', 1⟩
  else if Unicode.isControl c then [⟨some col, '^', 1⟩, ⟨some col, controlSign c, 1⟩]
  else if width = 0 then []
  else [⟨some col, c, width⟩]

/-- The glyphs of a text that starts at a cell and a column of its line. -/
def ofTextFrom (tabStop start col : Nat) : List Char → List Glyph
  | [] => []
  | c :: rest =>
      ofChar tabStop start col c ++
        ofTextFrom tabStop (start + cellWidth tabStop start c) (col + 1) rest

def ofLine (tabStop : Nat) (line : List Char) : List Glyph := ofTextFrom tabStop 0 0 line

def total : List Glyph → Nat
  | [] => 0
  | glyph :: rest => glyph.width + total rest

/-- The rest of the present row and the rows behind it, when `used` cells of the row are taken.  A glyph
that no longer fits starts a new row, and fillers take what it leaves. -/
def wrapFrom (width used : Nat) : List Glyph → List Glyph × List (List Glyph)
  | [] => ([], [])
  | glyph :: rest =>
      if 0 < used ∧ width < used + glyph.width then
        let later := wrapFrom width glyph.width rest
        (List.replicate (width - used) (filler '>'), (glyph :: later.1) :: later.2)
      else
        let later := wrapFrom width (used + glyph.width) rest
        (glyph :: later.1, later.2)

/-- The rows of a list of glyphs, at least one. -/
def wrap (width : Nat) (glyphs : List Glyph) : List (List Glyph) :=
  let rows := wrapFrom (max width 1) 0 glyphs
  rows.1 :: rows.2

/-- The glyphs between two cells, for a list that starts at a given cell; one that an edge cuts is
blank. -/
def clipFrom (left right start : Nat) : List Glyph → List Glyph
  | [] => []
  | glyph :: rest =>
      let stop := start + glyph.width
      let shown :=
        if left < stop ∧ start < right then
          if start < left ∨ right < stop then
            List.replicate (min stop right - max start left) ⟨glyph.col, ' ', 1⟩
          else [glyph]
        else []
      shown ++ clipFrom left right stop rest

/-- The glyphs in a window of the given width.  The window has to end at a number of a machine word. -/
def clip (left width : Nat) (glyphs : List Glyph) : List Glyph := clipFrom left (left + width) 0 glyphs

/-- Every glyph of a row with the cell at which it starts. -/
def placed (start : Nat) : List Glyph → List (Nat × Glyph)
  | [] => []
  | glyph :: rest => (start, glyph) :: placed (start + glyph.width) rest

@[simp] theorem total_nil : total [] = 0 := rfl

@[simp] theorem total_cons (glyph : Glyph) (rest : List Glyph) :
    total (glyph :: rest) = glyph.width + total rest := rfl

@[simp] theorem total_append (a b : List Glyph) : total (a ++ b) = total a + total b := by
  induction a with
  | nil => simp
  | cons glyph rest ih => simp [ih, Nat.add_assoc]

end Glyph

end ModalPanes
