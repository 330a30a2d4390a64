import ModalPanes.Text.Quoted

/-!
# Cells

A cell is one character position of the screen.  A wide character takes two cells: the first holds the
character, the second is a continuation that has no text of its own.
-/

namespace ModalPanes

/-- The marks that a cell can carry besides its character. -/
structure Attr where
  bold : Bool := false
  underline : Bool := false
  inverse : Bool := false
  search : Bool := false
  selected : Bool := false
deriving DecidableEq, Inhabited

namespace Attr

/-- The marks of either side. -/
def union (a b : Attr) : Attr :=
  ⟨a.bold || b.bold, a.underline || b.underline, a.inverse || b.inverse, a.search || b.search,
    a.selected || b.selected⟩

/-- The numeric form, one bit a mark. -/
def bits (attr : Attr) : Nat :=
  attr.bold.toNat + 2 * attr.underline.toNat + 4 * attr.inverse.toNat + 8 * attr.search.toNat +
    16 * attr.selected.toNat

/-- The marks whose bits are set; higher bits mean nothing. -/
def ofBits (n : Nat) : Attr :=
  ⟨n.testBit 0, n.testBit 1, n.testBit 2, n.testBit 3, n.testBit 4⟩

def names (attr : Attr) : List String :=
  (if attr.bold then ["BOLD"] else []) ++ (if attr.underline then ["UNDERLINE"] else []) ++
    (if attr.inverse then ["INVERSE"] else []) ++ (if attr.search then ["SEARCH"] else []) ++
    (if attr.selected then ["SELECTED"] else [])

@[simp] theorem ofBits_bits (attr : Attr) : ofBits attr.bits = attr := by
  obtain ⟨bold, underline, inverse, search, selected⟩ := attr
  cases bold <;> cases underline <;> cases inverse <;> cases search <;> cases selected <;> rfl

@[simp] theorem union_empty (attr : Attr) : attr.union {} = attr := by
  simp [union]

end Attr

/-- One character position. -/
structure Cell where
  /-- The character shown; a continuation shows none. -/
  char? : Option Char := some ' '
  attr : Attr := {}
deriving DecidableEq, Inhabited

namespace Cell

def blank : Cell := {}

def styled (c : Char) (attr : Attr) : Cell := ⟨some c, attr⟩

def continuation (attr : Attr) : Cell := ⟨none, attr⟩

/-- Whether the cell is the second one of a wide character. -/
def isContinuation (cell : Cell) : Bool := cell.char?.isNone

def withAttr (cell : Cell) (attr : Attr) : Cell := { cell with attr := cell.attr.union attr }

def describe (cell : Cell) : List Char :=
  match cell.char? with
  | none => "Cell(cont)".toList
  | some c =>
      if cell.attr = {} then "Cell(".toList ++ quoteChar c ++ [')']
      else
        "Cell(".toList ++ quoteChar c ++ ", Attr(".toList ++
          (String.intercalate " | " cell.attr.names).toList ++ "))".toList

end Cell

end ModalPanes
