import ModalPanes.Screen.Cell
import ModalPanes.Unicode.Width

/-!
# The grid of cells

Everything on the screen is painted onto a grid of fixed size, row by row.  Writing over either half
of a wide character breaks the pair, so that no half is left alone: the other half becomes a space.
-/

namespace ModalPanes

def textWidth : List Char → Nat
  | [] => 0
  | c :: rest => Unicode.width c + textWidth rest

abbrev Row := List Cell

namespace Row

/-- The text of a row; continuations have none. -/
def text (row : Row) : List Char :=
  row.filterMap Cell.char?

/-- Before a cell is written: its left neighbour loses its wide character if the cell was the second
half, and its right neighbour becomes blank if that was the second half. -/
def breakWide (row : Row) (x : Nat) : Row :=
  let row :=
    if 0 < x && (row[x]?.map Cell.isContinuation).getD false then
      row.modify (x - 1) fun cell => { cell with char? := some ' ' }
    else row
  if (row[x + 1]?.map Cell.isContinuation).getD false then row.set (x + 1) .blank else row

/-- Write one cell; nothing happens beyond the end of the row. -/
def put (row : Row) (x : Nat) (cell : Cell) : Row :=
  if x < row.length then (row.breakWide x).set x cell else row

/-- Write text from column `x` up to `limit`, and say where it ended.  Characters without width are
left out, and a wide one that only half fits becomes a space. -/
def putText (attr : Attr) (limit : Nat) (row : Row) (x : Nat) : List Char → Row × Nat
  | [] => (row, x)
  | c :: rest =>
      if limit ≤ x then (row, x)
      else
        let w := Unicode.width c
        if w = 0 then putText attr limit row x rest
        else if w = 2 ∧ limit ≤ x + 1 then (row.put x (.styled ' ' attr), x + 1)
        else
          let row := row.put x (.styled c attr)
          let row := if w = 2 then row.put (x + 1) (.continuation attr) else row
          putText attr limit row (x + w) rest

/-- Write the same cell into the columns from `x` on. -/
def fill (cell : Cell) (row : Row) (x : Nat) : Nat → Row
  | 0 => row
  | count + 1 => fill cell (row.put x cell) (x + 1) count

/-- Add marks to the columns from `x` on. -/
def mark (attr : Attr) (row : Row) (x : Nat) : Nat → Row
  | 0 => row
  | count + 1 => mark attr (row.modify x (·.withAttr attr)) (x + 1) count

@[simp] theorem length_breakWide (row : Row) (x : Nat) : (row.breakWide x).length = row.length := by
  unfold breakWide
  dsimp only
  split <;> split <;> simp

@[simp] theorem length_put (row : Row) (x : Nat) (cell : Cell) :
    (row.put x cell).length = row.length := by
  unfold put
  split <;> simp

end Row

/-- A grid of cells. -/
structure Grid where
  width : Nat
  height : Nat
  rows : List Row
deriving DecidableEq

namespace Grid

def blank (width height : Nat) : Grid :=
  ⟨width, height, List.replicate height (List.replicate width .blank)⟩

def inBounds (grid : Grid) (x y : Nat) : Bool :=
  x < grid.width && y < grid.height

def get? (grid : Grid) (x y : Nat) : Option Cell :=
  grid.rows[y]?.bind (·[x]?)

/-- The rows as text, top to bottom. -/
def lines (grid : Grid) : List (List Char) :=
  grid.rows.map Row.text

def onRow (grid : Grid) (y : Nat) (change : Row → Row) : Grid :=
  { grid with rows := grid.rows.modify y change }

/-- Write one cell; outside the grid nothing happens. -/
def put (grid : Grid) (x y : Nat) (cell : Cell) : Grid :=
  grid.onRow y (·.put x cell)

/-- Write the same cell into `count` columns of a row. -/
def fill (grid : Grid) (x y count : Nat) (cell : Cell) : Grid :=
  grid.onRow y (Row.fill cell · x (min (x + count) grid.width - x))

/-- Write text into at most `maxColumns` columns of a row, and say how many it took. -/
def putText (grid : Grid) (x y : Nat) (text : List Char) (attr : Attr) (maxColumns : Nat) :
    Grid × Nat :=
  match grid.rows[y]? with
  | none => (grid, 0)
  | some row =>
      let result := Row.putText attr (min (x + maxColumns) grid.width) row x text
      ({ grid with rows := grid.rows.set y result.1 }, result.2 - x)

def mark (grid : Grid) (x y count : Nat) (attr : Attr) : Grid :=
  grid.onRow y (Row.mark attr · x (min (x + count) grid.width - x))

/-- Maximal stretches of equal marks in a row, from column `x` on: start, length and marks. -/
def runsOfRow (x : Nat) : Row → List (Nat × Nat × Attr)
  | [] => []
  | cell :: rest =>
      match runsOfRow (x + 1) rest with
      | (start, count, attr) :: runs =>
          if start = x + 1 ∧ attr = cell.attr then (x, count + 1, attr) :: runs
          else if cell.attr = {} then (start, count, attr) :: runs
          else (x, 1, cell.attr) :: (start, count, attr) :: runs
      | [] => if cell.attr = {} then [] else [(x, 1, cell.attr)]

/-- Every stretch of marked cells: row, column, length and marks, in reading order. -/
def attrRuns (grid : Grid) : List (Nat × Nat × Nat × Attr) :=
  (grid.rows.zipIdx.map fun row => (runsOfRow 0 row.1).map fun run => (row.2, run)).flatten

/-- The size, and the rows between bars. -/
def describe (grid : Grid) : List Char :=
  "Grid(".toList ++ decimal grid.width ++ ['x'] ++ decimal grid.height ++
    ")\n".toList ++ (grid.lines.map fun line => '|' :: (line ++ "|\n".toList)).flatten

end Grid

end ModalPanes
