import ModalPanes.Proofs.Screen.Texts

/-!
# Painting a grid

What is drawn on a grid are strokes on its rows.  Every drawing routine says where its strokes are; the rest of
the grid, and that no half of a character is left alone, follows for all of them.
-/

namespace ModalPanes

namespace Grid

/-- Strokes that paint a grid: rows, columns and cells for which `ok` holds. -/
structure Paints (ok : Nat → Nat → Nat → Prop) (grid next : Grid) : Prop where
  width : next.width = grid.width
  rows : next.rows.length = grid.rows.length
  row : ∀ y row, next.rows[y]? = some row →
    ∃ before : Row, grid.rows[y]? = some before ∧ before.Paints (ok y) row

variable {ok : Nat → Nat → Nat → Prop} {grid middle next : Grid} {x y : Nat}

namespace Paints

theorem refl (grid : Grid) : grid.Paints ok grid := ⟨rfl, rfl, fun _ row here => ⟨row, here, .refl⟩⟩

theorem trans (first : grid.Paints ok middle) (second : middle.Paints ok next) : grid.Paints ok next := by
  constructor
  · exact second.width.trans first.width
  · exact second.rows.trans first.rows
  · intro y row here
    obtain ⟨between, found, later⟩ := second.row y row here
    obtain ⟨before, start, earlier⟩ := first.row y between found
    exact ⟨before, start, earlier.trans later⟩

theorem mono {ok' : Nat → Nat → Nat → Prop} (paints : grid.Paints ok next)
    (more : ∀ y x n, ok y x n → ok' y x n) : grid.Paints ok' next := by
  constructor
  · exact paints.width
  · exact paints.rows
  · intro y row here
    obtain ⟨before, start, painted⟩ := paints.row y row here
    exact ⟨before, start, painted.mono (more y)⟩

theorem foldl {α : Type} {step : Grid → α → Grid} {entries : List α}
    (each : ∀ entry ∈ entries, ∀ grid, Paints ok grid (step grid entry)) (grid : Grid) :
    grid.Paints ok (entries.foldl step grid) := by
  induction entries generalizing grid with
  | nil => exact refl grid
  | cons entry entries ih =>
      have first := each entry List.mem_cons_self grid
      exact first.trans (ih (fun entry mem => each entry (List.mem_cons_of_mem _ mem)) (step grid entry))

theorem onRow {change : Row → Row} (y : Nat) (grid : Grid)
    (painted : ∀ row : Row, row.Paints (ok y) (change row)) : grid.Paints ok (grid.onRow y change) := by
  constructor
  · rfl
  · exact List.length_modify ..
  · intro other row here
    rw [Grid.onRow, List.getElem?_modify] at here
    obtain ⟨before, start, changed⟩ := Option.map_eq_some_iff.1 here
    refine ⟨before, start, ?_⟩
    subst changed
    split_ifs with same
    · exact same ▸ painted before
    · exact .refl

/-- A row without strokes stays as it is. -/
theorem row_eq (paints : grid.Paints ok next) (none : ∀ x n, ¬ ok y x n) : next.rows[y]? = grid.rows[y]? := by
  cases here : next.rows[y]? with
  | none =>
      rw [List.getElem?_eq_none_iff, paints.rows] at here
      exact (List.getElem?_eq_none_iff.2 here).symm
  | some row =>
      obtain ⟨before, start, painted⟩ := paints.row y row here
      rw [start, painted.eq_self none]

end Paints

/-- Every row has the same length, and no half of a character is left alone in it. -/
def Sound (length : Nat) (grid : Grid) : Prop := ∀ row ∈ grid.rows, row.length = length ∧ row.Sound

theorem sound_blank (width height : Nat) : (blank width height).Sound width := by
  intro row mem
  obtain ⟨-, rfl⟩ := List.mem_replicate.1 mem
  refine ⟨List.length_replicate .., ?_, ?_, ?_⟩
  · cases width <;> rfl
  · intro x within
    rw [List.length_replicate] at within
    simp only [Row.continues, Row.isWideAt, List.getElem?_replicate, within, Nat.lt_of_succ_lt within, if_true]
    decide
  · intro cell mem c shown
    obtain ⟨-, rfl⟩ := List.mem_replicate.1 mem
    obtain rfl := Option.some.inj shown
    decide

theorem Paints.sound {length : Nat} (paints : grid.Paints ok next) (sound : grid.Sound length) :
    next.Sound length := by
  intro row mem
  obtain ⟨y, here⟩ := List.mem_iff_getElem?.1 mem
  obtain ⟨before, start, painted⟩ := paints.row y row here
  obtain ⟨long, whole⟩ := sound before (List.mem_of_getElem? start)
  exact ⟨painted.length.trans long, painted.sound whole⟩

section Drawing

variable {c : Char}

theorem paints_put (grid : Grid) (attr : Attr) (takes : Unicode.width c ≠ 0) (narrow : Unicode.width c ≠ 2)
    (inside : ok y x 1) : grid.Paints ok (grid.put x y (.styled c attr)) :=
  .onRow y grid fun _ => .single .refl takes narrow inside

theorem paints_double (grid : Grid) (attr : Attr) (wide : Unicode.width c = 2) (inside : ok y x 2) :
    grid.Paints ok ((grid.put x y (.styled c attr)).put (x + 1) y (.continuation attr)) := by
  have both : (grid.put x y (.styled c attr)).put (x + 1) y (.continuation attr) =
      grid.onRow y fun row => (row.put x (.styled c attr)).put (x + 1) (.continuation attr) := by
    unfold put onRow
    rw [List.modify_modify_eq]
    rfl
  rw [both]
  exact .onRow y grid fun _ => .double .refl wide inside

theorem paints_fill (grid : Grid) (x y count : Nat) :
    grid.Paints (fun row col n => row = y ∧ x ≤ col ∧ col + n ≤ x + count) (grid.fill x y count .blank) := by
  refine .onRow y grid fun row => (row.paints_fill x _).mono fun col n inside => ?_
  omega

theorem putText_fst (grid : Grid) (x y : Nat) (text : List Char) (attr : Attr) (columns : Nat) :
    (grid.putText x y text attr columns).1 =
      grid.onRow y fun row => (Row.putText attr (min (x + columns) grid.width) row x text).1 := by
  unfold putText onRow
  rw [List.modify_eq_set_getElem?]
  split <;> rename_i here <;> rw [here] <;> rfl

theorem paints_putText (grid : Grid) (x y : Nat) (text : List Char) (attr : Attr) (columns : Nat) :
    grid.Paints (fun row col n => row = y ∧ x ≤ col ∧ col + n ≤ x + columns)
      (grid.putText x y text attr columns).1 := by
  rw [putText_fst]
  refine .onRow y grid fun row => (Row.paints_putText attr _ row x text).mono fun col n inside => ?_
  omega

end Drawing

section Written

variable {cells : Row} {n : Nat}

/-- These cells stand in a row of the grid from a column on, and no character is cut at their edges. -/
def ShowsAt (grid : Grid) (x y : Nat) (cells : Row) : Prop :=
  ∃ row ∈ grid.rows[y]?, row.Shows x cells

theorem rows_onRow {row : Row} (here : grid.rows[y]? = some row) (change : Row → Row) :
    (grid.onRow y change).rows[y]? = some (change row) := by
  rw [onRow, List.getElem?_modify, here]
  simp only [if_true, Option.map_eq_map, Option.map_some]

theorem showsAt_fill {row : Row} (here : grid.rows[y]? = some row) (positive : 0 < n)
    (inRow : x + n ≤ row.length) (inGrid : x + n ≤ grid.width) :
    (grid.fill x y n .blank).ShowsAt x y (List.replicate n .blank) := by
  refine ⟨_, rows_onRow here _, ?_⟩
  rw [Nat.min_eq_left inGrid, Nat.add_sub_cancel_left]
  exact row.shows_fill positive inRow

theorem ShowsAt.putText (shows : grid.ShowsAt x y (List.replicate n .blank)) (positive : 0 < n)
    (inGrid : x + n ≤ grid.width) (text : List Char) (attr : Attr) :
    (grid.putText x y text attr n).1.ShowsAt x y (Row.written attr n text) := by
  obtain ⟨row, here, shown⟩ := shows
  rw [putText_fst, Nat.min_eq_left inGrid]
  exact ⟨_, rows_onRow here _, shown.putText positive attr text⟩

theorem ShowsAt.paints (shows : grid.ShowsAt x y cells) (positive : 0 < cells.length)
    (paints : grid.Paints ok next)
    (beside : ∀ col n, ok y col n → col + n ≤ x ∨ x + cells.length ≤ col) : next.ShowsAt x y cells := by
  obtain ⟨before, start, shown⟩ := shows
  have present : y < next.rows.length := by
    rw [paints.rows]
    exact (List.getElem?_eq_some_iff.1 start).1
  obtain ⟨first, found, painted⟩ := paints.row y _ (List.getElem?_eq_getElem present)
  obtain rfl := Option.some.inj (start.symm.trans found)
  exact ⟨_, List.getElem?_eq_getElem present, shown.paints positive painted beside⟩

end Written

end Grid

end ModalPanes
