import ModalPanes.Pane.Drawing
import ModalPanes.Proofs.Screen.Painting
import ModalPanes.Proofs.View.Rows

/-!
# Where a pane paints

A pane drawn at a place paints between its edges, in its text rows and its status row.  A wrapped row of one
column is the exception: it cannot hold a double-width character, and the second half is painted behind the right
edge, if there is a cell.  The status row is written last, onto blanks.
-/

namespace ModalPanes

namespace Pane

variable (pane : Pane)

/-- The lines that there is room for, from the first visible one on. -/
def shownLines : List (List Char) := (pane.buffer.lines.drop pane.view.top).take (pane.height - 1)

/-- Lines are wrapped into one column, and a double-width character is among those shown. -/
def Cramped : Prop :=
  pane.options.wrap = true ∧ pane.textArea.width = 1 ∧
    ∃ line ∈ pane.shownLines, ∃ c ∈ line, Unicode.width c = 2

instance : Decidable pane.Cramped := inferInstanceAs (Decidable (_ ∧ _ ∧ _))

/-- The cells that a pane with its left edge at a column may paint from a column on: those between its edges;
without a column for text the first cell behind; and the second half of a character that the text area has no
room for. -/
structure Spans (x col n : Nat) : Prop where
  left : x ≤ col
  right : col + n ≤ x + pane.width ∨ pane.textArea.width = 0 ∧ col = x + pane.width ∨
    pane.Cramped ∧ col + 1 = x + pane.width

/-- Strokes in some rows, between the edges of the pane. -/
def Band (x top bottom row col n : Nat) : Prop := (top ≤ row ∧ row < bottom) ∧ pane.Spans x col n

variable {pane} {x y : Nat}

theorem Spans.inside {col n : Nat} (left : x ≤ col) (right : col + n ≤ x + pane.width) : pane.Spans x col n :=
  ⟨left, .inl right⟩

theorem Band.widen {top bottom top' bottom' row col n : Nat} (first : top' ≤ top) (last : bottom ≤ bottom')
    (band : pane.Band x top bottom row col n) : pane.Band x top' bottom' row col n := by
  obtain ⟨rows, spans⟩ := band
  exact ⟨by omega, spans⟩

theorem gutter_add_width (pane : Pane) : pane.textArea.gutter + pane.textArea.width = pane.width :=
  Nat.add_sub_cancel' (Nat.min_le_right _ _)

section Glyphs

variable {line : List Char}

/-- The cells that a glyph is painted on: whatever is still wider than two gets one. -/
def cellsOf (glyph : Glyph) : Nat := if glyph.width = 2 then 2 else 1

theorem paints_drawGlyph {ok : Nat → Nat → Nat → Prop} (grid : Grid) {glyph : Glyph} (shows : glyph.Shows line)
    (attr : Attr) (inside : ok y x (cellsOf glyph)) : grid.Paints ok (drawGlyph grid x y glyph attr) := by
  have takes : Unicode.width glyph.char ≠ 0 := shows.width ▸ Nat.ne_of_gt shows.positive
  unfold drawGlyph
  unfold cellsOf at inside
  dsimp only
  split_ifs at inside ⊢ with wide
  · exact Grid.paints_double grid attr (shows.width ▸ wide) inside
  · exact Grid.paints_put grid attr takes (shows.width ▸ wide) inside

/-- A glyph of a shown line is painted between the edges, but for a half of it in a cramped pane. -/
theorem spans_rowsOf (inLines : line ∈ pane.shownLines) {left : Nat} {row : List Glyph}
    (mem : row ∈ pane.textArea.rowsOf line left) {spot : Nat × Glyph}
    (placed : spot ∈ Glyph.placed (x + pane.textArea.gutter) row) :
    pane.Spans x spot.1 (cellsOf spot.2) := by
  have shows := TextArea.shows_rowsOf mem _ (Glyph.placed_bounds placed).2
  have positive := shows.positive
  have wide := shows.wide
  have width := shows.width
  have columns := pane.gutter_add_width
  obtain ⟨from', place⟩ := TextArea.placed_rowsOf mem placed
  unfold cellsOf
  refine ⟨by omega, ?_⟩
  rcases place with inside | ⟨wrap, first⟩
  · left
    split_ifs <;> omega
  · by_cases none : pane.textArea.width = 0
    · exact .inr (.inl ⟨none, by omega⟩)
    · split_ifs with double
      · by_cases one : pane.textArea.width = 1
        · exact .inr (.inr ⟨⟨wrap, one, line, inLines, _, wide double, width ▸ double⟩, by omega⟩)
        · exact .inl (by omega)
      · exact .inl (by omega)

end Glyphs

section Lines

variable {line : List Char}

theorem paints_drawRows (inLines : line ∈ pane.shownLines) (attrAt : Nat → Attr) (marksBreak : Bool) {left : Nat}
    (grid : Grid) (y room : Nat) {rows : List (List Glyph)}
    (ofLine : ∀ row ∈ rows, row ∈ pane.textArea.rowsOf line left) :
    grid.Paints (pane.Band x y (y + room))
      (drawRows attrAt marksBreak (x + pane.textArea.gutter) pane.textArea.width grid y room rows) := by
  induction rows generalizing grid y room with
  | nil => cases room <;> exact .refl grid
  | cons row rows ih =>
      cases room with
      | zero => exact .refl grid
      | succ room =>
          have columns := pane.gutter_add_width
          have mem := ofLine row List.mem_cons_self
          have glyphs : ∀ grid : Grid, grid.Paints (pane.Band x y (y + (room + 1)))
              (drawGlyphs attrAt (x + pane.textArea.gutter) y grid row) := by
            refine .foldl fun spot placed grid => ?_
            have shows := TextArea.shows_rowsOf mem _ (Glyph.placed_bounds placed).2
            exact paints_drawGlyph grid shows _ ⟨by omega, spans_rowsOf inLines mem placed⟩
          have break' : ∀ grid : Grid, grid.Paints (pane.Band x y (y + (room + 1)))
              (if rows.isEmpty && Glyph.total row < pane.textArea.width && marksBreak then
                grid.put (x + pane.textArea.gutter + Glyph.total row) y (.styled ' ' { selected := true })
              else grid) := by
            intro grid
            split_ifs with behind
            · simp only [Bool.and_eq_true, decide_eq_true_eq] at behind
              exact Grid.paints_put grid _ (by decide) (by decide)
                ⟨by omega, .inside (by omega) (by omega)⟩
            · exact .refl grid
          unfold drawRows
          refine ((glyphs grid).trans (break' _)).trans ?_
          refine (ih _ (y + 1) room fun row mem => ofLine row (List.mem_cons_of_mem _ mem)).mono ?_
          intro row col n band
          exact band.widen (by omega) (by omega)

theorem paints_drawLine (inLines : line ∈ pane.shownLines) (grid : Grid) (y number : Nat) {room : Nat}
    (some : room ≠ 0) : grid.Paints (pane.Band x y (y + room)) (pane.drawLine grid x y room number line) := by
  have columns := pane.gutter_add_width
  have gutter : grid.Paints (pane.Band x y (y + room))
      (if 0 < pane.textArea.gutter then
        (grid.putText x y (pane.gutterText number pane.textArea.gutter) {} pane.textArea.gutter).1
      else grid) := by
    split_ifs
    · refine (grid.paints_putText x y _ {} _).mono fun row col n place => ?_
      exact ⟨by omega, .inside (by omega) (by omega)⟩
    · exact .refl grid
  exact gutter.trans (paints_drawRows inLines _ _ _ y room fun row mem => mem)

theorem paints_drawSigns {sign : Char} (takes : Unicode.width sign ≠ 0) (narrow : Unicode.width sign ≠ 2)
    (wide : 0 < pane.width) (grid : Grid) (y count : Nat) :
    grid.Paints (pane.Band x y (y + count)) (drawSigns sign x grid y count) := by
  refine .foldl (fun row mem grid => ?_) grid
  have within := List.mem_range.1 mem
  exact Grid.paints_put grid {} takes narrow ⟨by omega, .inside (by omega) (by omega)⟩

theorem paints_drawLines (wide : 0 < pane.width) {texts : List (List Char)} {grid : Grid} {y room number : Nat}
    {cursor : Nat × Nat} (shown : ∀ text ∈ texts.take room, text ∈ pane.shownLines) :
    grid.Paints (pane.Band x y (y + room)) (pane.drawLines x grid y room number cursor texts).1 := by
  induction texts generalizing grid y room number cursor with
  | nil => exact paints_drawSigns (by decide) (by decide) wide grid y room
  | cons text texts ih =>
      have height : 0 < (pane.textArea.rowsOf text pane.view.left).length := by
        unfold TextArea.rowsOf
        dsimp only
        split_ifs <;> exact Nat.succ_pos _
      unfold drawLines
      dsimp only
      split
      · exact .refl grid
      · rename_i left
        split
        · exact paints_drawSigns (by decide) (by decide) wide grid y room
        · have taken : (text :: texts).take room = text :: texts.take (room - 1) :=
            List.take_cons (Nat.pos_of_ne_zero left)
          rw [taken, List.forall_mem_cons] at shown
          obtain ⟨first, others⟩ := shown
          have fewer := List.take_prefix_take_left (l := texts)
            (show room - (pane.textArea.rowsOf text pane.view.left).length ≤ room - 1 by omega)
          refine (paints_drawLine first grid y number left).trans ?_
          refine (ih fun later mem => others later (fewer.subset mem)).mono fun row col n band => ?_
          exact band.widen (by omega) (by omega)

end Lines

section Draw

/-- The text rows, before the status row is written. -/
def drawText (pane : Pane) (grid : Grid) (x y : Nat) : Grid :=
  (pane.drawLines x (pane.clear grid x y) y (pane.height - 1) pane.view.top (x + pane.textArea.gutter, y)
    (pane.buffer.lines.drop pane.view.top)).1

theorem draw_fst (pane : Pane) (grid : Grid) (x y : Nat) :
    (pane.draw grid x y).1 =
      if pane.width = 0 ∨ pane.height = 0 then grid
      else ((pane.drawText grid x y).putText x (y + (pane.height - 1)) pane.status.1 pane.status.2 pane.width).1 := by
  unfold draw drawText
  split
  · rfl
  · cases pane.prompt <;> rfl

theorem paints_clear (pane : Pane) (grid : Grid) (x y count : Nat) :
    grid.Paints (pane.Band x y (y + count))
      ((List.range count).foldl (fun grid row => grid.fill x (y + row) pane.width .blank) grid) := by
  refine .foldl (fun row mem grid => ?_) grid
  have within := List.mem_range.1 mem
  refine (grid.paints_fill x (y + row) pane.width).mono fun row col n place => ?_
  exact ⟨by omega, .inside (by omega) (by omega)⟩

theorem paints_drawText (wide : 0 < pane.width) (grid : Grid) :
    (pane.clear grid x y).Paints (pane.Band x y (y + (pane.height - 1))) (pane.drawText grid x y) :=
  paints_drawLines wide fun _ mem => mem

theorem paints_draw (pane : Pane) (grid : Grid) (x y : Nat) :
    grid.Paints (pane.Band x y (y + pane.height)) (pane.draw grid x y).1 := by
  rw [draw_fst]
  split
  · exact .refl grid
  · have clear : grid.Paints _ (pane.clear grid x y) := pane.paints_clear grid x y pane.height
    have lines := paints_drawText (x := x) (y := y) (show 0 < pane.width by omega) grid
    have status := (pane.drawText grid x y).paints_putText x (y + (pane.height - 1)) pane.status.1 pane.status.2
      pane.width
    refine (clear.trans (lines.mono fun row col n band => ?_)).trans (status.mono fun row col n place => ?_)
    · exact band.widen (by omega) (by omega)
    · exact ⟨by omega, .inside (by omega) (by omega)⟩

/-- The last row of a pane inside of a grid shows its status row, as it is written onto blanks. -/
theorem showsAt_status {grid : Grid} {row : Row} (wide : 0 < pane.width) (high : 0 < pane.height)
    (here : grid.rows[y + (pane.height - 1)]? = some row) (inRow : x + pane.width ≤ row.length)
    (inGrid : x + pane.width ≤ grid.width) :
    (pane.draw grid x y).1.ShowsAt x (y + (pane.height - 1))
      (Row.written pane.status.2 pane.width pane.status.1) := by
  have last : pane.clear grid x y =
      ((List.range (pane.height - 1)).foldl (fun grid row => grid.fill x (y + row) pane.width .blank) grid).fill x
        (y + (pane.height - 1)) pane.width .blank := by
    unfold clear
    rw [show pane.height = pane.height - 1 + 1 by omega, List.range_succ, List.foldl_append]
    rfl
  have above := pane.paints_clear grid x y (pane.height - 1)
  have same := above.row_eq (y := y + (pane.height - 1)) fun col n band => absurd band.1.2 (Nat.lt_irrefl _)
  have blanks : (pane.clear grid x y).ShowsAt x (y + (pane.height - 1)) (List.replicate pane.width .blank) := by
    rw [last]
    exact Grid.showsAt_fill (same.trans here) wide inRow (above.width ▸ inGrid)
  have text := paints_drawText (x := x) (y := y) wide grid
  have kept := blanks.paints (by simpa using wide) text fun col n band => absurd band.1.2 (Nat.lt_irrefl _)
  have width : (pane.drawText grid x y).width = grid.width :=
    text.width.trans (pane.paints_clear grid x y pane.height).width
  rw [draw_fst, if_neg (by omega)]
  exact kept.putText wide (width ▸ inGrid) _ _

end Draw

end Pane

end ModalPanes
