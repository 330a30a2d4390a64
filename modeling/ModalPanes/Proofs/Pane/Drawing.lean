import ModalPanes.Pane.Drawing
import ModalPanes.Proofs.Pane.Following

/-!
# Where a pane draws its cursor

A pane draws its lines one below the other and puts the cursor on the row of its line that shows it.  A line
is drawn as a whole or not at all, the first one apart, which may be higher than the screen.  A column
outside of the text area is moved into it, but a row is not: the cursor leaves the text where its row is
below what is drawn of the first line, or behind a full row that ends the screen.
-/

namespace ModalPanes

theorem Buffer.line_of_cons_eq_drop {buf : Buffer} {text : List Char} {texts : List (List Char)}
    {line : Nat} (behind : text :: texts = buf.lines.drop line) :
    text = buf.line line ∧ texts = buf.lines.drop (line + 1) := by
  have first : buf.lines[line]? = some text := by
    rw [← List.head?_drop, ← behind]
    rfl
  have rest : buf.lines.drop (line + 1) = texts := by
    rw [← List.tail_drop, ← behind]
    rfl
  refine ⟨?_, rest.symm⟩
  rw [Buffer.lines, List.getElem?_map] at first
  rw [Buffer.line, Buffer.line?, first]
  rfl

namespace TextArea

variable (area : TextArea) {rows : List (List Glyph)} {col : Nat}

theorem length_rowsOf (line : List Char) (left : Nat) :
    (area.rowsOf line left).length = area.heightOf line := by
  unfold rowsOf heightOf
  dsimp only
  split <;> rfl

theorem row_lt_of_mem_cellsOf {place : Nat × Nat} (mem : place ∈ cellsOf rows col) :
    place.1 < rows.length := by
  obtain ⟨⟨row, index⟩, indexed, shown⟩ := List.mem_flatMap.1 mem
  obtain ⟨spot, -, rfl⟩ := List.mem_map.1 shown
  have bound := List.snd_lt_of_mem_zipIdx indexed
  simpa using bound

theorem row_endCell_le (rows : List (List Glyph)) : (area.endCell rows).1 ≤ rows.length := by
  unfold endCell
  dsimp only
  split
  · rename_i full
    have some : rows ≠ [] := by
      rintro rfl
      exact absurd full.2.2 (lt_irrefl 0)
    have := List.length_pos_iff.2 some
    dsimp only
    omega
  · dsimp only
    omega

/-- The rows among which the cursor is looked for. -/
def cursorRows (line : List Char) : List (List Glyph) :=
  if area.wrap then Glyph.wrap area.width (Glyph.ofLine area.tabStop line)
  else [Glyph.ofLine area.tabStop line]

theorem length_cursorRows (line : List Char) :
    (area.cursorRows line).length = area.heightOf line := by
  unfold cursorRows heightOf
  split <;> rfl

theorem row_cursorCell (line : List Char) (col left : Nat) (pastEnd : Bool) :
    (area.cursorCell line col left pastEnd).1 < area.heightOf line ∨
      (area.cursorCell line col left pastEnd).1 = (area.endCell (area.cursorRows line)).1 := by
  rw [← area.length_cursorRows line]
  show ((if pastEnd then (cellsOf (area.cursorRows line) col).head?
      else (cellsOf (area.cursorRows line) col).getLast?).getD _).1 < _ ∨ _
  unfold cursorCell
  dsimp only
  rw [← cursorRows]
  generalize area.cursorRows line = rows
  cases found : if pastEnd then (cellsOf rows col).head? else (cellsOf rows col).getLast? with
  | none => exact .inr rfl
  | some place =>
      have mem : place ∈ cellsOf rows col := by
        split at found
        · exact List.mem_of_head? found
        · exact List.mem_of_getLast? found
      exact .inl (row_lt_of_mem_cellsOf mem)

theorem row_cursorCell_le (line : List Char) (col left : Nat) (pastEnd : Bool) :
    (area.cursorCell line col left pastEnd).1 ≤ area.heightOf line := by
  rcases area.row_cursorCell line col left pastEnd with within | behind
  · exact within.le
  · rw [behind, ← area.length_cursorRows]
    exact area.row_endCell_le _

theorem row_cursorCell_lt (unwrapped : area.wrap = false) (line : List Char) (col left : Nat)
    (pastEnd : Bool) : (area.cursorCell line col left pastEnd).1 < area.heightOf line := by
  rcases area.row_cursorCell line col left pastEnd with within | behind
  · exact within
  · have one : area.cursorRows line = [Glyph.ofLine area.tabStop line] := by simp [cursorRows, unwrapped]
    rw [behind, ← area.length_cursorRows, one]
    simp [endCell, unwrapped]

end TextArea

namespace Pane

variable (pane : Pane)

/-- The row of the cursor within its line. -/
def cursorRow : Nat :=
  (pane.textArea.cursorCell (pane.buffer.line pane.cursor.pos.line) pane.cursor.pos.col pane.view.left
    pane.mode.cursorPastEnd).1

/-- The row of the cursor is one that a line may have on the screen, and it is one of its line unless there is
a row left behind that line. -/
structure CursorRowShown : Prop where
  lt_rows : pane.cursorRow < pane.textArea.rows
  drawn : pane.cursorRow < pane.lineRows pane.cursor.pos.line ∨
    ∑ line ∈ Finset.Icc pane.view.top pane.cursor.pos.line, pane.lineRows line < pane.textArea.rows

instance : Decidable pane.CursorRowShown :=
  decidable_of_iff (_ ∧ _) ⟨fun ⟨lt, drawn⟩ => ⟨lt, drawn⟩, fun shown => ⟨shown.lt_rows, shown.drawn⟩⟩

variable {pane}

theorem cursorRowShown_of_wrap (unwrapped : pane.options.wrap = false) : pane.CursorRowShown := by
  have within : pane.cursorRow < pane.lineRows pane.cursor.pos.line :=
    pane.textArea.row_cursorCell_lt unwrapped _ _ _ _
  have one : pane.lineRows pane.cursor.pos.line = 1 := lineRows_of_wrap unwrapped _
  have rows := pane.textArea_rows_pos
  exact ⟨by omega, .inl within⟩

/-- The cells in which text is drawn when the pane is drawn at a place. -/
structure InText (pane : Pane) (x y : Nat) (cell : Nat × Nat) : Prop where
  left : x + gutterWidth pane.buffer.lineCount pane.options ≤ cell.1
  right : cell.1 < x + pane.width
  top : y ≤ cell.2
  bottom : cell.2 < y + (pane.height - 1)

section Lines

variable {x y : Nat} (wide : gutterWidth pane.buffer.lineCount pane.options < pane.width)
include wide

theorem textArea_gutter : pane.textArea.gutter = gutterWidth pane.buffer.lineCount pane.options :=
  Nat.min_eq_left wide.le

/-- The cursor is drawn between the gutter and the right edge, in the row that is asked for. -/
theorem inText_cursorPlace {row : Nat} {text : List Char}
    (here : text = pane.buffer.line pane.cursor.pos.line)
    (top : y ≤ row) (bottom : row + pane.cursorRow < y + (pane.height - 1)) :
    pane.InText x y (pane.cursorPlace x row text) := by
  have gutter := textArea_gutter wide
  have width : pane.textArea.width = pane.width - pane.textArea.gutter := rfl
  subst here
  constructor
  · show _ ≤ x + pane.textArea.gutter + min _ (pane.textArea.width - 1)
    omega
  · show x + pane.textArea.gutter + min _ (pane.textArea.width - 1) < _
    omega
  · show y ≤ row + pane.cursorRow
    omega
  · exact bottom

/-- Lines are drawn from the first visible one down, as long as the next one fits, and the cursor is
in the text on whichever of them it comes to be. -/
theorem inText_drawLines (shown : pane.CursorRowShown) (high : 2 ≤ pane.height) {texts : List (List Char)}
    {grid : Grid} {row room line : Nat} {cell : Nat × Nat}
    (behind : texts = pane.buffer.lines.drop line) (rows : row + room = y + (pane.height - 1))
    (first : pane.view.top ≤ line)
    (filled : room = 0 ∨ Scroll.extent pane.lineRows pane.view.top line + room = pane.textArea.rows)
    (inside : pane.InText x y cell) :
    pane.InText x y (pane.drawLines x grid row room line cell texts).2 := by
  induction texts generalizing grid row room line cell with
  | nil => exact inside
  | cons text texts ih =>
      obtain ⟨here, below⟩ := Buffer.line_of_cons_eq_drop behind
      have height : (pane.textArea.rowsOf text pane.view.left).length = pane.lineRows line := by
        rw [TextArea.length_rowsOf, here]
        rfl
      have area : pane.textArea.rows = pane.height - 1 := Nat.max_eq_left (by omega)
      have extent := Scroll.extent_succ pane.lineRows first
      unfold drawLines
      dsimp only
      rw [height]
      split
      · exact inside
      · rename_i left
        split
        · exact inside
        · rename_i fits
          refine ih below (by omega) (by omega) (by omega) ?_
          split
          · rename_i cursor
            subst cursor
            refine inText_cursorPlace wide here (by omega) ?_
            have le : pane.cursorRow ≤ pane.lineRows pane.cursor.pos.line :=
              pane.textArea.row_cursorCell_le _ _ _ _
            have lt := shown.lt_rows
            have room_le : pane.lineRows pane.cursor.pos.line ≤ room ∨ pane.textArea.rows ≤ room := by
              by_cases wraps : pane.options.wrap = true
              · simp only [show pane.textArea.wrap = true from wraps, Bool.true_and, Bool.and_eq_true,
                  decide_eq_true_eq] at fits
                omega
              · have one := lineRows_of_wrap (Bool.not_eq_true _ ▸ wraps) pane.cursor.pos.line
                omega
            rcases shown.drawn with within | below
            · omega
            · rw [← extent_lineRows] at below
              omega
          · exact inside

/-- Drawing a pane without a prompt leaves the cursor in its text. -/
theorem CursorRowShown.inText_draw (shown : pane.CursorRowShown) (high : 2 ≤ pane.height)
    (closed : pane.prompt = none) (grid : Grid) : pane.InText x y (pane.draw grid x y).2 := by
  have sized : ¬ (pane.width = 0 ∨ pane.height = 0) := by omega
  have gutter := textArea_gutter wide
  unfold draw
  rw [if_neg sized, closed]
  refine inText_drawLines wide shown high rfl rfl le_rfl (.inr ?_) ?_
  · rw [Scroll.extent_self, Nat.zero_add]
    exact (Nat.max_eq_left (by omega)).symm
  · constructor <;> dsimp only <;> omega

end Lines

end Pane

end ModalPanes
