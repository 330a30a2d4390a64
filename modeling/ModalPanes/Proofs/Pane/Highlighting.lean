import ModalPanes.Pane.Drawing
import ModalPanes.Proofs.Screen.Painting

/-!
# Highlighting of matches

The matches of a search reach the screen as marks of cells and in no other way.  Erasing these marks from what a
pane draws gives what the pane without a search draws on the grid without them: every step of drawing commutes with
erasing, because painting looks at the characters of a row and never at its marks.
-/

namespace ModalPanes

/-- The marks but for the one of matches. -/
def Attr.unlit (attr : Attr) : Attr := { attr with search := false }

/-- The cell without the mark of matches. -/
def Cell.unlit (cell : Cell) : Cell := { cell with attr := cell.attr.unlit }

namespace Row

/-- The row without the marks of matches. -/
def unlit (row : Row) : Row := row.map Cell.unlit

@[simp] theorem length_unlit (row : Row) : row.unlit.length = row.length := List.length_map _

theorem getElem?_unlit (row : Row) (x : Nat) : row.unlit[x]? = row[x]?.map Cell.unlit := List.getElem?_map

theorem continues_unlit (row : Row) (x : Nat) : row.unlit.continues x = row.continues x := by
  rw [continues, continues, getElem?_unlit, Option.map_map]
  rfl

/-- Which halves of characters are broken does not depend on marks. -/
theorem unlit_put (row : Row) (x : Nat) (cell : Cell) : (row.put x cell).unlit = row.unlit.put x cell.unlit := by
  by_cases inside : x < row.length
  · have within : x < row.unlit.length := by rwa [length_unlit]
    apply List.ext_getElem?
    intro y
    rw [getElem?_unlit, getElem?_put inside, getElem?_put within, continues_unlit, continues_unlit, getElem?_unlit]
    split_ifs
    · rfl
    · rw [Option.map_map, Option.map_map]
      rfl
    · rfl
    · rfl
  · have outside : ¬ x < row.unlit.length := by rwa [length_unlit]
    rw [put, put, if_neg inside, if_neg outside]

theorem unlit_putText (attr : Attr) (limit : Nat) (row : Row) (x : Nat) (text : List Char) :
    (putText attr limit row x text).1.unlit = (putText attr.unlit limit row.unlit x text).1 := by
  induction text generalizing row x with
  | nil => rfl
  | cons c text ih =>
      unfold putText
      dsimp only
      split_ifs
      · rfl
      · exact ih row x
      · exact unlit_put row x _
      · rw [ih, unlit_put, unlit_put]
        rfl
      · rw [ih, unlit_put]
        rfl

theorem unlit_fill (row : Row) (x count : Nat) : (row.fill .blank x count).unlit = row.unlit.fill .blank x count := by
  induction count generalizing row x with
  | zero => rfl
  | succ count ih =>
      unfold fill
      rw [ih, unlit_put]
      rfl

end Row

namespace Grid

/-- The grid without the marks of matches. -/
def unlit (grid : Grid) : Grid := { grid with rows := grid.rows.map Row.unlit }

variable (grid : Grid) (x y : Nat)

theorem unlit_onRow {change changed : Row → Row} (same : ∀ row, (change row).unlit = changed row.unlit) :
    (grid.onRow y change).unlit = grid.unlit.onRow y changed := by
  have rows : (grid.rows.modify y change).map Row.unlit = (grid.rows.map Row.unlit).modify y changed := by
    apply List.ext_getElem?
    intro i
    rw [List.getElem?_map, List.getElem?_modify, List.getElem?_modify, List.getElem?_map, Option.map_eq_map,
      Option.map_map, Option.map_eq_map, Option.map_map]
    congr 1
    funext row
    dsimp only [Function.comp]
    split
    · exact same row
    · rfl
  unfold onRow unlit
  rw [rows]

theorem unlit_put (cell : Cell) : (grid.put x y cell).unlit = grid.unlit.put x y cell.unlit :=
  grid.unlit_onRow y fun row => row.unlit_put x cell

theorem unlit_fill (count : Nat) : (grid.fill x y count .blank).unlit = grid.unlit.fill x y count .blank :=
  grid.unlit_onRow y fun row => row.unlit_fill x _

theorem unlit_putText (text : List Char) (attr : Attr) (columns : Nat) :
    (grid.putText x y text attr columns).1.unlit = (grid.unlit.putText x y text attr.unlit columns).1 := by
  rw [putText_fst, putText_fst]
  exact grid.unlit_onRow y fun row => row.unlit_putText attr _ x text

theorem char?_get?_unlit : (grid.unlit.get? x y).map Cell.char? = (grid.get? x y).map Cell.char? := by
  unfold get? unlit
  rw [List.getElem?_map]
  cases grid.rows[y]? with
  | none => rfl
  | some row =>
      simp only [Option.map_some, Option.bind_some]
      rw [Row.getElem?_unlit, Option.map_map]
      rfl

theorem unlit_foldl {α : Type} {step stepped : Grid → α → Grid}
    (same : ∀ grid entry, (step grid entry).unlit = stepped grid.unlit entry) (entries : List α) (grid : Grid) :
    (entries.foldl step grid).unlit = entries.foldl stepped grid.unlit := by
  induction entries generalizing grid with
  | nil => rfl
  | cons entry entries ih =>
      rw [List.foldl_cons, List.foldl_cons, ← same]
      exact ih _

end Grid

namespace Pane

section Glyphs

variable (grid : Grid) (x y : Nat)

theorem unlit_drawGlyph (glyph : Glyph) (attr : Attr) :
    (drawGlyph grid x y glyph attr).unlit = drawGlyph grid.unlit x y glyph attr.unlit := by
  unfold drawGlyph
  dsimp only
  split
  · rw [Grid.unlit_put, Grid.unlit_put]
    rfl
  · exact grid.unlit_put x y _

theorem unlit_drawGlyphs (attrAt : Nat → Attr) (glyphs : List Glyph) :
    (drawGlyphs attrAt x y grid glyphs).unlit = drawGlyphs (fun col => (attrAt col).unlit) x y grid.unlit glyphs := by
  refine Grid.unlit_foldl (fun grid spot => ?_) _ grid
  rw [unlit_drawGlyph]
  cases spot.2.col <;> rfl

theorem unlit_drawRows (attrAt : Nat → Attr) (marksBreak : Bool) (width room : Nat) (rows : List (List Glyph)) :
    (drawRows attrAt marksBreak x width grid y room rows).unlit =
      drawRows (fun col => (attrAt col).unlit) marksBreak x width grid.unlit y room rows := by
  induction rows generalizing grid y room with
  | nil => cases room <;> rfl
  | cons row rows ih =>
      cases room with
      | zero => rfl
      | succ room =>
          unfold drawRows
          dsimp only
          rw [ih]
          congr 1
          split
          · rw [Grid.unlit_put, unlit_drawGlyphs]
            rfl
          · exact unlit_drawGlyphs grid x y attrAt row

theorem unlit_drawSigns (sign : Char) (count : Nat) :
    (drawSigns sign x grid y count).unlit = drawSigns sign x grid.unlit y count :=
  Grid.unlit_foldl (fun grid row => grid.unlit_put x (y + row) _) _ grid

end Glyphs

/-- The pane without a search. -/
def unsearched (pane : Pane) : Pane := { pane with search := {} }

variable (pane : Pane) (grid : Grid) (x y : Nat)

theorem unlit_drawLine (room line : Nat) (text : List Char) :
    (pane.drawLine grid x y room line text).unlit = pane.unsearched.drawLine grid.unlit x y room line text := by
  unfold drawLine
  dsimp only
  rw [unlit_drawRows]
  have number : (if 0 < pane.textArea.gutter then
      (grid.putText x y (pane.gutterText line pane.textArea.gutter) {} pane.textArea.gutter).1 else grid).unlit =
        if 0 < pane.textArea.gutter then
          (grid.unlit.putText x y (pane.gutterText line pane.textArea.gutter) {} pane.textArea.gutter).1
        else grid.unlit := by
    split
    · exact grid.unlit_putText x y _ _ _
    · rfl
  rw [number]
  rfl

/-- Without a search the lines have the same rows and the cursor the same place. -/
theorem drawLines_unsearched (room line : Nat) (cursor : Nat × Nat) (text : List Char) (texts : List (List Char)) :
    pane.unsearched.drawLines x grid y room line cursor (text :: texts) =
      let height := (pane.textArea.rowsOf text pane.view.left).length
      if room = 0 then (grid, cursor)
      else if pane.textArea.wrap && room < pane.height - 1 && room < height then
        (drawSigns '@' x grid y room, cursor)
      else
        pane.unsearched.drawLines x (pane.unsearched.drawLine grid x y room line text) (y + min height room)
          (room - height) (line + 1) (if line = pane.cursor.pos.line then pane.cursorPlace x y text else cursor)
          texts := rfl

/-- The lines are drawn the same but for the marks of matches, and the cursor comes to the same cell. -/
theorem unlit_drawLines (room line : Nat) (cursor : Nat × Nat) (texts : List (List Char)) :
    Prod.map Grid.unlit id (pane.drawLines x grid y room line cursor texts) =
      pane.unsearched.drawLines x grid.unlit y room line cursor texts := by
  induction texts generalizing grid y room line cursor with
  | nil => exact congrArg (·, cursor) (unlit_drawSigns grid x y '~' room)
  | cons text texts ih =>
      rw [drawLines, drawLines_unsearched]
      dsimp only
      split
      · rfl
      · split
        · exact congrArg (·, cursor) (unlit_drawSigns grid x y '@' room)
        · rw [ih, unlit_drawLine]

theorem unlit_clear : (pane.clear grid x y).unlit = pane.clear grid.unlit x y :=
  Grid.unlit_foldl (fun grid row => grid.unlit_fill x (y + row) pane.width) _ grid

/-- The status row has no marks of matches. -/
theorem unlit_status : pane.status.2.unlit = pane.status.2 := by
  have left : pane.statusLeft.2.unlit = pane.statusLeft.2 := by
    unfold statusLeft
    split <;> rfl
  unfold status
  split
  · rfl
  · dsimp only
    split
    · exact left
    · exact left

theorem draw_eq :
    pane.draw grid x y =
      if pane.width = 0 ∨ pane.height = 0 then (grid, (x, y))
      else
        let drawn := pane.drawLines x (pane.clear grid x y) y (pane.height - 1) pane.view.top
          (x + pane.textArea.gutter, y) (pane.buffer.lines.drop pane.view.top)
        let statusRow := y + (pane.height - 1)
        ((drawn.1.putText x statusRow pane.status.1 pane.status.2 pane.width).1,
          pane.prompt.elim drawn.2 fun state => (x + pane.promptCell state.prompt.line, statusRow)) := by
  unfold draw
  cases pane.prompt <;> rfl

/-- Without the marks of matches, a pane is drawn as if it had no search. -/
theorem unlit_draw : Prod.map Grid.unlit id (pane.draw grid x y) = pane.unsearched.draw grid.unlit x y := by
  have same : pane.unsearched.draw grid.unlit x y =
      if pane.width = 0 ∨ pane.height = 0 then (grid.unlit, (x, y))
      else
        let drawn := pane.unsearched.drawLines x (pane.clear grid.unlit x y) y (pane.height - 1) pane.view.top
          (x + pane.textArea.gutter, y) (pane.buffer.lines.drop pane.view.top)
        let statusRow := y + (pane.height - 1)
        ((drawn.1.putText x statusRow pane.status.1 pane.status.2 pane.width).1,
          pane.prompt.elim drawn.2 fun state => (x + pane.promptCell state.prompt.line, statusRow)) :=
    pane.unsearched.draw_eq grid.unlit x y
  rw [same, draw_eq]
  dsimp only
  split
  · rfl
  · rw [← unlit_clear, ← unlit_drawLines]
    generalize pane.drawLines x (pane.clear grid x y) y (pane.height - 1) pane.view.top
      (x + pane.textArea.gutter, y) (pane.buffer.lines.drop pane.view.top) = drawn
    have status := drawn.1.unlit_putText x (y + (pane.height - 1)) pane.status.1 pane.status.2 pane.width
    rw [unlit_status] at status
    exact congrArg (·, _) status

/-- Two panes that differ in nothing but their search, in its pattern, its direction, or whether matches are
highlighted, have the cursor in the same cell, and the same characters and continuations in every cell, whose marks
are the same but for the one of matches. -/
theorem draw_with_search (search : SearchState) :
    let drawn := pane.draw grid x y
    let other := Pane.draw { pane with search := search } grid x y
    other.2 = drawn.2 ∧
      (∀ col row, (other.1.get? col row).map Cell.char? = (drawn.1.get? col row).map Cell.char?) ∧
        other.1.unlit = drawn.1.unlit := by
  intro drawn other
  have erased : Prod.map Grid.unlit id other = pane.unsearched.draw grid.unlit x y := Pane.unlit_draw _ grid x y
  have same := erased.trans (pane.unlit_draw grid x y).symm
  have grids : other.1.unlit = drawn.1.unlit := congrArg Prod.fst same
  refine ⟨(congrArg Prod.snd same :), fun col row => ?_, grids⟩
  rw [← other.1.char?_get?_unlit, grids, Grid.char?_get?_unlit]

/-- The two matches of a search are marked, and without the search nothing is. -/
example :
    let pane := Pane.showing (.ofText "abab".toList) {} 8 2
    let search : SearchState := ⟨Pattern.compile? "b".toList, .forward, true⟩
    (Pane.draw { pane with search := search } (.blank 8 2) 0 0).1.attrRuns =
        [(0, 1, 1, { search := true }), (0, 3, 1, { search := true })] ∧
      (pane.draw (.blank 8 2) 0 0).1.attrRuns = [] := by
  decide +kernel

end Pane

end ModalPanes
