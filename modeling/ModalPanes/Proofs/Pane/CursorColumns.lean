import ModalPanes.Pane.Drawing
import ModalPanes.Pane.Keys
import ModalPanes.Proofs.View.Rows

/-!
# The column of the cursor on the screen

The ruler and the scroller add up the cells of the characters in front of the cursor; drawing looks the cursor up
among the glyphs of the line.  The first glyph of a column starts where the cells in front of it end, so the two
agree wherever there is such a glyph.  A character that takes no cell has none, and the cursor on it is drawn
behind the line instead.
-/

namespace ModalPanes

namespace Glyph

variable {tabStop start first col : Nat} {c : Char} {text : List Char} {glyph : Glyph}

/-- Whether a character takes a cell, wherever it starts. -/
def isDrawn (c : Char) : Bool := Unicode.isControl c || Unicode.width c != 0

theorem cellWidth_eq_zero_iff (stops : 1 ≤ tabStop) (start : Nat) (c : Char) :
    cellWidth tabStop start c = 0 ↔ isDrawn c = false := by
  have stop := Nat.mod_lt start stops
  unfold cellWidth isDrawn
  split_ifs with tab control
  · subst tab
    exact iff_of_false (by omega) (by decide)
  · simp [control]
  · simp [control]

section Cells

theorem cellsFrom_append (tabStop start : Nat) (text more : List Char) :
    cellsFrom tabStop start (text ++ more) = cellsFrom tabStop (cellsFrom tabStop start text) more := by
  induction text generalizing start with
  | nil => rfl
  | cons c text ih => exact ih _

theorem le_cellsFrom (tabStop start : Nat) (text : List Char) : start ≤ cellsFrom tabStop start text := by
  induction text generalizing start with
  | nil => exact Nat.le_refl start
  | cons c text ih => exact Nat.le_trans (Nat.le_add_right start _) (ih _)

theorem cellsFrom_eq_self_iff (stops : 1 ≤ tabStop) (start : Nat) (text : List Char) :
    cellsFrom tabStop start text = start ↔ ∀ c ∈ text, isDrawn c = false := by
  induction text generalizing start with
  | nil => simp [cellsFrom]
  | cons c text ih =>
      have later := le_cellsFrom tabStop (start + cellWidth tabStop start c) text
      rw [cellsFrom, List.forall_mem_cons, ← cellWidth_eq_zero_iff stops start c, ← ih start]
      constructor
      · intro same
        have empty : cellWidth tabStop start c = 0 := by omega
        rw [empty] at same
        exact ⟨empty, same⟩
      · rintro ⟨empty, same⟩
        rw [empty]
        exact same

end Cells

section Placing

theorem total_ofChar (tabStop start col : Nat) (c : Char) :
    total (ofChar tabStop start col c) = cellWidth tabStop start c := by
  unfold ofChar
  dsimp only
  split_ifs with tab control none
  · rw [total_replicate, Nat.mul_one]
  · simp [cellWidth, tab, control]
  · exact none.symm
  · rfl

theorem col_ofChar (mem : glyph ∈ ofChar tabStop start col c) : glyph.col = some col := by
  unfold ofChar at mem
  dsimp only at mem
  split_ifs at mem
  · rw [(List.mem_replicate.1 mem).2]
  · rcases List.mem_cons.1 mem with rfl | mem
    · rfl
    · rw [List.mem_singleton.1 mem]
  · contradiction
  · rw [List.mem_singleton.1 mem]

theorem ofChar_eq_nil_iff (stops : 1 ≤ tabStop) (start col : Nat) (c : Char) :
    ofChar tabStop start col c = [] ↔ isDrawn c = false := by
  have width := cellWidth_eq_zero_iff stops start c
  unfold ofChar
  dsimp only
  split_ifs with tab control empty
  · rw [List.replicate_eq_nil_iff]
    exact width
  · exact iff_of_false not_false (by simp [isDrawn, control])
  · exact iff_of_true rfl (width.1 empty)
  · exact iff_of_false not_false fun hidden => empty (width.2 hidden)

theorem col_ofTextFrom (mem : glyph ∈ ofTextFrom tabStop start first text) :
    ∃ col, first ≤ col ∧ glyph.col = some col := by
  induction text generalizing start first with
  | nil => contradiction
  | cons c text ih =>
      rcases List.mem_append.1 mem with mem | mem
      · exact ⟨first, Nat.le_refl _, col_ofChar mem⟩
      · obtain ⟨col, behind, here⟩ := ih mem
        exact ⟨col, by omega, here⟩

theorem total_ofTextFrom (tabStop start first : Nat) (text : List Char) :
    start + total (ofTextFrom tabStop start first text) = cellsFrom tabStop start text := by
  induction text generalizing start first with
  | nil => rfl
  | cons c text ih => rw [ofTextFrom, total_append, total_ofChar, ← Nat.add_assoc, ih, cellsFrom]

theorem find?_placed_eq_none {glyphs : List Glyph} (elsewhere : ∀ glyph ∈ glyphs, glyph.col ≠ some col) (start : Nat) :
    ((placed start glyphs).find? fun spot => spot.2.col == some col) = none := by
  rw [List.find?_eq_none]
  intro spot mem
  rw [beq_iff_eq]
  exact elsewhere spot.2 (placed_bounds mem).2

/-- A character is found where it starts, if it takes a cell. -/
theorem find?_placed_ofChar (stops : 1 ≤ tabStop) (start col : Nat) (c : Char) :
    ((placed start (ofChar tabStop start col c)).find? fun spot => spot.2.col == some col).map Prod.fst =
      if isDrawn c then some start else none := by
  have nil_iff := ofChar_eq_nil_iff stops start col c
  cases pieces : ofChar tabStop start col c with
  | nil =>
      rw [nil_iff.1 pieces]
      rfl
  | cons glyph rest =>
      have here : glyph.col = some col := col_ofChar (pieces ▸ List.mem_cons_self)
      have drawn : isDrawn c = true := by
        rw [← Bool.not_eq_false, ← nil_iff, pieces]
        exact List.cons_ne_nil _ _
      rw [if_pos drawn, placed, List.find?_cons_of_pos (by simp [here])]
      rfl

/-- The first glyph of a column is where the cells in front of it end; a character without cells has none. -/
theorem find?_placed (stops : 1 ≤ tabStop) (start first col : Nat) (text : List Char) :
    ((placed start (ofTextFrom tabStop start first text)).find? fun spot => spot.2.col == some (first + col)).map
        Prod.fst =
      (text[col]?.filter isDrawn).map fun _ => cellsFrom tabStop start (text.take col) := by
  induction text generalizing start first col with
  | nil => rfl
  | cons c text ih =>
      rw [ofTextFrom, placed_append, total_ofChar, List.find?_append]
      cases col with
      | zero =>
          have behind : ∀ glyph ∈ ofTextFrom tabStop (start + cellWidth tabStop start c) (first + 1) text,
              glyph.col ≠ some first := by
            intro glyph mem same
            obtain ⟨col, later, here⟩ := col_ofTextFrom mem
            have same := Option.some.inj (here.symm.trans same)
            omega
          rw [Nat.add_zero, find?_placed_eq_none behind, Option.or_none, find?_placed_ofChar stops,
            List.getElem?_cons_zero, Option.filter]
          split <;> rfl
      | succ col =>
          have before : ∀ glyph ∈ ofChar tabStop start first c, glyph.col ≠ some (first + (col + 1)) := by
            intro glyph mem same
            have same := Option.some.inj ((col_ofChar mem).symm.trans same)
            omega
          rw [find?_placed_eq_none before, Option.none_or, show first + (col + 1) = first + 1 + col by omega, ih]
          rfl

end Placing

end Glyph

theorem displayColumn_eq {tabStop : Nat} (stops : 1 ≤ tabStop) (text : List Char) (col : Nat) :
    displayColumn text col tabStop = cellsFrom tabStop 0 (text.take col) := by
  rw [displayColumn, Nat.max_eq_left stops]

/-- A line ends in the cell where a column of it starts exactly if no character from that column on takes one. -/
theorem displayColumn_eq_length_iff {tabStop : Nat} (stops : 1 ≤ tabStop) (text : List Char) (col : Nat) :
    displayColumn text text.length tabStop = displayColumn text col tabStop ↔
      ∀ c ∈ text.drop col, Glyph.isDrawn c = false := by
  rw [displayColumn_eq stops, displayColumn_eq stops, List.take_length, ← Glyph.cellsFrom_eq_self_iff stops,
    ← Glyph.cellsFrom_append, List.take_append_drop]

namespace TextArea

variable {area : TextArea} {text : List Char} {col : Nat}

/-- Where lines are neither wrapped nor scrolled, the cursor is on the first glyph of its column or behind them all. -/
theorem cursorCell_eq (unwrapped : area.wrap = false) (text : List Char) (col : Nat) :
    area.cursorCell text col 0 true =
      (0, (((Glyph.placed 0 (Glyph.ofLine area.tabStop text)).find? fun spot => spot.2.col == some col).map
        Prod.fst).getD (Glyph.total (Glyph.ofLine area.tabStop text))) := by
  unfold cursorCell
  have places : cellsOf [Glyph.ofLine area.tabStop text] col =
      ((Glyph.placed 0 (Glyph.ofLine area.tabStop text)).filter fun spot => spot.2.col == some col).map
        fun spot => (0, spot.1) := List.append_nil _
  have behind : area.endCell [Glyph.ofLine area.tabStop text] =
      (0, Glyph.total (Glyph.ofLine area.tabStop text)) := by
    rw [endCell, unwrapped]
    rfl
  simp only [unwrapped, Bool.false_eq_true, if_false, if_true, places, behind, List.head?_map, List.head?_filter]
  cases (Glyph.placed 0 (Glyph.ofLine area.tabStop text)).find? fun spot => spot.2.col == some col with
  | none => rfl
  | some spot => rfl

/-- Where the character in a column takes no cell, the cursor is drawn behind the line. -/
theorem cursorCell_displayColumn (unwrapped : area.wrap = false) (stops : 1 ≤ area.tabStop)
    (inLine : col ≤ text.length) :
    area.cursorCell text col 0 true =
      (0, if text[col]?.all Glyph.isDrawn then displayColumn text col area.tabStop
        else displayColumn text text.length area.tabStop) := by
  have found := Glyph.find?_placed stops 0 0 col text
  have total := Glyph.total_ofTextFrom area.tabStop 0 0 text
  rw [Nat.zero_add] at found total
  rw [cursorCell_eq unwrapped, displayColumn_eq stops, displayColumn_eq stops, List.take_length, Glyph.ofLine, found,
    total]
  congr 1
  cases here : text[col]? with
  | none =>
      obtain rfl : col = text.length := by
        rw [List.getElem?_eq_none_iff] at here
        omega
      simp
  | some c => cases drawn : Glyph.isDrawn c <;> simp [Option.filter, drawn]

/-- With lines neither wrapped nor scrolled, a cursor between characters is drawn in the first row of its line, in
the cell where the characters in front of it end, if the character in its column takes a cell or there is none, and
otherwise behind the line.  These are the same cell only if nothing from the column on takes one.  The cell that the
ruler and the scroller go by is always the former. -/
theorem cursorCell_unscrolled (unwrapped : area.wrap = false) (stops : 1 ≤ area.tabStop)
    (inLine : col ≤ text.length) :
    let cell := area.cursorCell text col 0 true
    let column := displayColumn text col area.tabStop
    let drawn := text[col]?.all Glyph.isDrawn
    cell = (0, if drawn then column else displayColumn text text.length area.tabStop) ∧
      (cell = (0, column) ↔ drawn = true ∨ ∀ c ∈ text.drop col, Glyph.isDrawn c = false) ∧
      ∀ pane : Pane, pane.textArea = area → pane.mode.cursorPastEnd = true →
        pane.cursor.pos.line < pane.buffer.lineCount → pane.buffer.line pane.cursor.pos.line = text →
        pane.cursor.pos.col = col →
          pane.screenColumn = column + 1 ∧
            ∀ scrollOff, (pane.view.scrollTo pane.buffer area scrollOff pane.cursor.pos).left =
              pane.view.leftFor column (max area.width 1) := by
  intro cell column drawn
  have value : cell = (0, if drawn then column else displayColumn text text.length area.tabStop) :=
    cursorCell_displayColumn unwrapped stops inLine
  refine ⟨value, ?_, ?_⟩
  · rw [value]
    cases taken : drawn with
    | true => simp [column]
    | false =>
        rw [← displayColumn_eq_length_iff stops]
        simp [column]
  · rintro pane rfl typing present rfl rfl
    constructor
    · simp [Pane.screenColumn, typing, column]
    · intro scrollOff
      have last : min pane.cursor.pos.line (pane.buffer.lineCount - 1) = pane.cursor.pos.line := by omega
      simp [View.scrollTo, unwrapped, last, column]

/-- A tab, a control character and a double-width character stand in front of the cursor. -/
theorem cursorCell_unscrolled_mixed :
    let area : TextArea := ⟨0, 40, 11, false, 4⟩
    let text := "a\t\x01日e\u0301".toList
    let pane := (Pane.showing (.ofText text) { wrap := false, tabStop := 4 } 40 12).handleKeys
      [.char '4', .char 'l', .char 'i']
    (List.range 7).map (displayColumn text · 4) = [0, 1, 4, 6, 8, 9, 9] ∧
      area.cursorCell text 4 0 true = (0, 8) ∧ area.cursorCell text 5 0 true = (0, 9) ∧ pane.screenColumn = 9 := by
  intro area text pane
  have stops : 1 ≤ area.tabStop := by decide
  have drawn := @cursorCell_unscrolled area text 4 rfl stops (by decide)
  have hidden := @cursorCell_unscrolled area text 5 rfl stops (by decide)
  have rest : ∀ c ∈ text.drop 5, Glyph.isDrawn c = false := by
    rw [show text.drop 5 = ['\u0301'] by decide +kernel, List.forall_mem_singleton]
    decide +kernel
  refine ⟨by decide +kernel, ?_, ?_, ?_⟩
  · exact (drawn.2.1.2 (.inl (by decide +kernel))).trans (by decide +kernel)
  · exact (hidden.2.1.2 (.inr rest)).trans (by decide +kernel)
  · exact (drawn.2.2 pane (by decide +kernel) (by decide +kernel) (by decide +kernel) (by decide +kernel)
      (by decide +kernel)).1.trans (by decide +kernel)

end TextArea

/-- The cursor stands between a letter and its accent, which takes no cell.  The ruler has it in the second column,
and it is drawn in the third, behind the next letter. -/
theorem Pane.cursor_on_accent :
    let text := "e\u0301x".toList
    let pane := (Pane.showing (.ofText text) { wrap := false } 44 3).handleKeys [.char 'l', .char 'i']
    pane.mode.cursorPastEnd = true ∧ pane.view.left = 0 ∧ pane.cursor.pos = ⟨0, 1⟩ ∧
      pane.textArea.cursorCell text 1 0 true ≠ (0, displayColumn text 1 pane.textArea.tabStop) ∧
      displayColumn text 1 pane.textArea.tabStop = 1 ∧ pane.screenColumn = 2 ∧
      (pane.draw (.blank 44 3) 0 0).2 = (2, 0) := by
  decide +kernel

end ModalPanes
