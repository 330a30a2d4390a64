import Mathlib.Data.List.Forall2
import ModalPanes.Proofs.Pane.Drawing
import ModalPanes.Proofs.Pane.Following
import ModalPanes.Proofs.View.Rows

/-!
# Wrapping keeps every glyph

Where every glyph has one cell or two, and a row has at least two, a row is left when it is full, or when one cell of it
is left in front of a glyph of two.  This says what the rows are, one after the other, and everything about them follows
by induction on it: what is in them, how wide they are, and where the fillers stand.
-/

namespace ModalPanes

namespace Glyph

variable {width : Nat} {glyph : Glyph} {glyphs row content : List Glyph} {rows : List (List Glyph)}

/-- The rows of a list of glyphs, one after the other. -/
inductive Wraps (width : Nat) : List Glyph → List (List Glyph) → Prop where
  | last {row : List Glyph} (fits : total row ≤ width) : Wraps width row [row]
  | full {row glyphs : List Glyph} {glyph : Glyph} {rows : List (List Glyph)} (full : total row = width)
      (rest : Wraps width (glyph :: glyphs) rows) : Wraps width (row ++ glyph :: glyphs) (row :: rows)
  | filled {row glyphs : List Glyph} {glyph : Glyph} {rows : List (List Glyph)} (short : total row + 1 = width)
      (double : glyph.width = 2) (rest : Wraps width (glyph :: glyphs) rows) :
      Wraps width (row ++ glyph :: glyphs) ((row ++ [filler '>']) :: rows)

/-- A row holds some glyphs, and perhaps a filler behind them. -/
def Holds (row content : List Glyph) : Prop := row = content ∨ row = content ++ [filler '>']

/-- What is left of a row without fillers. -/
def withoutFillers (row : List Glyph) : List Glyph := row.filter (· ≠ filler '>')

structure Lays (width : Nat) (glyphs : List Glyph) (rows : List (List Glyph)) : Prop where
  nonempty : rows ≠ []
  /-- The rows without the fillers at their ends are the glyphs. -/
  holds : ∃ contents, List.Forall₂ Holds rows contents ∧ contents.flatten = glyphs
  fits : ∀ row ∈ rows, total row ≤ width
  full : ∀ row ∈ rows.dropLast, total row = width

theorem Lays.cons (lays : Lays width glyphs rows) (holds : Holds row content) (full : total row = width) :
    Lays width (content ++ glyphs) (row :: rows) := by
  obtain ⟨contents, held, flat⟩ := lays.holds
  constructor
  · exact List.cons_ne_nil row rows
  · exact ⟨content :: contents, .cons holds held, by simp [flat]⟩
  · exact List.forall_mem_cons.2 ⟨full.le, lays.fits⟩
  · rw [List.dropLast_cons_of_ne_nil lays.nonempty]
    exact List.forall_mem_cons.2 ⟨full, lays.full⟩

theorem Wraps.lays (wraps : Wraps width glyphs rows) : Lays width glyphs rows := by
  induction wraps with
  | @last row fits =>
      exact ⟨List.cons_ne_nil _ _, ⟨[row], .cons (.inl rfl) .nil, by simp⟩, by simpa using fits, by simp⟩
  | full full rest ih => exact ih.cons (.inl rfl) full
  | filled short double rest ih => exact ih.cons (.inr rfl) ((total_append _ _).trans short)

theorem Holds.withoutFillers (holds : Holds row content) (glyphs : ∀ glyph ∈ content, glyph ≠ filler '>') :
    Glyph.withoutFillers row = content := by
  have kept : Glyph.withoutFillers content = content := by
    simpa [Glyph.withoutFillers] using glyphs
  rcases holds with rfl | rfl
  · exact kept
  · simpa [Glyph.withoutFillers] using kept

/-- Where no filler is among the glyphs, the fillers can be told from them. -/
theorem Lays.flatten_withoutFillers (lays : Lays width glyphs rows)
    (plain : ∀ glyph ∈ glyphs, glyph ≠ filler '>') : (rows.map Glyph.withoutFillers).flatten = glyphs := by
  obtain ⟨contents, holds, rfl⟩ := lays.holds
  congr 1
  clear lays
  induction holds with
  | nil => rfl
  | cons first rest ih =>
      rw [List.flatten_cons, List.forall_mem_append] at plain
      rw [List.map_cons, first.withoutFillers plain.1, ih plain.2]

/-- The glyphs in front of the next one stand in the present row. -/
theorem wraps_wrapFrom (two : 2 ≤ width) (narrow : ∀ glyph ∈ glyphs, glyph.width = 1 ∨ glyph.width = 2)
    (row : List Glyph) (fits : total row ≤ width) :
    Wraps width (row ++ glyphs)
      ((row ++ (wrapFrom width (total row) glyphs).1) :: (wrapFrom width (total row) glyphs).2) := by
  induction glyphs generalizing row with
  | nil => simpa [wrapFrom] using Wraps.last fits
  | cons glyph glyphs ih =>
      obtain ⟨first, others⟩ := List.forall_mem_cons.1 narrow
      unfold wrapFrom
      dsimp only
      split_ifs with leaves
      · have rest : Wraps width (glyph :: glyphs)
            ((glyph :: (wrapFrom width glyph.width glyphs).1) :: (wrapFrom width glyph.width glyphs).2) := by
          simpa using ih others [glyph] (by simp; omega)
        rcases Nat.eq_or_lt_of_le fits with full | short
        · rw [full, Nat.sub_self]
          simpa using Wraps.full full rest
        · have short : total row + 1 = width := by omega
          rw [show width - total row = 1 by omega]
          exact .filled short (by omega) rest
      · simpa using ih others (row ++ [glyph]) (by simp; omega)

theorem wraps_wrap (two : 2 ≤ width) (narrow : ∀ glyph ∈ glyphs, glyph.width = 1 ∨ glyph.width = 2) :
    Wraps width glyphs (wrap width glyphs) := by
  have wraps := wraps_wrapFrom two narrow [] (Nat.zero_le width)
  unfold wrap
  rw [Nat.max_eq_left (by omega)]
  simpa using wraps

/-- Wrapping keeps every glyph: without the fillers at their ends, the rows are the glyphs, in order.  No row is wider
than it may be, and all but the last are as wide as that; a filler stands only where a double-width glyph comes next.
Scrolling counts as many rows for a line as are drawn. -/
theorem wrap_keeps_glyphs (two : 2 ≤ width) (narrow : ∀ glyph ∈ glyphs, glyph.width = 1 ∨ glyph.width = 2) :
    Wraps width glyphs (wrap width glyphs) ∧ Lays width glyphs (wrap width glyphs) ∧
      ((∀ glyph ∈ glyphs, glyph ≠ filler '>') → ((wrap width glyphs).map withoutFillers).flatten = glyphs) ∧
      ∀ (area : TextArea) (buf : Buffer) (line left : Nat),
        TextArea.heightAt (area.heights buf).toArray line = (area.rowsOf (buf.line line) left).length := by
  have wraps := wraps_wrap two narrow
  refine ⟨wraps, wraps.lays, wraps.lays.flatten_withoutFillers, fun area buf line left => ?_⟩
  rw [area.heightAt_heights, area.length_rowsOf]

/-- A double-width character that meets the edge in the first row, and one that fits in the second. -/
theorem wrap_keeps_glyphs_wide :
    let glyphs := ofLine 8 "ab日c日d".toList
    let area : TextArea := ⟨0, 3, 5, true, 8⟩
    wrap 3 glyphs = [[⟨some 0, 'a', 1⟩, ⟨some 1, 'b', 1⟩, filler '>'], [⟨some 2, '日', 2⟩, ⟨some 3, 'c', 1⟩],
        [⟨some 4, '日', 2⟩, ⟨some 5, 'd', 1⟩]] ∧
      ((wrap 3 glyphs).map withoutFillers).flatten = glyphs ∧
      TextArea.heightAt (area.heights { text := "ab日c日d".toList }).toArray 0 = 3 := by
  intro glyphs area
  have rows : glyphs = [⟨some 0, 'a', 1⟩, ⟨some 1, 'b', 1⟩, ⟨some 2, '日', 2⟩, ⟨some 3, 'c', 1⟩, ⟨some 4, '日', 2⟩,
      ⟨some 5, 'd', 1⟩] := by decide +kernel
  have keeps := @wrap_keeps_glyphs 3 glyphs (by decide) (by rw [rows]; decide)
  refine ⟨by rw [rows]; decide, keeps.2.2.1 (by rw [rows]; decide), ?_⟩
  exact (keeps.2.2.2 area { text := "ab日c日d".toList } 0 0).trans (by decide +kernel)

end Glyph

end ModalPanes
