import Mathlib.Algebra.Group.Nat.Defs
import ModalPanes.Proofs.View.Rows

/-!
# Cutting a line at the edges of a window

A line that is not wrapped is seen through a window of some cells.  A row is described cell by cell: every cell has the
glyph that is drawn in it, and the cell at which that glyph starts.  In these terms the row in the window is a stretch of
the row of the line, moved to the left; only a glyph that an edge cuts is replaced, by blanks of its column.
-/

namespace ModalPanes

namespace Glyph

variable {left right width start i k : Nat} {spot : Nat × Glyph} {glyph : Glyph} {glyphs : List Glyph}

section Cells

/-- For every cell of a row, the glyph that is drawn in it and the cell at which that glyph starts. -/
def cells (start : Nat) (glyphs : List Glyph) : List (Nat × Glyph) :=
  (placed start glyphs).flatMap fun spot => List.replicate spot.2.width spot

@[simp] theorem cells_nil (start : Nat) : cells start [] = [] := rfl

theorem cells_cons (start : Nat) (glyph : Glyph) (glyphs : List Glyph) :
    cells start (glyph :: glyphs) = List.replicate glyph.width (start, glyph) ++ cells (start + glyph.width) glyphs := rfl

theorem cells_append (start : Nat) (front rest : List Glyph) :
    cells start (front ++ rest) = cells start front ++ cells (start + total front) rest := by
  unfold cells
  rw [placed_append, List.flatMap_append]

@[simp] theorem length_cells (start : Nat) (glyphs : List Glyph) : (cells start glyphs).length = total glyphs := by
  induction glyphs generalizing start with
  | nil => rfl
  | cons glyph glyphs ih => simp [cells_cons, ih]

theorem cells_bounds (shown : (cells start glyphs)[i]? = some spot) :
    (spot.1 ≤ start + i ∧ start + i < spot.1 + spot.2.width) ∧ spot.2 ∈ glyphs := by
  induction glyphs generalizing start i with
  | nil => contradiction
  | cons glyph glyphs ih =>
      rw [cells_cons, List.getElem?_append, List.length_replicate] at shown
      split at shown
      · rename_i inside
        rw [List.getElem?_replicate, if_pos inside] at shown
        cases shown
        exact ⟨by dsimp only; omega, List.mem_cons_self⟩
      · obtain ⟨bounds, mem⟩ := ih shown
        exact ⟨by omega, List.mem_cons_of_mem glyph mem⟩

theorem getElem?_cells_blanks (start n : Nat) (col : Option Nat) (i : Nat) :
    (cells start (List.replicate n ⟨col, ' ', 1⟩))[i]? = if i < n then some (start + i, ⟨col, ' ', 1⟩) else none := by
  induction n generalizing start i with
  | zero => simp
  | succ n ih =>
      rw [List.replicate_succ, cells_cons]
      cases i with
      | zero => simp
      | succ i => simpa [Nat.add_assoc, Nat.add_comm 1] using ih (start + 1) i

end Cells

section Window

/-- An edge of a window cuts a glyph that is partly in front of it. -/
def IsCut (left right : Nat) (spot : Nat × Glyph) : Prop := spot.1 < left ∨ right < spot.1 + spot.2.width

instance (left right : Nat) (spot : Nat × Glyph) : Decidable (IsCut left right spot) :=
  inferInstanceAs (Decidable (_ ∨ _))

/-- What a cell of a window shows, given what the cell of the line behind it shows: the same glyph, or a blank of its
column if an edge cuts it. -/
def inWindow (left right k : Nat) (spot : Nat × Glyph) : Nat × Glyph :=
  if IsCut left right spot then (k, ⟨spot.2.col, ' ', 1⟩) else (spot.1 - left, spot.2)

theorem inWindow_of_cut (cut : IsCut left right spot) :
    inWindow left right k spot = (k, ⟨spot.2.col, ' ', 1⟩) := if_pos cut

theorem inWindow_of_whole (whole : ¬ IsCut left right spot) : inWindow left right k spot = (spot.1 - left, spot.2) :=
  if_neg whole

/-- The number of cells of a glyph that are in the window. -/
def seen (left right start : Nat) (glyph : Glyph) : Nat := min (start + glyph.width) right - max start left

/-- A cell of a glyph that is not in front of the window is seen if it is not behind it either. -/
theorem lt_seen_iff {x : Nat} (onGlyph : start ≤ x ∧ x < start + glyph.width) (notBefore : left ≤ x) :
    x - left - (start - left) < seen left right start glyph ↔ x < right := by
  unfold seen
  omega

theorem seen_le {x : Nat} (further : start + glyph.width ≤ x) (notBefore : left ≤ x) :
    seen left right start glyph ≤ x - left - (start - left) := by
  unfold seen
  omega

/-- Behind a glyph that does not reach over the right edge, the row of the window goes on where the glyph ends. -/
theorem add_seen (fits : start + glyph.width ≤ right) :
    start - left + seen left right start glyph = start + glyph.width - left := by
  unfold seen
  omega

/-- What is left of the first glyph of a row. -/
def clipOne (left right start : Nat) (glyph : Glyph) : List Glyph :=
  if left < start + glyph.width ∧ start < right then
    if IsCut left right (start, glyph) then
      List.replicate (seen left right start glyph) ⟨glyph.col, ' ', 1⟩
    else [glyph]
  else []

theorem clipFrom_cons (left right start : Nat) (glyph : Glyph) (glyphs : List Glyph) :
    clipFrom left right start (glyph :: glyphs) =
      clipOne left right start glyph ++ clipFrom left right (start + glyph.width) glyphs := rfl

theorem clipFrom_of_le (behind : right ≤ start) : clipFrom left right start glyphs = [] := by
  induction glyphs generalizing start with
  | nil => rfl
  | cons glyph glyphs ih =>
      unfold clipFrom
      dsimp only
      rw [if_neg (by omega), ih (by omega), List.append_nil]

theorem total_clipOne (left right start : Nat) (glyph : Glyph) :
    total (clipOne left right start glyph) = seen left right start glyph := by
  unfold clipOne
  split_ifs with inside cut
  · rw [total_replicate, Nat.mul_one]
  · rw [total_cons, total_nil]
    dsimp only [IsCut, seen] at cut ⊢
    omega
  · rw [total_nil]
    dsimp only [seen]
    omega

/-- The cells of one glyph that are seen, in a window whose row has come to the cell at which the glyph starts. -/
theorem getElem?_cells_clipOne (left right start : Nat) (glyph : Glyph) (i : Nat) :
    (cells (start - left) (clipOne left right start glyph))[i]? =
      if i < seen left right start glyph then some (inWindow left right (start - left + i) (start, glyph)) else none := by
  have total := total_clipOne left right start glyph
  unfold clipOne at total ⊢
  split_ifs at total ⊢ with visible cut inside inside inside
  · rw [getElem?_cells_blanks, if_pos inside, inWindow_of_cut cut]
  · rw [getElem?_cells_blanks, if_neg inside]
  · rw [← total, total_cons, total_nil, Nat.add_zero] at inside
    rw [cells_cons, List.getElem?_append_left (by simpa using inside), List.getElem?_replicate, if_pos inside,
      inWindow_of_whole cut]
  · exact List.getElem?_eq_none (by rw [length_cells]; omega)
  · rw [total_nil] at total
    omega
  · rfl

theorem getElem?_cells_clipFrom {x : Nat} (inLine : start ≤ x) (notBefore : left ≤ x) :
    (cells (start - left) (clipFrom left right start glyphs))[x - left - (start - left)]? =
      if x < right then (cells start glyphs)[x - start]?.map (inWindow left right (x - left)) else none := by
  induction glyphs generalizing start with
  | nil => simp [clipFrom]
  | cons glyph glyphs ih =>
      rw [clipFrom_cons, cells_append, List.getElem?_append, length_cells, total_clipOne, getElem?_cells_clipOne,
        cells_cons, List.getElem?_append, List.length_replicate, List.getElem?_replicate]
      rcases Nat.lt_or_ge x (start + glyph.width) with onGlyph | further
      · have visible := @lt_seen_iff left right start glyph x ⟨inLine, onGlyph⟩ notBefore
        have here : x - start < glyph.width := by omega
        have cell : start - left + (x - left - (start - left)) = x - left := by omega
        rw [if_pos here, if_pos here, cell]
        rcases Nat.lt_or_ge x right with inside | behind
        · rw [if_pos (visible.2 inside), if_pos (visible.2 inside), if_pos inside]
          rfl
        · rw [if_neg (mt visible.1 (Nat.not_lt.2 behind)), clipFrom_of_le (by omega), if_neg (Nat.not_lt.2 behind)]
          rfl
      · have passed : ¬ x - start < glyph.width := by omega
        have le := @seen_le left right start glyph x further notBefore
        rw [if_neg (Nat.not_lt.2 le), if_neg passed]
        rcases Nat.le_total (start + glyph.width) right with fits | reaches
        · have base := @add_seen left right start glyph fits
          have cell : x - left - (start - left) - seen left right start glyph =
              x - left - (start + glyph.width - left) := by
            omega
          rw [base, cell, ih further, Nat.sub_sub]
        · rw [clipFrom_of_le reaches, if_neg (Nat.not_lt.2 (Nat.le_trans reaches further))]
          rfl

/-- The row in a window is what the window shows of the line: it is as wide as the line goes on in the window, and each of
its cells shows what the cell of the line behind it shows, except that a glyph which an edge cuts is seen as blanks of
its column.  Among glyphs of one cell and two these are the double-width ones, with one half in the first cell of the
window or in the last.  Where the window ends is a number of a machine word. -/
theorem clip_shows_window (left width : Nat) (_fits : left + width < 2 ^ 64) (glyphs : List Glyph) :
    total (clip left width glyphs) = min width (total glyphs - left) ∧
      (∀ k < width, (cells 0 (clip left width glyphs))[k]? =
        (cells 0 glyphs)[left + k]?.map (inWindow left (left + width) k)) ∧
      ((∀ glyph ∈ glyphs, glyph.width = 1 ∨ glyph.width = 2) →
        ∀ k < width, ∀ spot ∈ (cells 0 glyphs)[left + k]?, IsCut left (left + width) spot →
          spot.2.width = 2 ∧ (k = 0 ∧ spot.1 + 1 = left ∨ k + 1 = width ∧ spot.1 + 1 = left + width)) := by
  have shows : ∀ k, (cells 0 (clip left width glyphs))[k]? =
      if k < width then (cells 0 glyphs)[left + k]?.map (inWindow left (left + width) k) else none := by
    intro k
    have cell := @getElem?_cells_clipFrom left (left + width) 0 glyphs (left + k) (Nat.zero_le _) (by omega)
    simpa [clip] using cell
  refine ⟨?_, fun k inside => ?_, fun narrow k inside spot shown cut => ?_⟩
  · have ends : ∀ k, total (clip left width glyphs) ≤ k ↔ width ≤ k ∨ total glyphs ≤ left + k := by
      intro k
      rw [← length_cells 0, ← List.getElem?_eq_none_iff, shows]
      split_ifs with inside
      · simp [Nat.not_le.2 inside]
      · simp [Nat.le_of_not_lt inside]
    have here := (ends (total (clip left width glyphs))).1 (Nat.le_refl _)
    have least := (ends (min width (total glyphs - left))).2 (by omega)
    omega
  · rw [shows, if_pos inside]
  · obtain ⟨bounds, mem⟩ := cells_bounds shown
    have widths := narrow spot.2 mem
    unfold IsCut at cut
    omega

/-- A window of four cells that starts in a double-width character and ends in another one, with a tab between them. -/
theorem clip_shows_window_halves :
    let glyphs := ofLine 4 "日\t本x".toList
    let spot : Nat × Glyph := (4, ⟨some 2, '本', 2⟩)
    1 + 4 < 2 ^ 64 ∧
      clip 1 4 glyphs = [⟨some 0, ' ', 1⟩, ⟨some 1, ' ', 1⟩, ⟨some 1, ' ', 1⟩, ⟨some 2, ' ', 1⟩] ∧
      total (clip 1 4 glyphs) = min 4 (total glyphs - 1) ∧
      (cells 0 (clip 1 4 glyphs))[3]? = some (3, ⟨some 2, ' ', 1⟩) ∧
      (∀ glyph ∈ glyphs, glyph.width = 1 ∨ glyph.width = 2) ∧ (cells 0 glyphs)[1 + 3]? = some spot ∧
      IsCut 1 (1 + 4) spot ∧
      spot.2.width = 2 ∧ (3 = 0 ∧ spot.1 + 1 = 1 ∨ 3 + 1 = 4 ∧ spot.1 + 1 = 1 + 4) := by
  intro glyphs spot
  have row : glyphs = [⟨some 0, '日', 2⟩, ⟨some 1, ' ', 1⟩, ⟨some 1, ' ', 1⟩, ⟨some 2, '本', 2⟩, ⟨some 3, 'x', 1⟩] := by
    decide +kernel
  have narrow : ∀ glyph ∈ glyphs, glyph.width = 1 ∨ glyph.width = 2 := by
    rw [row]
    decide
  have behind : (cells 0 glyphs)[1 + 3]? = some spot := by
    rw [row]
    rfl
  have cut : IsCut 1 (1 + 4) spot := by decide
  obtain ⟨wide, shows, halves⟩ := clip_shows_window 1 4 (by decide) glyphs
  refine ⟨by decide, by rw [row]; decide, wide, ?_, narrow, behind, cut, halves narrow 3 (by decide) spot behind cut⟩
  rw [shows 3 (by decide), behind]
  rfl

end Window

end Glyph

end ModalPanes
