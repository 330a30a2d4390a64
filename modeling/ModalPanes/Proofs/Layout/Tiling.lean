import ModalPanes.Layout
import Mathlib.Data.Nat.Basic

/-!
# Layouts tile their area

The visible panes of a layout and the dividers between them cover every cell of the area exactly once,
whatever the shape of the tree and its weights.  One node cuts its area into two parts and a strip of one
cell between them; the tree follows by induction, with the area of every node as the parameter.
-/

namespace ModalPanes

namespace Rect

/-- A rectangle covers a cell. -/
def Covers (rect : Rect) (x y : Nat) : Prop :=
  (rect.x ≤ x ∧ x < rect.x + rect.w) ∧ rect.y ≤ y ∧ y < rect.y + rect.h

instance (rect : Rect) (x y : Nat) : Decidable (rect.Covers x y) :=
  inferInstanceAs (Decidable ((_ ∧ _) ∧ _ ∧ _))

/-- A rectangle has at least one cell. -/
def HasRoom (rect : Rect) : Prop := 1 ≤ rect.w ∧ 1 ≤ rect.h

end Rect

/-- The cells of a divider, as a rectangle. -/
def Divider.rect (divider : Divider) : Rect :=
  if divider.vertical then ⟨divider.x, divider.y, 1, divider.length⟩
  else ⟨divider.x, divider.y, divider.length, 1⟩

namespace Layout

/-- Both shares get a cell, and with the divider they use up all cells. -/
theorem shares?_sum {total : Nat} {weights share : Nat × Nat}
    (shared : shares? total weights = some share) :
    1 ≤ share.1 ∧ 1 ≤ share.2 ∧ share.1 + 1 + share.2 = total := by
  unfold shares? at shared
  split at shared
  · contradiction
  · simp only [Option.some.injEq] at shared
    subst shared
    dsimp only
    generalize (if weights.1 + weights.2 = 0 then (total - 1) / 2
      else (2 * (total - 1) * weights.1 + (weights.1 + weights.2)) /
        (2 * (weights.1 + weights.2))) = wanted
    omega

section Parts

variable {area first second : Rect} {kind : SplitKind} {weights : Nat × Nat} {divider : Divider}

theorem parts?_hasRoom (room : area.HasRoom)
    (cut : parts? area kind weights = some (first, second, divider)) :
    first.HasRoom ∧ second.HasRoom := by
  obtain ⟨share, shared, parts⟩ := Option.map_eq_some_iff.1 cut
  obtain ⟨firstShare, secondShare, -⟩ := shares?_sum shared
  obtain ⟨wide, high⟩ := room
  cases kind <;> (cases parts; constructor <;> constructor <;> assumption)

/-- The rectangles at a cell of a node: one of its parts or its divider, and none outside of it. -/
theorem parts?_covers (cut : parts? area kind weights = some (first, second, divider)) (x y : Nat) :
    (if first.Covers x y then 1 else 0) + (if second.Covers x y then 1 else 0) +
        (if divider.rect.Covers x y then 1 else 0) =
      if area.Covers x y then 1 else 0 := by
  obtain ⟨share, shared, parts⟩ := Option.map_eq_some_iff.1 cut
  obtain ⟨-, -, sum⟩ := shares?_sum shared
  cases kind with
  | vertical =>
      cases parts
      simp only [Rect.extent] at sum
      split_ifs <;> simp only [Rect.Covers, Divider.rect, if_true] at * <;> omega
  | horizontal =>
      cases parts
      simp only [Rect.extent] at sum
      split_ifs <;>
        simp only [Rect.Covers, Divider.rect, Bool.false_eq_true, if_false] at * <;> omega

end Parts

/-- The number of visible panes and of dividers that cover a cell. -/
def coverCount (layout : Layout) (area : Rect) (x y : Nat) : Nat :=
  (layout.rects area).countP (fun pane => pane.2.Covers x y) +
    (layout.dividers area).countP fun divider => divider.rect.Covers x y

/-- Every cell of the area is covered once, and no cell outside of it. -/
theorem coverCount_eq (layout : Layout) (area : Rect) (x y : Nat) :
    layout.coverCount area x y = if area.Covers x y then 1 else 0 := by
  induction layout generalizing area with
  | leaf id => simp [coverCount, rects, dividers, List.countP_cons]
  | split kind weights first second firstIH secondIH =>
      cases cut : parts? area kind weights with
      | none =>
          simpa only [coverCount, rects, dividers, cut] using firstIH area
      | some parts =>
          obtain ⟨a, b, divider⟩ := parts
          have firstCount := firstIH a
          have secondCount := secondIH b
          have nodeCount := parts?_covers cut x y
          simp only [coverCount] at firstCount secondCount
          simp only [coverCount, rects, dividers, cut, List.countP_append, List.countP_cons,
            decide_eq_true_eq]
          omega

theorem rects_hasRoom (layout : Layout) {area : Rect} (room : area.HasRoom) :
    ∀ pane ∈ layout.rects area, pane.2.HasRoom := by
  induction layout generalizing area with
  | leaf id =>
      intro pane shown
      obtain rfl := List.mem_singleton.1 shown
      exact room
  | split kind weights first second firstIH secondIH =>
      intro pane shown
      cases cut : parts? area kind weights with
      | none =>
          simp only [rects, cut] at shown
          exact firstIH room pane shown
      | some parts =>
          obtain ⟨a, b, divider⟩ := parts
          obtain ⟨firstRoom, secondRoom⟩ := parts?_hasRoom room cut
          simp only [rects, cut, List.mem_append] at shown
          rcases shown with shown | shown
          · exact firstIH firstRoom pane shown
          · exact secondIH secondRoom pane shown

/-- The visible panes and the dividers tile the area: every cell of it is covered by exactly one of them
and no other cell by any, and every visible pane has at least one column and one row. -/
theorem rects_dividers_tile (layout : Layout) (area : Rect) (wide : 1 ≤ area.w) (high : 1 ≤ area.h) :
    (∀ x y, (layout.rects area).countP (fun pane => pane.2.Covers x y) +
        (layout.dividers area).countP (fun divider => divider.rect.Covers x y) =
      if area.Covers x y then 1 else 0) ∧
      ∀ pane ∈ layout.rects area, 1 ≤ pane.2.w ∧ 1 ≤ pane.2.h :=
  ⟨layout.coverCount_eq area, layout.rects_hasRoom ⟨wide, high⟩⟩

/-- Three panes share an area that does not begin at the origin. -/
theorem rects_dividers_tile_nested :
    let layout : Layout :=
      .split .vertical (3, 1) (.leaf 0) (.split .horizontal (0, 0) (.leaf 1) (.leaf 2))
    let area : Rect := ⟨2, 1, 9, 4⟩
    layout.rects area = [(0, ⟨2, 1, 6, 4⟩), (1, ⟨9, 1, 2, 1⟩), (2, ⟨9, 3, 2, 2⟩)] ∧
      ∀ x y, (layout.rects area).countP (fun pane => pane.2.Covers x y) +
          (layout.dividers area).countP (fun divider => divider.rect.Covers x y) =
        if area.Covers x y then 1 else 0 :=
  ⟨by decide, (rects_dividers_tile _ ⟨2, 1, 9, 4⟩ (by decide) (by decide)).1⟩

end Layout

end ModalPanes
