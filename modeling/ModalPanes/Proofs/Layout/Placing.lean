import ModalPanes.Proofs.Layout.Tiling

/-!
# Where the panes of a layout lie

The visible panes lie in their area, in reading order: of two of them the first one ends to the left of the second
or above it, with a divider in between.  So what is drawn later does not come over what was drawn before, as long
as it stays to the right of its left edge and below its upper one.
-/

namespace ModalPanes

namespace Rect

/-- A rectangle lies in an area, and it ends at the right edge or leaves a divider and a column behind it. -/
structure LiesIn (rect area : Rect) : Prop where
  left : area.x ≤ rect.x
  right : rect.x + rect.w = area.x + area.w ∨ rect.x + rect.w + 2 ≤ area.x + area.w
  top : area.y ≤ rect.y
  bottom : rect.y + rect.h ≤ area.y + area.h

/-- A rectangle ends to the left of another one or above it, with a cell between them. -/
def Precedes (rect other : Rect) : Prop := rect.x + rect.w < other.x ∨ rect.y + rect.h < other.y

variable {rect other area part : Rect}

theorem LiesIn.refl (rect : Rect) : rect.LiesIn rect := ⟨Nat.le_refl _, .inl rfl, Nat.le_refl _, Nat.le_refl _⟩

theorem LiesIn.trans (first : rect.LiesIn part) (second : part.LiesIn area) : rect.LiesIn area := by
  obtain ⟨left, right, top, bottom⟩ := first
  obtain ⟨left', right', top', bottom'⟩ := second
  constructor <;> omega

theorem Precedes.mono {part' : Rect} (precedes : part.Precedes part') (first : rect.LiesIn part)
    (second : other.LiesIn part') : rect.Precedes other := by
  obtain ⟨left, right, top, bottom⟩ := first
  obtain ⟨left', right', top', bottom'⟩ := second
  unfold Precedes at *
  omega

end Rect

namespace Layout

variable {area first second : Rect} {kind : SplitKind} {weights : Nat × Nat} {divider : Divider}

theorem parts?_liesIn (cut : parts? area kind weights = some (first, second, divider)) :
    first.LiesIn area ∧ second.LiesIn area ∧ first.Precedes second := by
  obtain ⟨share, shared, parts⟩ := Option.map_eq_some_iff.1 cut
  obtain ⟨firstShare, secondShare, sum⟩ := shares?_sum shared
  cases kind <;>
  · cases parts
    simp only [Rect.extent] at sum
    refine ⟨?_, ?_, ?_⟩
    · constructor <;> dsimp only <;> omega
    · constructor <;> dsimp only <;> omega
    · unfold Rect.Precedes
      dsimp only
      omega

theorem rects_liesIn (layout : Layout) (area : Rect) : ∀ shown ∈ layout.rects area, shown.2.LiesIn area := by
  induction layout generalizing area with
  | leaf id =>
      intro shown mem
      obtain rfl := List.mem_singleton.1 mem
      exact .refl area
  | split kind weights first second firstIH secondIH =>
      intro shown mem
      unfold rects at mem
      split at mem
      · rename_i a b divider cut
        obtain ⟨inFirst, inSecond, -⟩ := parts?_liesIn cut
        rcases List.mem_append.1 mem with mem | mem
        · exact (firstIH a shown mem).trans inFirst
        · exact (secondIH b shown mem).trans inSecond
      · exact firstIH area shown mem

/-- The visible panes come in reading order. -/
theorem rects_pairwise (layout : Layout) (area : Rect) :
    (layout.rects area).Pairwise fun shown later => shown.2.Precedes later.2 := by
  induction layout generalizing area with
  | leaf id => exact List.pairwise_singleton _ _
  | split kind weights first second firstIH secondIH =>
      unfold rects
      split
      · rename_i a b divider cut
        obtain ⟨-, -, precedes⟩ := parts?_liesIn cut
        refine List.pairwise_append.2 ⟨firstIH a, secondIH b, fun shown mem later mem' => ?_⟩
        exact precedes.mono (first.rects_liesIn a shown mem) (second.rects_liesIn b later mem')
      · exact firstIH area

theorem not_covers_of_divider {layout : Layout} (inDividers : divider ∈ layout.dividers area) {shown : PaneId × Rect}
    (inRects : shown ∈ layout.rects area) {x y : Nat} (covers : divider.rect.Covers x y) : ¬ shown.2.Covers x y := by
  intro also
  have tiles := layout.coverCount_eq area x y
  have one : 0 < (layout.rects area).countP fun pane => pane.2.Covers x y :=
    List.countP_pos_iff.2 ⟨shown, inRects, decide_eq_true also⟩
  have other : 0 < (layout.dividers area).countP fun divider => divider.rect.Covers x y :=
    List.countP_pos_iff.2 ⟨divider, inDividers, decide_eq_true covers⟩
  unfold coverCount at tiles
  split_ifs at tiles <;> omega

end Layout

end ModalPanes
