import ModalPanes.Proofs.Layout.Moving

/-!
# The divider that is chosen to move

Moving a divider is a search and a change: first the innermost split around a pane that shows a divider across the way,
and then new weights for this split, which are the cells of its parts.  The first part gets as many cells as its panes
need, even where the split has fewer: then the cells no longer add up.  In a layout that shows all of its panes every
part has the cells that its panes need.
-/

namespace ModalPanes

namespace Layout

variable {layout : Layout} {area : Rect} {kind : SplitKind} {side : Side} {target : PaneId} {amount : Nat}

/-- A split that shows its divider: the turns that lead to it, its parts, its cells across the divider and those of its
first part. -/
structure Cut where
  path : List Bool
  first : Layout
  second : Layout
  total : Nat
  share : Nat
deriving DecidableEq

namespace Cut

/-- A cut of one part of a split, seen from the split. -/
def behind (turn : Bool) (cut : Cut) : Cut := { cut with path := turn :: cut.path }

/-- The cells of the first part once the divider has moved. -/
def moved (cut : Cut) (side : Side) (amount : Nat) : Nat :=
  movedShare cut.first cut.second side.kind cut.total cut.share side amount

/-- The cells of both parts and of the divider between them add up to those of the split, and both parts have some. -/
def InRange (cut : Cut) (cells : Nat) : Prop := 1 ≤ cells ∧ cells + 2 ≤ cut.total

instance (cut : Cut) (cells : Nat) : Decidable (cut.InRange cells) := inferInstanceAs (Decidable (_ ∧ _))

end Cut

/-- The innermost split around a pane that shows a divider of a kind. -/
def innermost? (target : PaneId) (kind : SplitKind) (area : Rect) : Layout → Option Cut
  | leaf _ => none
  | split own weights first second =>
      match parts? area own weights with
      | none => none
      | some (a, b, _) =>
          let inner :=
            if first.contains target then (first.innermost? target kind a).map (·.behind false)
            else (second.innermost? target kind b).map (·.behind true)
          inner.or (if own = kind then some ⟨[], first, second, area.extent own, a.extent own⟩ else none)

/-- The layout with the divider of a cut moved, if it has another place then. -/
def movedAcross (layout : Layout) (side : Side) (amount : Nat) (cut : Cut) : Option Layout :=
  layout.movedAt cut.path cut.total cut.share (cut.moved side amount)

theorem movedAcross_behind_false {own : SplitKind} {weights : Nat × Nat} (first second : Layout) (cut : Cut) :
    (split own weights first second).movedAcross side amount (cut.behind false) =
      (first.movedAcross side amount cut).map fun first => split own weights first second := by
  unfold movedAcross movedAt Cut.behind Cut.moved
  split <;> rename_i same <;> simp_all [reweigh]

theorem movedAcross_behind_true {own : SplitKind} {weights : Nat × Nat} (first second : Layout) (cut : Cut) :
    (split own weights first second).movedAcross side amount (cut.behind true) =
      (second.movedAcross side amount cut).map fun second => split own weights first second := by
  unfold movedAcross movedAt Cut.behind Cut.moved
  split <;> rename_i same <;> simp_all [reweigh]

theorem movedAcross_itself (own : SplitKind) (side : Side) (weights : Nat × Nat) (first second : Layout)
    (total amount : Nat) (part : Rect) :
    (if own = side.kind then
        let moved := movedShare first second own total (part.extent own) side amount
        if moved = part.extent own then some none else some (some (split own (moved, total - 1 - moved) first second))
      else none) =
      (if own = side.kind then some ⟨[], first, second, total, part.extent own⟩ else none).map
        ((split own weights first second).movedAcross side amount) := by
  split
  · rename_i along
    subst along
    unfold Option.map movedAcross movedAt Cut.moved
    dsimp only [reweigh]
    split <;> rfl
  · rfl

/-- Moving a divider is the search for it and the change of one split. -/
theorem moveDivider?_eq_innermost? (layout : Layout) (target : PaneId) (side : Side) (amount : Nat) (area : Rect) :
    layout.moveDivider? target side amount area =
      (layout.innermost? target side.kind area).map (layout.movedAcross side amount) := by
  induction layout generalizing area with
  | leaf id => rfl
  | split own weights first second firstIH secondIH =>
      have itself := movedAcross_itself own side weights first second (area.extent own) amount
      unfold moveDivider? innermost?
      cases cut : parts? area own weights with
      | none => rfl
      | some parts =>
          obtain ⟨a, b, divider⟩ := parts
          dsimp only
          rw [firstIH a, secondIH b]
          by_cases here : first.contains target = true
          · rw [if_pos here, if_pos here]
            cases first.innermost? target side.kind a with
            | none => exact itself a
            | some inner => simp [movedAcross_behind_false]
          · rw [if_neg here, if_neg here]
            cases second.innermost? target side.kind b with
            | none => exact itself a
            | some inner => simp [movedAcross_behind_true]

/-- Every part of a layout that shows all of its panes has the cells that the panes need. -/
theorem minExtent_le_of_fits (room : area.HasRoom) (shown : layout.fits area = true) (kind : SplitKind) :
    layout.minExtent kind ≤ area.extent kind := by
  induction layout generalizing area with
  | leaf id =>
      obtain ⟨wide, high⟩ := room
      cases kind
      · exact wide
      · exact high
  | split own weights first second firstIH secondIH =>
      obtain ⟨a, b, divider, cut, inFirst, inSecond⟩ := fits_split.1 shown
      obtain ⟨roomA, roomB⟩ := parts?_hasRoom room cut
      obtain ⟨⟨share, shared, extentA, extentB⟩, along⟩ := parts?_extent cut
      have sum := (shares?_sum shared).2.2
      have needA := firstIH roomA inFirst
      have needB := secondIH roomB inSecond
      unfold minExtent
      split
      · rename_i same
        subst same
        omega
      · rename_i other
        have whole := along kind (Ne.symm other)
        omega

/-- A node of a layout that is split, its area, and those of its parts. -/
structure Cut.At (cut : Cut) (layout : Layout) (area : Rect) (kind : SplitKind) (rect a b : Rect) : Prop where
  reached : ∃ weights divider, layout.nodeAt? area cut.path = some (split kind weights cut.first cut.second, rect) ∧
    parts? rect kind weights = some (a, b, divider)
  total : cut.total = rect.extent kind
  share : cut.share = a.extent kind
  shown : area.HasRoom → layout.fits area = true →
    (a.HasRoom ∧ cut.first.fits a = true) ∧ b.HasRoom ∧ cut.second.fits b = true

/-- The innermost split is a node of the layout. -/
theorem innermost?_at {cut : Cut} (found : layout.innermost? target kind area = some cut) :
    ∃ rect a b, cut.At layout area kind rect a b := by
  induction layout generalizing area cut with
  | leaf id => cases found
  | split own weights first second firstIH secondIH =>
      unfold innermost? at found
      cases parts : parts? area own weights with
      | none => simp [parts] at found
      | some rects =>
          obtain ⟨c, d, divider⟩ := rects
          simp only [parts, Option.or_eq_some_iff] at found
          have inner : area.HasRoom → (split own weights first second).fits area = true →
              (c.HasRoom ∧ first.fits c = true) ∧ d.HasRoom ∧ second.fits d = true := by
            intro room shown
            obtain ⟨roomC, roomD⟩ := parts?_hasRoom room parts
            simp only [fits, parts, Bool.and_eq_true] at shown
            exact ⟨⟨roomC, shown.1⟩, roomD, shown.2⟩
          rcases found with found | ⟨-, found⟩
          · split at found
            · obtain ⟨cut, inPart, rfl⟩ := Option.map_eq_some_iff.1 found
              obtain ⟨rect, a, b, isAt⟩ := firstIH inPart
              refine ⟨rect, a, b, ?_, isAt.total, isAt.share, fun room shown => ?_⟩
              · simpa [Cut.behind, nodeAt?, parts] using isAt.reached
              · have shown := (inner room shown).1
                exact isAt.shown shown.1 shown.2
            · obtain ⟨cut, inPart, rfl⟩ := Option.map_eq_some_iff.1 found
              obtain ⟨rect, a, b, isAt⟩ := secondIH inPart
              refine ⟨rect, a, b, ?_, isAt.total, isAt.share, fun room shown => ?_⟩
              · simpa [Cut.behind, nodeAt?, parts] using isAt.reached
              · have shown := (inner room shown).2
                exact isAt.shown shown.1 shown.2
          · split at found
            · rename_i along
              subst along
              cases found
              exact ⟨area, c, d, ⟨weights, divider, rfl, parts⟩, rfl, rfl, inner⟩
            · cases found

namespace Cut

variable {cut : Cut} {rect a b : Rect}

/-- Both parts of a cut have cells. -/
theorem At.inRange (isAt : cut.At layout area kind rect a b) : cut.InRange cut.share := by
  obtain ⟨weights, divider, -, parts⟩ := isAt.reached
  obtain ⟨⟨share, shared, extentA, extentB⟩, -⟩ := parts?_extent parts
  have sum := shares?_sum shared
  have total := isAt.total
  have first := isAt.share
  unfold InRange
  omega

/-- In a layout that shows all of its panes, the panes of the first part leave cells to the second one. -/
theorem At.minExtent_le (isAt : cut.At layout area kind rect a b) (room : area.HasRoom)
    (shown : layout.fits area = true) : cut.first.minExtent kind + 2 ≤ cut.total := by
  obtain ⟨⟨roomA, fitsA⟩, -⟩ := isAt.shown room shown
  have needs := minExtent_le_of_fits roomA fitsA kind
  have first := isAt.share
  have range := isAt.inRange
  unfold InRange at range
  omega

/-- Wherever a divider moves to, it stays in range exactly if the panes of the first part leave cells to the second. -/
theorem InRange.moved_iff {cells : Nat} (range : cut.InRange cells) (side : Side) (amount : Nat) :
    cut.InRange (cut.moved side amount) ↔ cut.first.minExtent side.kind + 2 ≤ cut.total := by
  have first := minExtent_pos side.kind cut.first
  have second := minExtent_pos side.kind cut.second
  unfold InRange at *
  unfold moved movedShare clampBetween
  dsimp only
  generalize (if side.isOnward then cut.share + amount else cut.share - amount) = asked
  omega

end Cut

end Layout

end ModalPanes
