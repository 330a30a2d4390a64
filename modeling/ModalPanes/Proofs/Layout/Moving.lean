import ModalPanes.Proofs.Layout.Showing

/-!
# Moving a divider

The divider that moves is the one of the innermost split around a pane that lies across the way to a side.  Only
the weights of that split change, and they are the cells of its two parts, which the rounded shares give back.
Everything outside of the split stays where it was.

Turns lead from the root of a layout to its nodes.  A split without room for a divider gives its whole area to its
first part, whose own splits may well show theirs; but the search for a divider to move ends at such a split, so
that the dividers below it stay.
-/

namespace ModalPanes

namespace Layout

variable {layout node after first second : Layout} {area rect a b : Rect} {kind : SplitKind} {side : Side}
variable {weights share : Nat × Nat} {divider : Divider} {target : PaneId} {path : List Bool} {amount : Nat}

/-- The node that turns lead to, and its area.  A turn is true for the second part. -/
def nodeAt? : Layout → Rect → List Bool → Option (Layout × Rect)
  | layout, area, [] => some (layout, area)
  | leaf _, _, _ :: _ => none
  | split kind weights first second, area, turn :: path =>
      match parts? area kind weights with
      | some (a, b, _) => if turn then second.nodeAt? b path else first.nodeAt? a path
      | none => if turn then none else first.nodeAt? area path

/-- Whether all splits that turns pass have room for their dividers. -/
def cutAlong : Layout → Rect → List Bool → Bool
  | _, _, [] => true
  | leaf _, _, _ :: _ => false
  | split kind weights first second, area, turn :: path =>
      match parts? area kind weights with
      | some (a, b, _) => if turn then second.cutAlong b path else first.cutAlong a path
      | none => false

/-- The layout with other weights at the split that turns lead to. -/
def reweigh (weights : Nat × Nat) : Layout → List Bool → Layout
  | leaf id, _ => leaf id
  | split kind _ first second, [] => split kind weights first second
  | split kind own first second, turn :: path =>
      if turn then split kind own first (second.reweigh weights path)
      else split kind own (first.reweigh weights path) second

/-- The splits and the panes of a layout, without its weights. -/
def shape : Layout → Layout
  | leaf id => leaf id
  | split kind _ first second => split kind (0, 0) first.shape second.shape

theorem shape_reweigh (weights : Nat × Nat) (layout : Layout) (path : List Bool) :
    (layout.reweigh weights path).shape = layout.shape := by
  induction layout generalizing path with
  | leaf id => rfl
  | split kind own first second firstIH secondIH =>
      cases path with
      | nil => rfl
      | cons turn path => cases turn <;> simp [reweigh, shape, firstIH, secondIH]

theorem leaves_shape (layout : Layout) : layout.shape.leaves = layout.leaves := by
  induction layout with
  | leaf id => rfl
  | split kind weights first second firstIH secondIH => simp [shape, leaves, firstIH, secondIH]

theorem leaves_of_nodeAt? (found : layout.nodeAt? area path = some (node, rect)) : node.leaves ⊆ layout.leaves := by
  induction layout generalizing area path with
  | leaf id =>
      cases path with
      | nil =>
          cases found
          exact List.Subset.refl _
      | cons turn path => cases found
  | split kind weights first second firstIH secondIH =>
      cases path with
      | nil =>
          cases found
          exact List.Subset.refl _
      | cons turn path =>
          unfold nodeAt? at found
          split at found
          · cases turn with
            | false => exact List.subset_append_of_subset_left _ (firstIH found)
            | true => exact List.subset_append_of_subset_right _ (secondIH found)
          · cases turn with
            | false => exact List.subset_append_of_subset_left _ (firstIH found)
            | true => cases found

/-- Other weights of a split move nothing outside of it. -/
theorem rects_reweigh (found : layout.nodeAt? area path = some (node, rect)) :
    ∃ front rest, layout.rects area = front ++ node.rects rect ++ rest ∧
      ∀ weights, (layout.reweigh weights path).rects area =
        front ++ (node.reweigh weights []).rects rect ++ rest := by
  induction layout generalizing area path with
  | leaf id =>
      cases path with
      | nil =>
          cases found
          exact ⟨[], [], by simp, by simp⟩
      | cons turn path => cases found
  | split kind own first second firstIH secondIH =>
      cases path with
      | nil =>
          cases found
          exact ⟨[], [], by simp, by simp⟩
      | cons turn path =>
          cases cut : parts? area kind own with
          | none =>
              cases turn with
              | true => simp [nodeAt?, cut] at found
              | false =>
                  simp only [nodeAt?, cut, Bool.false_eq_true, if_false] at found
                  obtain ⟨front, rest, before, after⟩ := firstIH found
                  exact ⟨front, rest, by simp [rects, cut, before], by simp [reweigh, rects, cut, after]⟩
          | some parts =>
              obtain ⟨a, b, divider⟩ := parts
              cases turn with
              | false =>
                  simp only [nodeAt?, cut, Bool.false_eq_true, if_false] at found
                  obtain ⟨front, rest, before, after⟩ := firstIH found
                  refine ⟨front, rest ++ second.rects b, ?_, ?_⟩
                  · simp [rects, cut, before]
                  · simp [reweigh, rects, cut, after]
              | true =>
                  simp only [nodeAt?, cut, if_true] at found
                  obtain ⟨front, rest, before, after⟩ := secondIH found
                  refine ⟨first.rects a ++ front, rest, ?_, ?_⟩
                  · simp [rects, cut, before]
                  · simp [reweigh, rects, cut, after]

section Shares

theorem minExtent_pos (kind : SplitKind) (layout : Layout) : 1 ≤ layout.minExtent kind := by
  induction layout with
  | leaf id => exact Nat.le_refl 1
  | split own weights first second firstIH secondIH =>
      unfold minExtent
      split
      · omega
      · exact Nat.le_trans firstIH (Nat.le_max_left _ _)

/-- Shares that are taken as weights come out again. -/
theorem shares?_self {cells other : Nat} (some : 1 ≤ cells) (more : 1 ≤ other) :
    shares? (cells + 1 + other) (cells, other) = .some (cells, other) := by
  have total : cells + 1 + other - 1 = cells + other := by omega
  have wanted : (2 * (cells + other) * cells + (cells + other)) / (2 * (cells + other)) = cells := by
    rw [Nat.mul_add_div (by omega), Nat.div_eq_of_lt (by omega), Nat.add_zero]
  unfold shares?
  rw [if_neg (by omega), total]
  dsimp only
  rw [if_neg (by omega), wanted]
  congr 2 <;> omega

theorem parts?_self {cells other : Nat} (some : 1 ≤ cells) (more : 1 ≤ other)
    (total : cells + 1 + other = rect.extent kind) :
    ∃ a b divider, parts? rect kind (cells, other) = .some (a, b, divider) ∧
      a.extent kind = cells ∧ b.extent kind = other := by
  have shared := shares?_self some more
  rw [total] at shared
  obtain ⟨a, b, divider, cut⟩ := parts?_of_shares? shared
  obtain ⟨⟨share, again, extentA, extentB⟩, -⟩ := parts?_extent cut
  obtain rfl := Option.some.inj (shared.symm.trans again)
  exact ⟨a, b, divider, cut, extentA, extentB⟩

end Shares

/-- Turns lead to the innermost of the splits around a pane that show a divider across one direction. -/
structure Governs (layout : Layout) (area : Rect) (target : PaneId) (kind : SplitKind) (path : List Bool)
    (first second : Layout) (rect a b : Rect) : Prop where
  reached : ∃ weights divider, layout.nodeAt? area path = some (split kind weights first second, rect) ∧
    parts? rect kind weights = some (a, b, divider)
  around : target ∈ first.leaves ++ second.leaves
  innermost : ∀ (turn more) {weights inner other rect}, target ∈ inner.leaves ++ other.leaves →
    layout.nodeAt? area (path ++ turn :: more) = some (split kind weights inner other, rect) →
      parts? rect kind weights = none

theorem exists_nodeAt?_of_moveDivider? {moved : Option Layout} (mem : target ∈ layout.leaves)
    (found : layout.moveDivider? target side amount area = some moved) :
    ∃ path weights first second rect, target ∈ first.leaves ++ second.leaves ∧
      layout.nodeAt? area path = some (split side.kind weights first second, rect) ∧
        parts? rect side.kind weights ≠ none := by
  induction layout generalizing area moved with
  | leaf id => cases found
  | split kind weights first second firstIH secondIH =>
      unfold moveDivider? at found
      cases cut : parts? area kind weights with
      | none => simp [cut] at found
      | some parts =>
          obtain ⟨a, b, divider⟩ := parts
          simp only [cut] at found
          split at found
          · rename_i inner event
            split at event
            · rename_i here
              obtain ⟨moved, inPart, -⟩ := Option.map_eq_some_iff.1 event
              obtain ⟨path, reached⟩ := firstIH ((mem_leaves first target).2 here) inPart
              exact ⟨false :: path, by simpa [nodeAt?, cut] using reached⟩
            · rename_i there
              obtain ⟨moved, inPart, -⟩ := Option.map_eq_some_iff.1 event
              have inSecond := (List.mem_append.1 mem).resolve_left fun inFirst =>
                there ((mem_leaves first target).1 inFirst)
              obtain ⟨path, reached⟩ := secondIH inSecond inPart
              exact ⟨true :: path, by simpa [nodeAt?, cut] using reached⟩
          · split at found
            · rename_i across
              subst across
              exact ⟨[], weights, first, second, area, mem, rfl, by simp [cut]⟩
            · cases found

/-- Inside of the innermost split there is no other divider to be moved. -/
theorem moveDivider?_inside (cut : parts? area side.kind weights = some (a, b, divider))
    (governs : (split side.kind weights first second).Governs area target side.kind [] first second area a b)
    (amount : Nat) :
    (if first.contains target = true then first.moveDivider? target side amount a
      else second.moveDivider? target side amount b) = none := by
  by_contra found
  obtain ⟨moved, found⟩ := Option.ne_none_iff_exists'.1 found
  split at found
  · rename_i here
    obtain ⟨path, weights, inner, other, rect, mem, reached, divided⟩ :=
      exists_nodeAt?_of_moveDivider? ((mem_leaves first target).2 here) found
    apply divided (governs.innermost false path mem _)
    simpa [nodeAt?, cut] using reached
  · rename_i there
    have inSecond : target ∈ second.leaves := by simpa [there] using governs.around
    obtain ⟨path, weights, inner, other, rect, mem, reached, divided⟩ :=
      exists_nodeAt?_of_moveDivider? inSecond found
    apply divided (governs.innermost true path mem _)
    simpa [nodeAt?, cut] using reached

theorem nodeAt?_append (layout : Layout) (area : Rect) (path more : List Bool) :
    layout.nodeAt? area (path ++ more) =
      (layout.nodeAt? area path).bind fun found => found.1.nodeAt? found.2 more := by
  induction layout generalizing area path with
  | leaf id => cases path <;> rfl
  | split kind weights first second firstIH secondIH =>
      cases path with
      | nil => rfl
      | cons turn path =>
          rw [List.cons_append, nodeAt?, nodeAt?]
          split <;> cases turn <;> simp [firstIH, secondIH]

theorem divides_of_nodeAt? (found : layout.nodeAt? area path = some (split kind weights first second, rect)) :
    layout.divides kind = true := by
  induction layout generalizing area path with
  | leaf id => cases path <;> cases found
  | split own weights left right leftIH rightIH =>
      rw [divides]
      cases path with
      | nil =>
          cases found
          simp
      | cons turn path =>
          rw [nodeAt?] at found
          split at found
          · cases turn with
            | false => simp [leftIH found]
            | true => simp [rightIH found]
          · cases turn with
            | false => simp [leftIH found]
            | true => cases found

/-- A split that shows its divider is the innermost one around the panes of parts without splits of its kind. -/
theorem Governs.of_plain (reached : layout.nodeAt? area path = some (split kind weights first second, rect))
    (cut : parts? rect kind weights = some (a, b, divider)) (around : target ∈ first.leaves ++ second.leaves)
    (plain : first.divides kind = false ∧ second.divides kind = false) :
    layout.Governs area target kind path first second rect a b := by
  refine ⟨⟨weights, divider, reached, cut⟩, around, ?_⟩
  intro turn more others inner other rect mem found
  rw [nodeAt?_append, reached, Option.bind_some, nodeAt?, cut] at found
  cases turn with
  | false => simp [divides_of_nodeAt? found] at plain
  | true => simp [divides_of_nodeAt? found] at plain

theorem Governs.of_part {own : SplitKind} {left right : Layout} {c d : Rect} {turn : Bool}
    (cut : parts? area own weights = some (c, d, divider))
    (governs : (split own weights left right).Governs area target kind (turn :: path) first second rect a b) :
    (if turn then right else left).Governs (if turn then d else c) target kind path first second rect a b := by
  have reads : ∀ path, (split own weights left right).nodeAt? area (turn :: path) =
      (if turn then right else left).nodeAt? (if turn then d else c) path := by
    intro path
    cases turn <;> simp [nodeAt?, cut]
  constructor
  · simpa only [reads] using governs.reached
  · exact governs.around
  · intro further more weights inner other rect mem found
    apply governs.innermost further more mem
    rwa [List.cons_append, reads]

theorem Governs.mem_leaves (governs : layout.Governs area target kind path first second rect a b) :
    target ∈ layout.leaves := by
  obtain ⟨weights, divider, found, -⟩ := governs.reached
  exact leaves_of_nodeAt? found governs.around

/-- The layout with a divider moved, if its new place is another one. -/
def movedAt (layout : Layout) (path : List Bool) (total share moved : Nat) : Option Layout :=
  if moved = share then none else some (layout.reweigh (moved, total - 1 - moved) path)

/-- The divider that moves is the one of the innermost split, if all splits around it have room for theirs. -/
theorem moveDivider?_eq (distinct : layout.leaves.Nodup)
    (governs : layout.Governs area target side.kind path first second rect a b)
    (shows : layout.cutAlong area path = true) (amount : Nat) :
    layout.moveDivider? target side amount area =
      some (layout.movedAt path (rect.extent side.kind) (a.extent side.kind)
        (movedShare first second side.kind (rect.extent side.kind) (a.extent side.kind) side amount)) := by
  induction layout generalizing area path with
  | leaf id =>
      obtain ⟨weights, divider, found, -⟩ := governs.reached
      cases path <;> cases found
  | split own weights left right leftIH rightIH =>
      cases path with
      | nil =>
          obtain ⟨weights, divider, found, cut⟩ := governs.reached
          cases found
          have inside := moveDivider?_inside cut governs amount
          unfold movedAt
          by_cases here : first.contains target = true
          · rw [if_pos here] at inside
            simp only [moveDivider?, cut, here, inside, reweigh, if_true, Option.map_none]
            split <;> rfl
          · rw [if_neg here] at inside
            simp only [moveDivider?, cut, here, inside, reweigh, if_true, if_false, Option.map_none, Bool.false_eq_true]
            split <;> rfl
      | cons turn path =>
          cases cut : parts? area own weights with
          | none => simp [cutAlong, cut] at shows
          | some parts =>
              obtain ⟨c, d, divider⟩ := parts
              have part := governs.of_part cut
              obtain ⟨leftDistinct, rightDistinct, apart⟩ := List.nodup_append.1 distinct
              have mem := part.mem_leaves
              cases turn with
              | false =>
                  have here : left.contains target = true := (Layout.mem_leaves left target).1 mem
                  have moves := leftIH leftDistinct part (by simpa [cutAlong, cut] using shows)
                  simp only [Bool.false_eq_true, if_false] at moves
                  simp only [moveDivider?, cut, here, moves, if_true, Option.map_some]
                  unfold movedAt
                  split <;> simp [reweigh]
              | true =>
                  have there : ¬ left.contains target = true := fun here =>
                    apart target ((Layout.mem_leaves left target).2 here) target mem rfl
                  have moves := rightIH rightDistinct part (by simpa [cutAlong, cut] using shows)
                  simp only [if_true] at moves
                  simp only [moveDivider?, cut, there, moves, Bool.false_eq_true, if_false, Option.map_some]
                  unfold movedAt
                  split <;> simp [reweigh]

/-- The split that turns lead to has the other weights afterwards. -/
theorem nodeAt?_reweigh (found : layout.nodeAt? area path = some (node, rect)) (weights : Nat × Nat) :
    (layout.reweigh weights path).nodeAt? area path = some (node.reweigh weights [], rect) := by
  induction layout generalizing area path with
  | leaf id => cases path <;> cases found; rfl
  | split kind own first second firstIH secondIH =>
      cases path with
      | nil =>
          cases found
          rfl
      | cons turn path =>
          rw [nodeAt?] at found
          rw [reweigh]
          cases cut : parts? area kind own with
          | none =>
              cases turn with
              | true => simp [cut] at found
              | false => simpa [nodeAt?, cut] using firstIH (by simpa [cut] using found)
          | some parts =>
              cases turn with
              | true => simpa [nodeAt?, cut] using secondIH (by simpa [cut] using found)
              | false => simpa [nodeAt?, cut] using firstIH (by simpa [cut] using found)

/-- Whether the divider of a split has cells to move over. -/
def hasWay (first second : Layout) (kind : SplitKind) (a b : Rect) (side : Side) : Prop :=
  if side.isOnward then second.minExtent kind < b.extent kind else first.minExtent kind < a.extent kind

/-- The cells of the first part after its divider has moved as far as it is asked to, and as both parts can keep. -/
def keptShare (first second : Layout) (kind : SplitKind) (rect a : Rect) (side : Side) (amount : Nat) : Nat :=
  clampBetween (first.minExtent kind) (rect.extent kind - 1 - second.minExtent kind)
    (if side.isOnward then a.extent kind + amount else a.extent kind - amount)

section Kept

variable (firstFits : first.minExtent kind ≤ a.extent kind) (secondFits : second.minExtent kind ≤ b.extent kind)
  (total : a.extent kind + 1 + b.extent kind = rect.extent kind)

include firstFits secondFits total

theorem movedShare_eq_keptShare (amount : Nat) :
    movedShare first second kind (rect.extent kind) (a.extent kind) side amount =
      keptShare first second kind rect a side amount := by
  have high : first.minExtent kind ≤ rect.extent kind - 1 - second.minExtent kind := by omega
  unfold movedShare keptShare
  dsimp only
  rw [Nat.max_eq_left high]

theorem le_keptShare (side : Side) (amount : Nat) :
    first.minExtent kind ≤ keptShare first second kind rect a side amount ∧
      second.minExtent kind ≤ rect.extent kind - 1 - keptShare first second kind rect a side amount := by
  unfold keptShare clampBetween
  omega

theorem keptShare_ne_iff (side : Side) (amount : Nat) :
    keptShare first second kind rect a side amount ≠ a.extent kind ↔
      0 < amount ∧ hasWay first second kind a b side := by
  unfold keptShare clampBetween hasWay
  split <;> omega

end Kept

/-- The divider of the innermost split around a pane moves as far as it is asked to and as both parts of the split can
keep.  The split is laid out again with exactly these cells, and nothing outside of it moves. -/
theorem divider_moves_exactly (distinct : layout.leaves.Nodup)
    (governs : layout.Governs area target side.kind path first second rect a b)
    (shows : layout.cutAlong area path = true)
    (firstFits : first.minExtent side.kind ≤ a.extent side.kind)
    (secondFits : second.minExtent side.kind ≤ b.extent side.kind) (amount : Nat) :
    ((layout.resize? target side amount area).isSome ↔ 0 < amount ∧ hasWay first second side.kind a b side) ∧
      ∀ after, layout.resize? target side amount area = some after →
        after.shape = layout.shape ∧ after.leaves = layout.leaves ∧
        ∃ cells other a' b' divider, cells = keptShare first second side.kind rect a side amount ∧
          after = layout.reweigh (cells, other) path ∧
          after.nodeAt? area path = some (split side.kind (cells, other) first second, rect) ∧
          parts? rect side.kind (cells, other) = some (a', b', divider) ∧ a'.extent side.kind = cells ∧
          first.minExtent side.kind ≤ a'.extent side.kind ∧ second.minExtent side.kind ≤ b'.extent side.kind ∧
          ∃ front rest, layout.rects area = front ++ (first.rects a ++ second.rects b) ++ rest ∧
            after.rects area = front ++ (first.rects a' ++ second.rects b') ++ rest := by
  obtain ⟨own, divider, found, cut⟩ := governs.reached
  have total : a.extent side.kind + 1 + b.extent side.kind = rect.extent side.kind := by
    obtain ⟨⟨share, shared, extentA, extentB⟩, -⟩ := parts?_extent cut
    have := shares?_sum shared
    omega
  have moves := moveDivider?_eq distinct governs shows amount
  rw [movedShare_eq_keptShare firstFits secondFits total] at moves
  have ways := keptShare_ne_iff firstFits secondFits total side amount
  obtain ⟨firstKept, secondKept⟩ := le_keptShare firstFits secondFits total side amount
  generalize keptShare first second side.kind rect a side amount = cells at *
  have resized : layout.resize? target side amount area =
      layout.movedAt path (rect.extent side.kind) (a.extent side.kind) cells := by
    unfold resize?
    rw [if_pos ((mem_leaves layout target).1 governs.mem_leaves), moves, Option.join_some]
  rw [resized, movedAt]
  constructor
  · rw [← ways]
    split <;> rename_i same <;> simp [same]
  · intro after event
    rw [if_neg (by rintro same; simp [same] at event)] at event
    cases event
    have one := minExtent_pos side.kind first
    have other := minExtent_pos side.kind second
    have shared : cells + 1 + (rect.extent side.kind - 1 - cells) = rect.extent side.kind := by omega
    obtain ⟨a', b', divider, again, extentA, extentB⟩ := parts?_self (by omega) (by omega) shared
    obtain ⟨front, rest, before, after⟩ := rects_reweigh found
    have shape := shape_reweigh (cells, rect.extent side.kind - 1 - cells) layout path
    have leaves : (layout.reweigh (cells, rect.extent side.kind - 1 - cells) path).leaves = layout.leaves := by
      rw [← leaves_shape, shape, leaves_shape]
    refine ⟨shape, leaves, cells, _, a', b', divider, rfl, rfl, nodeAt?_reweigh found _, again, extentA,
      by omega, by omega, front, rest, ?_, ?_⟩
    · simpa [rects, cut] using before
    · simpa [reweigh, rects, again] using after (cells, rect.extent side.kind - 1 - cells)

/-- Two panes one above the other, beside a third one. -/
def stackBeside : Layout := split .vertical (1, 1) (split .horizontal (1, 1) (leaf 0) (leaf 1)) (leaf 2)

/-- The upper of the two panes has three cells to grow over. -/
theorem divider_moves_exactly_down :
    stackBeside.leaves.Nodup ∧
      stackBeside.Governs ⟨0, 0, 9, 10⟩ 0 .horizontal [false] (leaf 0) (leaf 1) ⟨0, 0, 4, 10⟩ ⟨0, 0, 4, 5⟩ ⟨0, 6, 4, 4⟩ ∧
      stackBeside.cutAlong ⟨0, 0, 9, 10⟩ [false] = true ∧
      ((stackBeside.resize? 0 .down 9 ⟨0, 0, 9, 10⟩).isSome ↔
        0 < 9 ∧ hasWay (leaf 0) (leaf 1) .horizontal ⟨0, 0, 4, 5⟩ ⟨0, 6, 4, 4⟩ .down) := by
  have cut : parts? ⟨0, 0, 4, 10⟩ .horizontal (1, 1) = some (⟨0, 0, 4, 5⟩, ⟨0, 6, 4, 4⟩, ⟨0, 5, 4, false⟩) := by decide
  have governs : stackBeside.Governs ⟨0, 0, 9, 10⟩ 0 (Side.kind .down) [false] (leaf 0) (leaf 1) ⟨0, 0, 4, 10⟩
      ⟨0, 0, 4, 5⟩ ⟨0, 6, 4, 4⟩ := .of_plain (by decide) cut (by decide) (by decide)
  exact ⟨by decide, governs, by decide,
    (divider_moves_exactly (by decide) governs (by decide) (by decide) (by decide) 9).1⟩

/-- The divider of an inner split stays where the outer split has no room for its own, although it is shown there and
has cells to move over. -/
theorem divider_stays :
    stackBeside.leaves.Nodup ∧ ⟨0, 5, 2, false⟩ ∈ stackBeside.dividers ⟨0, 0, 2, 10⟩ ∧
      stackBeside.Governs ⟨0, 0, 2, 10⟩ 0 .horizontal [false] (leaf 0) (leaf 1) ⟨0, 0, 2, 10⟩ ⟨0, 0, 2, 5⟩ ⟨0, 6, 2, 4⟩ ∧
      hasWay (leaf 0) (leaf 1) .horizontal ⟨0, 0, 2, 5⟩ ⟨0, 6, 2, 4⟩ .down ∧
      keptShare (leaf 0) (leaf 1) .horizontal ⟨0, 0, 2, 10⟩ ⟨0, 0, 2, 5⟩ .down 1 = 6 ∧
      stackBeside.resize? 0 .down 1 ⟨0, 0, 2, 10⟩ = none := by
  have cut : parts? ⟨0, 0, 2, 10⟩ .horizontal (1, 1) = some (⟨0, 0, 2, 5⟩, ⟨0, 6, 2, 4⟩, ⟨0, 5, 2, false⟩) := by decide
  refine ⟨by decide, by decide, .of_plain (by decide) cut (by decide) (by decide), ?_, by decide, by decide⟩
  show 1 < 4
  decide

end Layout

end ModalPanes
