import ModalPanes.Proofs.Layout.Edges

/-!
# The pane on a side

Looking for the pane on a side of another one, rectangles are compared: one that begins right behind the divider and
shares a row or a column counts, and only if there is none, one at the far edge of the area.  A pane that does not touch
the edge of the area has such a pane on that side, unless it is one cell high or wide itself and faces the end of a
divider there; then the search comes out at the far edge, or nowhere.
-/

namespace ModalPanes

/-- A rectangle begins right behind the divider on a side of another one, and they have a row or a column in common. -/
structure Rect.LiesAcross (own other : Rect) (side : Side) : Prop where
  borders : own.Borders other side
  shares : max (own.start side.kind.across) (other.start side.kind.across) <
    min (own.stop side.kind.across) (other.stop side.kind.across)

instance (own other : Rect) (side : Side) : Decidable (own.LiesAcross other side) :=
  decidable_of_iff (_ ∧ _) ⟨fun ⟨borders, shares⟩ => ⟨borders, shares⟩, fun lies => ⟨lies.borders, lies.shares⟩⟩

namespace Layout

variable {layout : Layout} {area own other : Rect} {side : Side} {current id : PaneId}

theorem isBeside_iff (room : own.HasRoom) (otherRoom : other.HasRoom) :
    isBeside side own other = true ↔ own.LiesAcross other side := by
  obtain ⟨wide, high⟩ := room
  obtain ⟨otherWide, otherHigh⟩ := otherRoom
  have reads : own.LiesAcross other side ↔ own.Borders other side ∧
      max (own.start side.kind.across) (other.start side.kind.across) <
        min (own.stop side.kind.across) (other.stop side.kind.across) :=
    ⟨fun lies => ⟨lies.borders, lies.shares⟩, fun ⟨borders, shares⟩ => ⟨borders, shares⟩⟩
  rw [reads]
  cases side <;>
    simp only [isBeside, shareRow, shareColumn, Rect.Borders, Rect.start, Rect.stop, Rect.extent, Side.kind,
      Side.isOnward, SplitKind.across, Bool.and_eq_true, decide_eq_true_eq, beq_iff_eq, Bool.false_eq_true, if_true,
      if_false] <;>
    omega

theorem touches_of_isAcross (across : isAcross side area own other = true) : other.Touches area side.opposite := by
  cases side <;>
    simp_all [isAcross, Rect.Touches, Rect.start, Rect.stop, Rect.extent, Side.kind, Side.isOnward, Side.opposite]

section Least

variable {key : Rect → Nat} {panes : List (PaneId × Rect)} {best : PaneId × Rect}

theorem mem_of_leastBy (least : leastBy key panes = some best) : best ∈ panes := by
  induction panes generalizing best with
  | nil => cases least
  | cons pane panes ih =>
      unfold leastBy at least
      split at least
      · rename_i other behind
        split at least
        · cases least
          exact List.mem_cons_self
        · cases least
          exact List.mem_cons_of_mem _ (ih behind)
      · cases least
        exact List.mem_cons_self

theorem leastBy_eq_none_iff : leastBy key panes = none ↔ panes = [] := by
  cases panes with
  | nil => exact ⟨fun _ => rfl, fun _ => rfl⟩
  | cons pane panes =>
      unfold leastBy
      split
      · split <;> simp
      · simp

end Least

/-- The nearest of the other panes whose rectangles fit. -/
def nearest? (layout : Layout) (area : Rect) (current : PaneId) (side : Side) (own : Rect) (fits : Rect → Bool) :
    Option PaneId :=
  (leastBy (fun rect => distance (middle side rect) (middle side own))
    ((layout.rects area).filter fun pane => pane.1 != current && fits pane.2)).map Prod.fst

section Nearest

variable {fits : Rect → Bool}

theorem nearest?_eq_some (found : layout.nearest? area current side own fits = some id) :
    ∃ pane ∈ layout.rects area, id = pane.1 ∧ fits pane.2 = true := by
  obtain ⟨best, least, rfl⟩ := Option.map_eq_some_iff.1 found
  obtain ⟨mem, fitting⟩ := List.mem_filter.1 (mem_of_leastBy least)
  exact ⟨best, mem, rfl, (Bool.and_eq_true_iff.1 fitting).2⟩

theorem nearest?_eq_none_iff : layout.nearest? area current side own fits = none ↔
    ∀ pane ∈ layout.rects area, pane.1 ≠ current → fits pane.2 = false := by
  simp [nearest?, leastBy_eq_none_iff, List.filter_eq_nil_iff]

/-- Panes beside the current one come first, and then those across the area. -/
theorem neighbor?_eq (found : (layout.rects area).lookup current = some own) (several : 1 < (layout.rects area).length) :
    layout.neighbor? current side area =
      (layout.nearest? area current side own (isBeside side own)).or
        (layout.nearest? area current side own (isAcross side area own)) := by
  unfold neighbor?
  dsimp only
  rw [if_neg (Nat.not_le_of_lt several), found]
  rfl

end Nearest

/-- A pane that is one cell high or wide faces a divider that ends at the one on its side. -/
def FacesDivider (layout : Layout) (area own : Rect) (side : Side) : Prop :=
  own.extent side.kind.across = 1 ∧ ∃ divider ∈ layout.dividers area, own.LiesAcross divider.rect side

instance (layout : Layout) (area own : Rect) (side : Side) : Decidable (layout.FacesDivider area own side) :=
  inferInstanceAs (Decidable (_ ∧ ∃ _ ∈ _, _))

/-- A pane that does not touch the edge has another one across the divider, or it faces the end of a divider there. -/
theorem exists_across (room : area.HasRoom) (shown : layout.fits area = true) {pane : PaneId × Rect}
    (mem : pane ∈ layout.rects area) (side : Side) (inside : ¬ pane.2.Touches area side) :
    (∃ other ∈ layout.rects area, pane.2.LiesAcross other.2 side) ∨ layout.FacesDivider area pane.2 side := by
  obtain ⟨part, rect, isPart, borders, low, high⟩ := exists_part_behind room shown mem side inside
  have cells := (layout.rects_hasRoom room pane mem).start_lt_stop side.kind.across
  by_cases wide : pane.2.extent side.kind.across = 1
  · let place := fun kind => if kind = side.kind then rect.edgeCell side.opposite else pane.2.start side.kind.across
    have edge : place side.kind = rect.edgeCell side.opposite := if_pos rfl
    have row : place side.kind.across = pane.2.start side.kind.across := if_neg side.kind.across_ne
    have inRect : rect.Covers (place .vertical) (place .horizontal) := by
      rw [Rect.covers_iff]
      intro kind
      by_cases along : kind = side.kind
      · rw [along, edge]
        simpa using isPart.room.covers_edgeCell side.opposite
      · rw [SplitKind.eq_across along, row]
        omega
    have across : ∀ {other : Rect}, other.Within rect → other.Covers (place .vertical) (place .horizontal) →
        pane.2.LiesAcross other side := by
      intro other within covers
      rw [Rect.covers_iff] at covers
      have behind := covers side.kind
      have beside := covers side.kind.across
      rw [edge] at behind
      rw [row] at beside
      refine ⟨borders.touching (within.touches ?_), by omega⟩
      simpa using behind
    rcases part.exists_covering inRect with ⟨other, inPart, covers⟩ | ⟨divider, inPart, covers⟩
    · exact .inl ⟨other, isPart.rects inPart, across (part.rects_within rect other inPart) covers⟩
    · have within := (part.dividers_within isPart.room divider inPart).1
      exact .inr ⟨wide, divider, isPart.dividers inPart, across within covers⟩
  · left
    have long : 2 ≤ pane.2.extent side.kind.across := by
      unfold Rect.stop at cells
      omega
    obtain ⟨other, inPart, touches, meets⟩ := exists_touching isPart.fits side.opposite (pane.2.start side.kind.across)
      (pane.2.extent side.kind.across) (by omega)
      (by simpa using ⟨low, high⟩) (.inl long)
    refine ⟨other, isPart.rects inPart, borders.touching touches, ?_⟩
    have otherCells := (layout.rects_hasRoom room other (isPart.rects inPart)).start_lt_stop side.kind.across
    unfold Rect.Meets at meets
    unfold Rect.stop at *
    simp only [Side.kind_opposite] at meets
    omega

/-- What lies across from something of one row, or column, has the cell behind the divider. -/
theorem covers_of_liesAcross (lies : own.LiesAcross other side) (room : other.HasRoom)
    (single : own.extent side.kind.across = 1) {place : SplitKind → Nat}
    (behind : if side.isOnward then place side.kind = own.stop side.kind + 1 else place side.kind + 2 = own.start side.kind)
    (beside : place side.kind.across = own.start side.kind.across) :
    other.Covers (place .vertical) (place .horizontal) := by
  have cells := room.start_lt_stop side.kind
  obtain ⟨borders, shares⟩ := lies
  unfold Rect.Borders at borders
  have width : own.stop side.kind.across = own.start side.kind.across + 1 := congrArg (_ + ·) single
  rw [Rect.covers_iff]
  intro kind
  by_cases along : kind = side.kind
  · subst along
    split at borders <;> rename_i onward
    · rw [if_pos onward] at behind
      omega
    · rw [if_neg onward] at behind
      omega
  · obtain rfl := SplitKind.eq_across along
    omega

theorem not_liesAcross_of_facesDivider (room : area.HasRoom) (faces : layout.FacesDivider area own side) :
    ∀ pane ∈ layout.rects area, ¬ own.LiesAcross pane.2 side := by
  intro pane mem lies
  obtain ⟨single, divider, inDividers, facing⟩ := faces
  have cell : ∃ cell, if side.isOnward then cell = own.stop side.kind + 1 else cell + 2 = own.start side.kind := by
    have borders := lies.borders
    have cells := (layout.rects_hasRoom room pane mem).start_lt_stop side.kind
    unfold Rect.Borders at borders
    split
    · exact ⟨_, rfl⟩
    · rename_i back
      rw [if_neg back] at borders
      exact ⟨own.start side.kind - 2, by omega⟩
  obtain ⟨cell, behind⟩ := cell
  let place := fun kind => if kind = side.kind then cell else own.start side.kind.across
  have here : place side.kind = cell := if_pos rfl
  have beside : place side.kind.across = own.start side.kind.across := if_neg side.kind.across_ne
  rw [← here] at behind
  have ofPane := covers_of_liesAcross lies (layout.rects_hasRoom room pane mem) single behind beside
  have ofDivider := covers_of_liesAcross facing (layout.dividers_within room divider inDividers).2 single behind beside
  exact not_covers_of_divider inDividers mem ofDivider ofPane

/-- Panes with different numbers are at least two. -/
theorem several_rects {pane next : PaneId × Rect} (mem : pane ∈ layout.rects area) (other : next ∈ layout.rects area)
    (different : next.1 ≠ pane.1) : 1 < (layout.rects area).length := by
  obtain ⟨front, rest, rects⟩ := List.append_of_mem mem
  rw [rects, List.mem_append, List.mem_cons] at other
  rw [rects, List.length_append, List.length_cons]
  rcases other with here | rfl | there
  · have := List.length_pos_of_mem here
    omega
  · contradiction
  · have := List.length_pos_of_mem there
    omega

section Found

variable (ids : ((layout.rects area).map Prod.fst).Nodup) (room : area.HasRoom) (mem : (current, own) ∈ layout.rects area)
include ids room mem

theorem neighbor?_of_liesAcross {pane : PaneId × Rect} (inRects : pane ∈ layout.rects area)
    (lies : own.LiesAcross pane.2 side) :
    ∃ other ∈ layout.rects area, layout.neighbor? current side area = some other.1 ∧ own.LiesAcross other.2 side := by
  have found := lookup_of_mem ids mem
  have rooms := layout.rects_hasRoom room
  have different : pane.1 ≠ current := by
    rintro rfl
    have same := Option.some.inj (found.symm.trans (lookup_of_mem ids (Prod.eta pane ▸ inRects)))
    exact own.not_borders_self side (same ▸ lies.borders)
  have picks : layout.nearest? area current side own (isBeside side own) ≠ none := by
    rw [Ne, nearest?_eq_none_iff]
    intro none
    have missed := none pane inRects different
    rw [(isBeside_iff (rooms _ mem) (rooms pane inRects)).2 lies] at missed
    cases missed
  obtain ⟨id, picked⟩ := Option.ne_none_iff_exists'.1 picks
  obtain ⟨other, inRects', rfl, fitting⟩ := nearest?_eq_some picked
  refine ⟨other, inRects', ?_, (isBeside_iff (rooms _ mem) (rooms other inRects')).1 fitting⟩
  rw [neighbor?_eq found (several_rects mem inRects different), picked, Option.some_or]

theorem neighbor?_eq_some (picked : layout.neighbor? current side area = some id) (inRects : (id, other) ∈ layout.rects area) :
    own.LiesAcross other side ∨ other.Touches area side.opposite := by
  have found := lookup_of_mem ids mem
  have rooms := layout.rects_hasRoom room
  have several : 1 < (layout.rects area).length := by
    by_contra few
    simp [neighbor?, Nat.le_of_not_lt few] at picked
  have isOther : ∀ pane ∈ layout.rects area, id = pane.1 → other = pane.2 := by
    rintro pane inRects' rfl
    exact Option.some.inj ((lookup_of_mem ids inRects).symm.trans (lookup_of_mem ids (Prod.eta pane ▸ inRects')))
  rw [neighbor?_eq found several, Option.or_eq_some_iff] at picked
  rcases picked with picked | ⟨-, picked⟩
  · obtain ⟨pane, inRects', same, fitting⟩ := nearest?_eq_some picked
    obtain rfl := isOther pane inRects' same
    exact .inl ((isBeside_iff (rooms _ mem) (rooms pane inRects')).1 fitting)
  · obtain ⟨pane, inRects', same, fitting⟩ := nearest?_eq_some picked
    obtain rfl := isOther pane inRects' same
    exact .inr (touches_of_isAcross fitting)

end Found

/-- In a layout that shows all of its panes, a pane that does not touch the edge of the area on a side has as its
neighbour there a pane right behind the divider that shares a row or a column with it, unless it faces the end of a
divider: then there is no such pane.  Only at the edge, and at the end of a divider, a pane at the far edge is the
neighbour. -/
theorem neighbor_crosses_divider (distinct : layout.leaves.Nodup)
    (shown : (layout.rects area).map Prod.fst = layout.leaves) (room : area.HasRoom)
    (mem : (current, own) ∈ layout.rects area) (side : Side) :
    (¬ own.Touches area side → ¬ layout.FacesDivider area own side →
      ∃ id other, layout.neighbor? current side area = some id ∧ (id, other) ∈ layout.rects area ∧
        own.LiesAcross other side) ∧
      (∀ id other, layout.neighbor? current side area = some id → (id, other) ∈ layout.rects area →
        own.LiesAcross other side ∨
          (own.Touches area side ∨ layout.FacesDivider area own side) ∧ other.Touches area side.opposite) ∧
      (layout.FacesDivider area own side → ∀ pane ∈ layout.rects area, ¬ own.LiesAcross pane.2 side) := by
  have ids : ((layout.rects area).map Prod.fst).Nodup := shown ▸ distinct
  have fits := (fits_iff layout area).2 shown
  have crosses : ¬ own.Touches area side → ¬ layout.FacesDivider area own side →
      ∃ pane ∈ layout.rects area, layout.neighbor? current side area = some pane.1 ∧ own.LiesAcross pane.2 side := by
    intro inside free
    obtain ⟨pane, inRects, lies⟩ := (exists_across room fits mem side inside).resolve_right free
    exact neighbor?_of_liesAcross ids room mem inRects lies
  refine ⟨?_, ?_, not_liesAcross_of_facesDivider room⟩
  · intro inside free
    obtain ⟨pane, inRects, picked, lies⟩ := crosses inside free
    exact ⟨pane.1, pane.2, picked, inRects, lies⟩
  · intro id other picked inRects
    by_cases lies : own.LiesAcross other side
    · exact .inl lies
    · right
      refine ⟨?_, (neighbor?_eq_some ids room mem picked inRects).resolve_left lies⟩
      by_contra free
      rw [not_or] at free
      obtain ⟨pane, inRects', again, across⟩ := crosses free.1 free.2
      obtain rfl := Option.some.inj (picked.symm.trans again)
      have same := Option.some.inj ((lookup_of_mem ids inRects).symm.trans (lookup_of_mem ids (Prod.eta pane ▸ inRects')))
      exact lies (same ▸ across)

/-- Three columns, the last two of which are cut into rows that do not line up. -/
def raggedColumns : Layout :=
  split .vertical (1, 1) (leaf 0)
    (split .vertical (1, 1)
      (split .horizontal (1, 3) (leaf 1) (split .horizontal (1, 1) (leaf 4) (leaf 5)))
      (split .horizontal (1, 1) (leaf 2) (leaf 3)))

/-- From the top of the column in the middle, the way to the right crosses the divider. -/
theorem neighbor_crosses_divider_right :
    (1, ⟨4, 0, 1, 1⟩) ∈ raggedColumns.rects ⟨0, 0, 7, 5⟩ ∧ ¬ Rect.Touches ⟨4, 0, 1, 1⟩ ⟨0, 0, 7, 5⟩ .right ∧
      ¬ raggedColumns.FacesDivider ⟨0, 0, 7, 5⟩ ⟨4, 0, 1, 1⟩ .right ∧
        ∃ id other, raggedColumns.neighbor? 1 .right ⟨0, 0, 7, 5⟩ = some id ∧
          (id, other) ∈ raggedColumns.rects ⟨0, 0, 7, 5⟩ ∧ Rect.LiesAcross ⟨4, 0, 1, 1⟩ other .right := by
  have mem : (1, ⟨4, 0, 1, 1⟩) ∈ raggedColumns.rects ⟨0, 0, 7, 5⟩ := by decide
  have inside : ¬ Rect.Touches ⟨4, 0, 1, 1⟩ ⟨0, 0, 7, 5⟩ .right := by decide
  have free : ¬ raggedColumns.FacesDivider ⟨0, 0, 7, 5⟩ ⟨4, 0, 1, 1⟩ .right := by decide
  have crosses := neighbor_crosses_divider (by decide) (by decide) ⟨by decide, by decide⟩ mem .right
  exact ⟨mem, inside, free, crosses.1 inside free⟩

/-- The pane in the middle that faces the end of a divider has a pane on the far side of the area as its neighbour,
although it does not touch the edge. -/
theorem neighbor_wraps_inside :
    raggedColumns.leaves.Nodup ∧ (raggedColumns.rects ⟨0, 0, 7, 5⟩).map Prod.fst = raggedColumns.leaves ∧
      (4, ⟨4, 2, 1, 1⟩) ∈ raggedColumns.rects ⟨0, 0, 7, 5⟩ ∧ ¬ Rect.Touches ⟨4, 2, 1, 1⟩ ⟨0, 0, 7, 5⟩ .right ∧
      raggedColumns.neighbor? 4 .right ⟨0, 0, 7, 5⟩ = some 0 ∧
      (0, ⟨0, 0, 3, 5⟩) ∈ raggedColumns.rects ⟨0, 0, 7, 5⟩ ∧ ¬ Rect.LiesAcross ⟨4, 2, 1, 1⟩ ⟨0, 0, 3, 5⟩ .right := by
  decide

end Layout

end ModalPanes
