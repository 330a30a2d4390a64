import ModalPanes.Proofs.Layout.Placing
import ModalPanes.Proofs.Layout.Showing

/-!
# The edges of a layout

A pane that does not touch the edge of the area on a side ends at a divider, with a part of the layout right behind it
that reaches at least as far along the divider as the pane does.  On its near edge that part shows panes, with single
cells of dividers between them; so of two cells in a row one belongs to a pane.

Positions are counted in the direction of a kind of split, or across it.
-/

namespace ModalPanes

/-- The other kind of split. -/
def SplitKind.across : SplitKind → SplitKind
  | vertical => horizontal
  | horizontal => vertical

theorem SplitKind.eq_across {kind other : SplitKind} (different : other ≠ kind) : other = kind.across := by
  cases kind <;> cases other <;> first | rfl | contradiction

theorem SplitKind.across_ne (kind : SplitKind) : kind.across ≠ kind := by
  cases kind <;> nofun

/-- The side that lies the other way. -/
def Side.opposite : Side → Side
  | left => right
  | right => left
  | up => down
  | down => up

@[simp] theorem Side.kind_opposite (side : Side) : side.opposite.kind = side.kind := by cases side <;> rfl

@[simp] theorem Side.isOnward_opposite (side : Side) : side.opposite.isOnward = !side.isOnward := by
  cases side <;> rfl

@[simp] theorem Side.opposite_opposite (side : Side) : side.opposite.opposite = side := by cases side <;> rfl

namespace Rect

variable {rect other area part : Rect} {kind : SplitKind} {side : Side}

/-- The first cell of a rectangle in the direction of a kind of split. -/
def start (rect : Rect) : SplitKind → Nat
  | .vertical => rect.x
  | .horizontal => rect.y

/-- The cell behind the last one. -/
def stop (rect : Rect) (kind : SplitKind) : Nat := rect.start kind + rect.extent kind

def Touches (rect area : Rect) (side : Side) : Prop :=
  if side.isOnward then rect.stop side.kind = area.stop side.kind else rect.start side.kind = area.start side.kind

/-- Another rectangle begins right behind the divider on a side. -/
def Borders (rect other : Rect) (side : Side) : Prop :=
  if side.isOnward then rect.stop side.kind + 1 = other.start side.kind
  else other.stop side.kind + 1 = rect.start side.kind

/-- A rectangle has a cell in the row, or in the column, of one of `count` cells from `low` on. -/
def Meets (rect : Rect) (kind : SplitKind) (low count : Nat) : Prop :=
  rect.start kind < low + count ∧ low < rect.stop kind

instance (rect area : Rect) (side : Side) : Decidable (rect.Touches area side) :=
  inferInstanceAs (Decidable (ite _ _ _))

instance (rect other : Rect) (side : Side) : Decidable (rect.Borders other side) :=
  inferInstanceAs (Decidable (ite _ _ _))

theorem Meets.mono {low count more further : Nat} (meets : rect.Meets kind low count) (le : more ≤ low)
    (within : low + count ≤ more + further) : rect.Meets kind more further := by
  unfold Meets at *
  omega

/-- A rectangle lies within another one. -/
def Within (rect area : Rect) : Prop := ∀ kind, area.start kind ≤ rect.start kind ∧ rect.stop kind ≤ area.stop kind

theorem LiesIn.within (lies : rect.LiesIn area) : rect.Within area := by
  obtain ⟨left, right, top, bottom⟩ := lies
  intro kind
  cases kind <;> simp only [start, stop, extent] <;> omega

theorem Within.trans (first : rect.Within part) (second : part.Within area) : rect.Within area := fun kind =>
  ⟨(second kind).1.trans (first kind).1, (first kind).2.trans (second kind).2⟩

/-- A cell is given by its places in both directions. -/
theorem covers_iff (place : SplitKind → Nat) : rect.Covers (place .vertical) (place .horizontal) ↔
    ∀ kind, rect.start kind ≤ place kind ∧ place kind < rect.stop kind :=
  ⟨fun covers kind => match kind with
    | .vertical => covers.1
    | .horizontal => covers.2,
    fun covers => ⟨covers .vertical, covers .horizontal⟩⟩

theorem HasRoom.start_lt_stop (room : rect.HasRoom) (kind : SplitKind) : rect.start kind < rect.stop kind := by
  obtain ⟨wide, high⟩ := room
  cases kind <;> simp only [start, stop, extent] <;> omega

theorem not_borders_self (rect : Rect) (side : Side) : ¬ rect.Borders rect side := by
  unfold Borders stop
  split <;> omega

/-- The last cell of a rectangle towards a side. -/
def edgeCell (rect : Rect) (side : Side) : Nat :=
  if side.isOnward then rect.stop side.kind - 1 else rect.start side.kind

theorem HasRoom.covers_edgeCell (room : rect.HasRoom) (side : Side) :
    rect.start side.kind ≤ rect.edgeCell side ∧ rect.edgeCell side < rect.stop side.kind := by
  have cells := room.start_lt_stop side.kind
  unfold edgeCell
  split <;> omega

theorem Within.touches (within : rect.Within area)
    (covers : rect.start side.kind ≤ area.edgeCell side ∧ area.edgeCell side < rect.stop side.kind) :
    rect.Touches area side := by
  have inside := within side.kind
  unfold edgeCell at covers
  unfold Touches
  split <;> simp_all <;> omega

theorem Borders.of_touches (borders : part.Borders area side) (touches : rect.Touches part side) :
    rect.Borders area side := by
  unfold Borders at *
  unfold Touches at touches
  split at touches <;> simp_all

theorem Borders.touching (borders : rect.Borders part side) (touches : other.Touches part side.opposite) :
    rect.Borders other side := by
  unfold Borders at *
  unfold Touches at touches
  cases onward : side.isOnward <;> simp_all

end Rect

namespace Layout

variable {layout : Layout} {area first second rect : Rect} {kind : SplitKind} {weights : Nat × Nat} {divider : Divider}
/-- One part after the other, with one cell between them. -/
theorem parts?_along (cut : parts? area kind weights = some (first, second, divider)) :
    first.start kind = area.start kind ∧ first.stop kind + 1 = second.start kind ∧
      second.stop kind = area.stop kind ∧ first.start kind < first.stop kind ∧ second.start kind < second.stop kind := by
  obtain ⟨share, shared, parts⟩ := Option.map_eq_some_iff.1 cut
  obtain ⟨firstShare, secondShare, sum⟩ := shares?_sum shared
  cases kind <;>
  · cases parts
    simp only [Rect.start, Rect.stop, Rect.extent] at sum ⊢
    refine ⟨trivial, trivial, ?_, ?_, ?_⟩ <;> omega

theorem parts?_across (cut : parts? area kind weights = some (first, second, divider)) :
    (first.start kind.across = area.start kind.across ∧ first.stop kind.across = area.stop kind.across) ∧
      second.start kind.across = area.start kind.across ∧ second.stop kind.across = area.stop kind.across := by
  obtain ⟨share, shared, parts⟩ := Option.map_eq_some_iff.1 cut
  cases kind <;>
  · cases parts
    exact ⟨⟨rfl, rfl⟩, rfl, rfl⟩

theorem rects_within (layout : Layout) (area : Rect) : ∀ shown ∈ layout.rects area, shown.2.Within area :=
  fun shown mem => (layout.rects_liesIn area shown mem).within

/-- On the edge of the area there is a pane in one of two neighbouring rows or columns, and in the first and the last
one. -/
theorem exists_touching (shown : layout.fits area = true) (side : Side) (low count : Nat) (pos : 0 < count)
    (inside : area.start side.kind.across ≤ low ∧ low + count ≤ area.stop side.kind.across)
    (wide : 2 ≤ count ∨ low = area.start side.kind.across ∨ low + count = area.stop side.kind.across) :
    ∃ pane ∈ layout.rects area, pane.2.Touches area side ∧ pane.2.Meets side.kind.across low count := by
  induction layout generalizing area low count with
  | leaf id =>
      refine ⟨(id, area), List.mem_singleton.2 rfl, ?_, ?_⟩
      · unfold Rect.Touches
        split <;> rfl
      · show area.start _ < low + count ∧ low < area.stop _
        omega
  | split own weights first second firstIH secondIH =>
      obtain ⟨a, b, divider, cut, inFirst, inSecond⟩ := fits_split.1 shown
      obtain ⟨starts, between, stops, cellsA, cellsB⟩ := parts?_along cut
      obtain ⟨⟨startA, stopA⟩, startB, stopB⟩ := parts?_across cut
      have rects : (split own weights first second).rects area = first.rects a ++ second.rects b := by
        simp only [Layout.rects, cut]
      rw [rects]
      by_cases along : own = side.kind
      · subst along
        cases onward : side.isOnward with
        | true =>
            obtain ⟨pane, mem, touches, meets⟩ := secondIH inSecond low count pos (by omega) (by omega)
            refine ⟨pane, List.mem_append_right _ mem, ?_, meets⟩
            simpa [Rect.Touches, onward, stops] using touches
        | false =>
            obtain ⟨pane, mem, touches, meets⟩ := firstIH inFirst low count pos (by omega) (by omega)
            refine ⟨pane, List.mem_append_left _ mem, ?_, meets⟩
            simpa [Rect.Touches, onward, starts] using touches
      · have sideways : own = side.kind.across := SplitKind.eq_across along
        have back : own.across = side.kind := by rw [sideways]; cases side.kind <;> rfl
        rw [← sideways] at inside wide ⊢
        rw [back] at startA stopA startB stopB
        have touchesA : ∀ {rect : Rect}, rect.Touches a side → rect.Touches area side := by
          intro rect touches
          simpa only [Rect.Touches, startA, stopA] using touches
        have touchesB : ∀ {rect : Rect}, rect.Touches b side → rect.Touches area side := by
          intro rect touches
          simpa only [Rect.Touches, startB, stopB] using touches
        rw [← sideways] at firstIH secondIH
        by_cases before : low < a.stop own
        · have cells : 0 < min count (a.stop own - low) := by omega
          obtain ⟨pane, mem, touches, meets⟩ :=
            firstIH inFirst low (min count (a.stop own - low)) cells (by omega) (by omega)
          exact ⟨pane, List.mem_append_left _ mem, touchesA touches, meets.mono (Nat.le_refl _) (by omega)⟩
        · obtain ⟨pane, mem, touches, meets⟩ :=
            secondIH inSecond (max low (b.start own)) (low + count - max low (b.start own)) (by omega) (by omega)
              (by omega)
          exact ⟨pane, List.mem_append_right _ mem, touchesB touches, meets.mono (by omega) (by omega)⟩

theorem exists_covering (layout : Layout) {x y : Nat} (covers : area.Covers x y) :
    (∃ pane ∈ layout.rects area, pane.2.Covers x y) ∨ ∃ divider ∈ layout.dividers area, divider.rect.Covers x y := by
  have tiles := layout.coverCount_eq area x y
  rw [if_pos covers, coverCount] at tiles
  rcases Nat.eq_zero_or_pos ((layout.rects area).countP fun pane => pane.2.Covers x y) with none | some
  · right
    have one : 0 < (layout.dividers area).countP fun divider => divider.rect.Covers x y := by omega
    obtain ⟨divider, mem, covered⟩ := List.countP_pos_iff.1 one
    exact ⟨divider, mem, of_decide_eq_true covered⟩
  · left
    obtain ⟨pane, mem, covered⟩ := List.countP_pos_iff.1 some
    exact ⟨pane, mem, of_decide_eq_true covered⟩

theorem parts?_edge (cut : parts? area kind weights = some (first, second, divider)) (side : Side) :
    ((∀ {rect : Rect}, rect.Touches first side → rect.Touches area side) ∨ kind = side.kind ∧ first.Borders second side) ∧
      ((∀ {rect : Rect}, rect.Touches second side → rect.Touches area side) ∨
        kind = side.kind ∧ second.Borders first side) := by
  obtain ⟨starts, between, stops, -, -⟩ := parts?_along cut
  obtain ⟨⟨startFirst, stopFirst⟩, startSecond, stopSecond⟩ := parts?_across cut
  by_cases along : kind = side.kind
  · subst along
    cases onward : side.isOnward with
    | true => exact ⟨.inr ⟨rfl, by simpa [Rect.Borders, onward] using between⟩, .inl (by simp [Rect.Touches, onward, stops])⟩
    | false => exact ⟨.inl (by simp [Rect.Touches, onward, starts]), .inr ⟨rfl, by simpa [Rect.Borders, onward] using between⟩⟩
  · have back : kind.across = side.kind := (SplitKind.eq_across (Ne.symm along)).symm
    rw [back] at startFirst stopFirst startSecond stopSecond
    exact ⟨.inl (by simp [Rect.Touches, startFirst, stopFirst]), .inl (by simp [Rect.Touches, startSecond, stopSecond])⟩

/-- A part of a layout with its area: all of it is shown. -/
structure HasPart (layout : Layout) (area : Rect) (part : Layout) (rect : Rect) : Prop where
  fits : part.fits rect = true
  room : rect.HasRoom
  rects : part.rects rect ⊆ layout.rects area
  dividers : part.dividers rect ⊆ layout.dividers area

theorem parts?_hasPart {left right : Layout} (room : area.HasRoom)
    (cut : parts? area kind weights = some (first, second, divider))
    (fits : left.fits first = true ∧ right.fits second = true) :
    (split kind weights left right).HasPart area left first ∧ (split kind weights left right).HasPart area right second := by
  obtain ⟨roomFirst, roomSecond⟩ := parts?_hasRoom room cut
  constructor
  · refine ⟨fits.1, roomFirst, ?_, ?_⟩ <;> simp only [rects, dividers, cut]
    · exact List.subset_append_left _ _
    · exact List.subset_cons_of_subset _ (List.subset_append_left _ _)
  · refine ⟨fits.2, roomSecond, ?_, ?_⟩ <;> simp only [rects, dividers, cut]
    · exact List.subset_append_right _ _
    · exact List.subset_cons_of_subset _ (List.subset_append_right _ _)

theorem HasPart.trans {middle part : Layout} {other : Rect} (outer : layout.HasPart area middle other)
    (inner : middle.HasPart other part rect) : layout.HasPart area part rect :=
  ⟨inner.fits, inner.room, List.Subset.trans inner.rects outer.rects,
    List.Subset.trans inner.dividers outer.dividers⟩

theorem exists_part_behind (room : area.HasRoom) (shown : layout.fits area = true) {pane : PaneId × Rect}
    (mem : pane ∈ layout.rects area) (side : Side) (inside : ¬ pane.2.Touches area side) :
    ∃ part rect, layout.HasPart area part rect ∧ pane.2.Borders rect side ∧
      rect.start side.kind.across ≤ pane.2.start side.kind.across ∧
      pane.2.stop side.kind.across ≤ rect.stop side.kind.across := by
  induction layout generalizing area with
  | leaf id =>
      obtain rfl := List.mem_singleton.1 mem
      refine absurd ?_ inside
      unfold Rect.Touches
      split <;> rfl
  | split own weights first second firstIH secondIH =>
      obtain ⟨a, b, divider, cut, inFirst, inSecond⟩ := fits_split.1 shown
      obtain ⟨partA, partB⟩ := parts?_hasPart room cut ⟨inFirst, inSecond⟩
      obtain ⟨edgeA, edgeB⟩ := parts?_edge cut side
      obtain ⟨⟨startA, stopA⟩, startB, stopB⟩ := parts?_across cut
      have rects : (split own weights first second).rects area = first.rects a ++ second.rects b := by
        simp only [Layout.rects, cut]
      rw [rects] at mem
      rcases List.mem_append.1 mem with mem | mem
      · by_cases touches : pane.2.Touches a side
        · rcases edgeA with edgeA | ⟨rfl, borders⟩
          · exact absurd (edgeA touches) inside
          · have within := first.rects_within a pane mem side.kind.across
            exact ⟨second, b, partB, borders.of_touches touches, by omega, by omega⟩
        · obtain ⟨part, rect, inPart, behind⟩ := firstIH partA.room inFirst mem touches
          exact ⟨part, rect, partA.trans inPart, behind⟩
      · by_cases touches : pane.2.Touches b side
        · rcases edgeB with edgeB | ⟨rfl, borders⟩
          · exact absurd (edgeB touches) inside
          · have within := second.rects_within b pane mem side.kind.across
            exact ⟨first, a, partA, borders.of_touches touches, by omega, by omega⟩
        · obtain ⟨part, rect, inPart, behind⟩ := secondIH partB.room inSecond mem touches
          exact ⟨part, rect, partB.trans inPart, behind⟩

theorem parts?_divider (room : area.HasRoom) (cut : parts? area kind weights = some (first, second, divider)) :
    divider.rect.Within area ∧ divider.rect.HasRoom := by
  obtain ⟨share, shared, parts⟩ := Option.map_eq_some_iff.1 cut
  obtain ⟨firstShare, secondShare, sum⟩ := shares?_sum shared
  obtain ⟨wide, high⟩ := room
  cases kind with
  | vertical =>
      cases parts
      refine ⟨fun other => ?_, Nat.le_refl 1, high⟩
      cases other <;> simp only [Rect.start, Rect.stop, Rect.extent, Divider.rect, if_true] at sum ⊢ <;> omega
  | horizontal =>
      cases parts
      refine ⟨fun other => ?_, wide, Nat.le_refl 1⟩
      cases other <;>
        simp only [Rect.start, Rect.stop, Rect.extent, Divider.rect, Bool.false_eq_true, if_false] at sum ⊢ <;> omega

theorem dividers_within (layout : Layout) (room : area.HasRoom) :
    ∀ divider ∈ layout.dividers area, divider.rect.Within area ∧ divider.rect.HasRoom := by
  induction layout generalizing area with
  | leaf id => nofun
  | split own weights first second firstIH secondIH =>
      intro divider mem
      unfold dividers at mem
      split at mem
      · rename_i a b between cut
        obtain ⟨roomA, roomB⟩ := parts?_hasRoom room cut
        obtain ⟨liesA, liesB, -⟩ := parts?_liesIn cut
        rcases List.mem_cons.1 mem with rfl | mem
        · exact parts?_divider room cut
        · rcases List.mem_append.1 mem with mem | mem
          · exact (firstIH roomA divider mem).imp_left (·.trans liesA.within)
          · exact (secondIH roomB divider mem).imp_left (·.trans liesB.within)
      · exact firstIH room divider mem

end Layout

end ModalPanes
