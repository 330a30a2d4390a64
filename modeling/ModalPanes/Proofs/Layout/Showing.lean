import ModalPanes.Proofs.Layout.Leaves
import ModalPanes.Proofs.Layout.Tiling
import Mathlib.Tactic.Ring

/-!
# Layouts that show all of their panes

A layout shows every pane if each of its splits has room for a divider.  In a larger area every split gets
larger parts, so a layout that fits an area fits all larger ones.  That is why splitting a pane and taking
one out keep all panes visible, whatever weights the splits have.
-/

namespace ModalPanes

namespace Layout

/-- Whether a split of a kind is in the tree. -/
def divides (kind : SplitKind) : Layout → Bool
  | leaf _ => false
  | split own _ first second => own == kind || first.divides kind || second.divides kind

/-- Whether a split of a kind is inside another one of the same kind. -/
def nests (kind : SplitKind) : Layout → Bool
  | leaf _ => false
  | split own _ first second =>
      own == kind && (first.divides kind || second.divides kind) ||
        first.nests kind || second.nests kind

/-- Every split of the tree has room for its parts and the divider between them. -/
def fits (area : Rect) : Layout → Bool
  | leaf _ => true
  | split kind weights first second =>
      match parts? area kind weights with
      | some (a, b, _) => first.fits a && second.fits b
      | none => false

variable {layout after : Layout} {area larger : Rect} {kind : SplitKind} {weights : Nat × Nat}
variable {target new : PaneId}

theorem fits_split {first second : Layout} :
    (split kind weights first second).fits area = true ↔
      ∃ a b divider, parts? area kind weights = some (a, b, divider) ∧
        first.fits a = true ∧ second.fits b = true := by
  cases cut : parts? area kind weights with
  | none => simp [fits, cut]
  | some parts =>
      obtain ⟨a, b, divider⟩ := parts
      simp [fits, cut]

theorem leaves_ne_nil (layout : Layout) : layout.leaves ≠ [] := by
  induction layout with
  | leaf id => exact List.cons_ne_nil _ _
  | split _ _ first second firstIH secondIH => exact List.append_ne_nil_of_left_ne_nil firstIH _

theorem fits_iff (layout : Layout) (area : Rect) :
    layout.fits area = true ↔ (layout.rects area).map Prod.fst = layout.leaves := by
  induction layout generalizing area with
  | leaf id => simp [fits, rects, leaves]
  | split kind weights first second firstIH secondIH =>
      cases cut : parts? area kind weights with
      | none =>
          have short := (first.rects_sublist area).length_le
          have behind := List.length_pos_iff.2 second.leaves_ne_nil
          simp only [fits, rects, leaves, cut, Bool.false_eq_true, false_iff]
          intro shown
          have lengths := congrArg List.length shown
          rw [List.length_append] at lengths
          omega
      | some parts =>
          obtain ⟨a, b, divider⟩ := parts
          simp only [fits, rects, leaves, cut, Bool.and_eq_true, firstIH, secondIH, List.map_append]
          constructor
          · rintro ⟨inFirst, inSecond⟩
            rw [inFirst, inSecond]
          · intro shown
            have short := (first.rects_sublist a).length_le
            have shortSecond := (second.rects_sublist b).length_le
            have lengths := congrArg List.length shown
            rw [List.length_append, List.length_append] at lengths
            exact List.append_inj shown (by omega)

section Larger

/-- A rounded share grows with the cells that are shared, and not faster than they do. -/
theorem rounded_mono (cells more weight : Nat) {sum : Nat} (le : weight ≤ sum) (pos : 0 < sum) :
    (2 * cells * weight + sum) / (2 * sum) ≤ (2 * (cells + more) * weight + sum) / (2 * sum) ∧
      (2 * (cells + more) * weight + sum) / (2 * sum) ≤
        (2 * cells * weight + sum) / (2 * sum) + more := by
  constructor
  · apply Nat.div_le_div_right
    apply Nat.add_le_add_right
    apply Nat.mul_le_mul_right
    omega
  · rw [← Nat.add_mul_div_left _ _ (Nat.mul_pos Nat.two_pos pos)]
    apply Nat.div_le_div_right
    have grows : more * weight ≤ more * sum := Nat.mul_le_mul_left more le
    calc
      2 * (cells + more) * weight + sum = 2 * cells * weight + sum + 2 * (more * weight) := by ring
      _ ≤ 2 * cells * weight + sum + 2 * (more * sum) := by omega
      _ = 2 * cells * weight + sum + 2 * sum * more := by ring

/-- With more cells both shares get larger. -/
theorem shares?_mono {total more : Nat} {share : Nat × Nat}
    (shared : shares? total weights = some share) (le : total ≤ more) :
    ∃ wide, shares? more weights = some wide ∧ share.1 ≤ wide.1 ∧ share.2 ≤ wide.2 := by
  unfold shares? at shared ⊢
  split at shared
  · contradiction
  · rename_i enough
    rw [if_neg (by omega)]
    obtain rfl := Option.some.inj shared
    refine ⟨_, rfl, ?_⟩
    obtain ⟨extra, rfl⟩ := Nat.exists_eq_add_of_le le
    have cells : total + extra - 1 = total - 1 + extra := by omega
    dsimp only
    rw [cells]
    by_cases none : weights.1 + weights.2 = 0
    · simp only [none, if_true]
      omega
    · simp only [none, if_false]
      obtain ⟨grows, bounded⟩ := rounded_mono (total - 1) extra weights.1
        (Nat.le_add_right weights.1 weights.2) (Nat.pos_of_ne_zero none)
      generalize (2 * (total - 1) * weights.1 + (weights.1 + weights.2)) /
        (2 * (weights.1 + weights.2)) = wanted at grows bounded ⊢
      generalize (2 * (total - 1 + extra) * weights.1 + (weights.1 + weights.2)) /
        (2 * (weights.1 + weights.2)) = wide at grows bounded ⊢
      omega

/-- A split shares the cells across it, and both parts have all cells along it. -/
theorem parts?_extent {a b : Rect} {divider : Divider}
    (cut : parts? area kind weights = some (a, b, divider)) :
    (∃ share, shares? (area.extent kind) weights = some share ∧
      a.extent kind = share.1 ∧ b.extent kind = share.2) ∧
      ∀ other, other ≠ kind →
        a.extent other = area.extent other ∧ b.extent other = area.extent other := by
  obtain ⟨share, shared, same⟩ := Option.map_eq_some_iff.1 cut
  cases kind with
  | vertical =>
      cases same
      refine ⟨⟨share, shared, rfl, rfl⟩, fun other different => ?_⟩
      cases other with
      | vertical => contradiction
      | horizontal => exact ⟨rfl, rfl⟩
  | horizontal =>
      cases same
      refine ⟨⟨share, shared, rfl, rfl⟩, fun other different => ?_⟩
      cases other with
      | vertical => exact ⟨rfl, rfl⟩
      | horizontal => contradiction

theorem parts?_of_shares? {share : Nat × Nat}
    (shared : shares? (area.extent kind) weights = some share) :
    ∃ a b divider, parts? area kind weights = some (a, b, divider) := by
  unfold parts?
  rw [shared]
  exact ⟨_, _, _, rfl⟩

/-- A layout that fits an area fits every area that is as large in the directions in which the layout is
split. -/
theorem fits_mono (inArea : layout.fits area = true)
    (holds : ∀ kind, layout.divides kind = true → area.extent kind ≤ larger.extent kind) :
    layout.fits larger = true := by
  induction layout generalizing area larger with
  | leaf id => rfl
  | split own weights first second firstIH secondIH =>
      obtain ⟨a, b, divider, cut, inFirst, inSecond⟩ := fits_split.1 inArea
      obtain ⟨⟨share, shared, extentA, extentB⟩, along⟩ := parts?_extent cut
      obtain ⟨wide, sharedWide, widerA, widerB⟩ :=
        shares?_mono shared (holds own (by simp [divides]))
      obtain ⟨wideA, wideB, other, cutWide⟩ := parts?_of_shares? sharedWide
      obtain ⟨⟨same, sharedSame, extentWideA, extentWideB⟩, alongWide⟩ := parts?_extent cutWide
      obtain rfl := Option.some.inj (sharedWide.symm.trans sharedSame)
      refine fits_split.2 ⟨wideA, wideB, other, cutWide, firstIH inFirst ?_, secondIH inSecond ?_⟩
      · intro kind inPart
        by_cases across : kind = own
        · subst across
          omega
        · have le := holds kind (by simp [divides, inPart])
          rw [(along kind across).1, (alongWide kind across).1]
          exact le
      · intro kind inPart
        by_cases across : kind = own
        · subst across
          omega
        · have le := holds kind (by simp [divides, inPart])
          rw [(along kind across).2, (alongWide kind across).2]
          exact le

/-- Neither part of an area is larger than the area. -/
theorem parts?_extent_le {a b : Rect} {divider : Divider}
    (cut : parts? area kind weights = some (a, b, divider)) (other : SplitKind) :
    a.extent other ≤ area.extent other ∧ b.extent other ≤ area.extent other := by
  obtain ⟨⟨share, shared, extentA, extentB⟩, along⟩ := parts?_extent cut
  have sum := (shares?_sum shared).2.2
  by_cases across : other = kind
  · subst across
    omega
  · have same := along other across
    omega

end Larger

theorem fits_splitPane? (inArea : layout.fits area = true)
    (room : ∀ rect, (target, rect) ∈ layout.rects area → 3 ≤ rect.extent kind)
    (splits : layout.splitPane? target new kind = some after) : after.fits area = true := by
  induction layout generalizing area after with
  | leaf id =>
      unfold splitPane? at splits
      split at splits
      · rename_i same
        obtain rfl := Option.some.inj splits
        have wide : 3 ≤ area.extent kind := room area (by simp [rects, same])
        unfold fits parts? shares?
        rw [if_neg (by omega)]
        rfl
      · contradiction
  | split own weights first second firstIH secondIH =>
      obtain ⟨a, b, divider, cut, inFirst, inSecond⟩ := fits_split.1 inArea
      have shown : (split own weights first second).rects area = first.rects a ++ second.rects b := by
        simp only [rects, cut]
      rw [shown] at room
      unfold splitPane? at splits
      split at splits
      · rename_i part inPart
        obtain rfl := Option.some.inj splits
        refine fits_split.2 ⟨a, b, divider, cut, firstIH inFirst ?_ inPart, inSecond⟩
        exact fun rect mem => room rect (List.mem_append_left _ mem)
      · obtain ⟨part, inPart, rfl⟩ := Option.map_eq_some_iff.1 splits
        refine fits_split.2 ⟨a, b, divider, cut, inFirst, secondIH inSecond ?_ inPart⟩
        exact fun rect mem => room rect (List.mem_append_right _ mem)

/-- A layout still fits once a pane is taken out: what was beside it gets a larger area. -/
theorem fits_remove? (inArea : layout.fits area = true) (removed : layout.remove? target = some after) :
    after.fits area = true := by
  induction layout generalizing area after with
  | leaf id => contradiction
  | split kind weights first second firstIH secondIH =>
      obtain ⟨a, b, divider, cut, inFirst, inSecond⟩ := fits_split.1 inArea
      have smaller := parts?_extent_le cut
      unfold remove? at removed
      split at removed
      · obtain rfl := Option.some.inj removed
        exact fits_mono inSecond fun other _ => (smaller other).2
      · split at removed
        · obtain rfl := Option.some.inj removed
          exact fits_mono inFirst fun other _ => (smaller other).1
        · split at removed
          · rename_i part inPart
            obtain rfl := Option.some.inj removed
            exact fits_split.2 ⟨a, b, divider, cut, firstIH inFirst inPart, inSecond⟩
          · obtain ⟨part, inPart, rfl⟩ := Option.map_eq_some_iff.1 removed
            exact fits_split.2 ⟨a, b, divider, cut, inFirst, secondIH inSecond inPart⟩

section Dividers

theorem shares?_reweigh {total : Nat} {share : Nat × Nat}
    (shared : shares? total weights = some share) (others : Nat × Nat) :
    ∃ other, shares? total others = some other := by
  unfold shares? at shared ⊢
  split at shared
  · contradiction
  · rename_i enough
    rw [if_neg enough]
    exact ⟨_, rfl⟩

/-- Parts that are not split across the divider between them fit wherever it is. -/
theorem fits_reweigh {first second : Layout}
    (inArea : (split kind weights first second).fits area = true)
    (plain : first.divides kind = false ∧ second.divides kind = false) (others : Nat × Nat) :
    (split kind others first second).fits area = true := by
  obtain ⟨a, b, divider, cut, inFirst, inSecond⟩ := fits_split.1 inArea
  obtain ⟨⟨share, shared, -⟩, along⟩ := parts?_extent cut
  obtain ⟨other, reweighed⟩ := shares?_reweigh shared others
  obtain ⟨a, b, divider, cutNew⟩ := parts?_of_shares? reweighed
  have alongNew := (parts?_extent cutNew).2
  refine fits_split.2 ⟨a, b, divider, cutNew, fits_mono inFirst ?_, fits_mono inSecond ?_⟩
  · intro other divided
    have across : other ≠ kind := by
      rintro rfl
      rw [plain.1] at divided
      contradiction
    rw [(along other across).1, (alongNew other across).1]
  · intro other divided
    have across : other ≠ kind := by
      rintro rfl
      rw [plain.2] at divided
      contradiction
    rw [(along other across).2, (alongNew other across).2]

/-- Where no split is inside another one of the same kind, every divider can be moved. -/
theorem fits_moveDivider? {side : Side} {amount : Nat} (inArea : layout.fits area = true)
    (plain : layout.nests side.kind = false)
    (moves : layout.moveDivider? target side amount area = some (some after)) :
    after.fits area = true := by
  induction layout generalizing area after with
  | leaf id => contradiction
  | split kind weights first second firstIH secondIH =>
      obtain ⟨a, b, divider, cut, inFirst, inSecond⟩ := fits_split.1 inArea
      simp only [nests, Bool.or_eq_false_iff] at plain
      obtain ⟨⟨flat, plainFirst⟩, plainSecond⟩ := plain
      unfold moveDivider? at moves
      rw [cut] at moves
      dsimp only at moves
      split at moves
      · rename_i inner event
        obtain rfl := Option.some.inj moves
        split at event
        · obtain ⟨inner, same, change⟩ := Option.map_eq_some_iff.1 event
          obtain ⟨part, rfl, rfl⟩ := Option.map_eq_some_iff.1 change
          exact fits_split.2 ⟨a, b, divider, cut, firstIH inFirst plainFirst same, inSecond⟩
        · obtain ⟨inner, same, change⟩ := Option.map_eq_some_iff.1 event
          obtain ⟨part, rfl, rfl⟩ := Option.map_eq_some_iff.1 change
          exact fits_split.2 ⟨a, b, divider, cut, inFirst, secondIH inSecond plainSecond same⟩
      · split at moves
        · rename_i across
          split at moves
          · simp at moves
          · simp only [Option.some.injEq] at moves
            subst moves
            refine fits_reweigh inArea ?_ _
            rw [across]
            simpa [across] using flat
        · contradiction

theorem fits_resize? {side : Side} {amount : Nat} (inArea : layout.fits area = true)
    (plain : layout.nests side.kind = false)
    (moved : layout.resize? target side amount area = some after) : after.fits area = true := by
  unfold resize? at moved
  split at moved
  · exact fits_moveDivider? inArea plain (Option.join_eq_some_iff.1 moved)
  · contradiction

end Dividers

end Layout

end ModalPanes
