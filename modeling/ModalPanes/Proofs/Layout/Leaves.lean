import ModalPanes.Layout
import Mathlib.Data.List.Nodup

/-!
# What becomes of the panes of a layout

Splitting a pane puts the new one right behind it, taking a pane out leaves the others in their order, and
moving a divider changes no pane.
-/

namespace ModalPanes

/-- Where numbers are not given out twice, each leads to what it was given to. -/
theorem lookup_of_mem {α : Type} {entries : List (PaneId × α)}
    (distinct : (entries.map Prod.fst).Nodup) {id : PaneId} {value : α}
    (mem : (id, value) ∈ entries) : entries.lookup id = some value := by
  induction entries with
  | nil => contradiction
  | cons entry entries ih =>
      obtain ⟨absent, distinct⟩ := List.nodup_cons.1 distinct
      rcases List.mem_cons.1 mem with rfl | mem
      · exact List.lookup_cons_self
      · have other : id ≠ entry.1 := by
          rintro rfl
          exact absent (List.mem_map.2 ⟨_, mem, rfl⟩)
        rw [List.lookup_cons, beq_false_of_ne other]
        exact ih distinct mem

namespace Layout

variable {layout : Layout} {target new : PaneId}

theorem mem_leaves_of_rects {area : Rect} {shown : PaneId × Rect}
    (mem : shown ∈ layout.rects area) : shown.1 ∈ layout.leaves := by
  induction layout generalizing area with
  | leaf id =>
      obtain rfl := List.mem_singleton.1 mem
      exact List.mem_singleton.2 rfl
  | split kind weights first second firstIH secondIH =>
      unfold rects at mem
      split at mem
      · rcases List.mem_append.1 mem with mem | mem
        · exact List.mem_append_left _ (firstIH mem)
        · exact List.mem_append_right _ (secondIH mem)
      · exact List.mem_append_left _ (firstIH mem)

/-- The visible panes, in the order of the tree. -/
theorem rects_sublist (layout : Layout) (area : Rect) :
    ((layout.rects area).map Prod.fst).Sublist layout.leaves := by
  induction layout generalizing area with
  | leaf id => exact .refl _
  | split kind weights first second firstIH secondIH =>
      unfold rects leaves
      split
      · rename_i a b divider cut
        rw [List.map_append]
        exact (firstIH a).append (secondIH b)
      · exact (firstIH area).trans (List.sublist_append_left _ _)

theorem mem_leaves_of_rectOf? {area rect : Rect} (shown : layout.rectOf? target area = some rect) :
    target ∈ layout.leaves := by
  obtain ⟨front, rest, eq, -⟩ := List.lookup_eq_some_iff.1 shown
  have mem : (target, rect) ∈ layout.rects area := by
    rw [eq]
    exact List.mem_append_right _ List.mem_cons_self
  exact mem_leaves_of_rects mem

theorem splitPane?_of_not_mem (kind : SplitKind) (absent : target ∉ layout.leaves) :
    layout.splitPane? target new kind = none := by
  induction layout with
  | leaf id => exact if_neg fun eq => absent (List.mem_singleton.2 eq.symm)
  | split own weights first second firstIH secondIH =>
      simp only [leaves, List.mem_append, not_or] at absent
      unfold splitPane?
      rw [firstIH absent.1, secondIH absent.2]
      rfl

theorem splitPane?_leaves (kind : SplitKind) (new : PaneId) (mem : target ∈ layout.leaves) :
    ∃ after front rest, layout.splitPane? target new kind = some after ∧
      layout.leaves = front ++ target :: rest ∧ after.leaves = front ++ target :: new :: rest := by
  induction layout with
  | leaf id =>
      obtain rfl := List.mem_singleton.1 mem
      exact ⟨_, [], [], if_pos rfl, rfl, rfl⟩
  | split own weights first second firstIH secondIH =>
      unfold splitPane?
      cases inFirst : first.splitPane? target new kind with
      | some after =>
          by_cases here : target ∈ first.leaves
          · obtain ⟨other, front, rest, same, before, leaves⟩ := firstIH here
            obtain rfl := Option.some.inj (inFirst.symm.trans same)
            exact ⟨_, front, rest ++ second.leaves, rfl, by simp [Layout.leaves, before],
              by simp [Layout.leaves, leaves]⟩
          · rw [splitPane?_of_not_mem kind here] at inFirst
            contradiction
      | none =>
          have there : target ∈ second.leaves := by
            refine (List.mem_append.1 mem).resolve_left fun here => ?_
            obtain ⟨after, -, -, same, -⟩ := firstIH here
            rw [inFirst] at same
            contradiction
          obtain ⟨after, front, rest, same, before, leaves⟩ := secondIH there
          rw [same]
          exact ⟨_, first.leaves ++ front, rest, rfl, by simp [Layout.leaves, before],
            by simp [Layout.leaves, leaves]⟩

theorem splitPane?_perm (kind : SplitKind) (new : PaneId) (mem : target ∈ layout.leaves) :
    ∃ after, layout.splitPane? target new kind = some after ∧
      after.leaves.Perm (new :: layout.leaves) := by
  obtain ⟨after, front, rest, same, before, leaves⟩ := splitPane?_leaves kind new mem
  refine ⟨after, same, ?_⟩
  have middle : (front ++ [target] ++ new :: rest).Perm (new :: (front ++ [target] ++ rest)) :=
    List.perm_middle
  rw [before, leaves]
  simpa only [List.append_assoc, List.singleton_append] using middle

theorem remove?_of_not_mem (absent : target ∉ layout.leaves) : layout.remove? target = none := by
  induction layout with
  | leaf id => rfl
  | split kind weights first second firstIH secondIH =>
      simp only [leaves, List.mem_append, not_or] at absent
      have notFirst : first ≠ leaf target := fun eq => absent.1 (by simp [eq, leaves])
      have notSecond : second ≠ leaf target := fun eq => absent.2 (by simp [eq, leaves])
      unfold remove?
      simp only [notFirst, notSecond, if_false, firstIH absent.1, secondIH absent.2,
        Option.map_none]

/-- Taking a pane out of a tree of several leaves the others in their order. -/
theorem remove?_leaves (distinct : layout.leaves.Nodup) (mem : target ∈ layout.leaves)
    (several : layout ≠ leaf target) :
    ∃ after, layout.remove? target = some after ∧
      after.leaves = layout.leaves.filter (· != target) := by
  induction layout with
  | leaf id =>
      obtain rfl := List.mem_singleton.1 mem
      contradiction
  | split kind weights first second firstIH secondIH =>
      obtain ⟨firstDistinct, secondDistinct, apart⟩ := List.nodup_append.1 distinct
      have others : ∀ {part : Layout}, target ∉ part.leaves →
          part.leaves.filter (· != target) = part.leaves := fun absent =>
        List.filter_eq_self.2 fun id inPart => bne_iff_ne.2 fun eq => absent (eq ▸ inPart)
      unfold remove?
      by_cases isFirst : first = leaf target
      · have absent : target ∉ second.leaves := fun mem =>
          apart target (by simp [isFirst, leaves]) target mem rfl
        refine ⟨second, if_pos isFirst, ?_⟩
        simp [leaves, isFirst, others absent]
      · rw [if_neg isFirst]
        by_cases isSecond : second = leaf target
        · have absent : target ∉ first.leaves := fun mem =>
            apart target mem target (by simp [isSecond, leaves]) rfl
          refine ⟨first, if_pos isSecond, ?_⟩
          simp [leaves, isSecond, others absent]
        · rw [if_neg isSecond]
          by_cases here : target ∈ first.leaves
          · obtain ⟨after, same, leavesAfter⟩ := firstIH firstDistinct here isFirst
            have absent : target ∉ second.leaves := fun mem => apart target here target mem rfl
            refine ⟨split kind weights after second, by rw [same], ?_⟩
            simp [leaves, leavesAfter, others absent]
          · have there := (List.mem_append.1 mem).resolve_left here
            obtain ⟨after, same, leavesAfter⟩ := secondIH secondDistinct there isSecond
            refine ⟨split kind weights first after, by rw [remove?_of_not_mem here, same]; rfl, ?_⟩
            simp [leaves, leavesAfter, others here]

theorem moveDivider?_leaves {side : Side} {amount : Nat} {area : Rect} {after : Layout}
    (moved : layout.moveDivider? target side amount area = some (some after)) :
    after.leaves = layout.leaves := by
  induction layout generalizing area after with
  | leaf id => contradiction
  | split kind weights first second firstIH secondIH =>
      unfold moveDivider? at moved
      split at moved
      · contradiction
      · rename_i a b divider cut
        dsimp only at moved
        split at moved
        · rename_i inner event
          obtain rfl := Option.some.inj moved
          split at event
          · obtain ⟨inner, same, change⟩ := Option.map_eq_some_iff.1 event
            obtain ⟨part, rfl, rfl⟩ := Option.map_eq_some_iff.1 change
            simp [leaves, firstIH same]
          · obtain ⟨inner, same, change⟩ := Option.map_eq_some_iff.1 event
            obtain ⟨part, rfl, rfl⟩ := Option.map_eq_some_iff.1 change
            simp [leaves, secondIH same]
        · split at moved
          · split at moved
            · simp at moved
            · simp only [Option.some.injEq] at moved
              subst moved
              rfl
          · contradiction

theorem resize?_leaves {side : Side} {amount : Nat} {area : Rect} {after : Layout}
    (moved : layout.resize? target side amount area = some after) :
    after.leaves = layout.leaves := by
  unfold resize? at moved
  split at moved
  · exact moveDivider?_leaves (Option.join_eq_some_iff.1 moved)
  · contradiction

end Layout

end ModalPanes
