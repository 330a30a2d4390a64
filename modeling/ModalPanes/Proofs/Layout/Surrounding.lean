import ModalPanes.Proofs.Layout.Leaves

/-!
# What is around a pane

A pane of a layout lies inside of splits whose other parts are closed.  Splitting the pane and taking it out are
changes at this one place: the splits around it keep their kinds, their weights and their other parts, but for the
innermost one, which gives way to its other part when the pane is taken out.  So taking out a pane that was just split
off brings the layout back.
-/

namespace ModalPanes

namespace Layout

/-- A split with one of its parts left open. -/
inductive Frame where
  | firstOpen (kind : SplitKind) (weights : Nat × Nat) (second : Layout)
  | secondOpen (kind : SplitKind) (weights : Nat × Nat) (first : Layout)

namespace Frame

def fill (inner : Layout) : Frame → Layout
  | firstOpen kind weights second => split kind weights inner second
  | secondOpen kind weights first => split kind weights first inner

/-- The part that is not open. -/
def closed : Frame → Layout
  | firstOpen _ _ second => second
  | secondOpen _ _ first => first

/-- The panes in front of the open part and behind it. -/
def front : Frame → List PaneId
  | firstOpen _ _ _ => []
  | secondOpen _ _ first => first.leaves

def rest : Frame → List PaneId
  | firstOpen _ _ second => second.leaves
  | secondOpen _ _ _ => []

theorem leaves_fill (frame : Frame) (inner : Layout) :
    (frame.fill inner).leaves = frame.front ++ inner.leaves ++ frame.rest := by
  cases frame <;> simp [fill, front, rest, leaves]

theorem leaves_closed (frame : Frame) : frame.closed.leaves = frame.front ++ frame.rest := by
  cases frame <;> simp [closed, front, rest]

end Frame

/-- A layout inside of splits, the outermost one first. -/
def surround : List Frame → Layout → Layout
  | [], inner => inner
  | frame :: frames, inner => frame.fill (surround frames inner)

variable {layout inner : Layout} {target : PaneId} {kind : SplitKind} {frames : List Frame} {frame : Frame}

theorem surround_concat (frames : List Frame) (frame : Frame) (inner : Layout) :
    surround (frames ++ [frame]) inner = surround frames (frame.fill inner) := by
  induction frames with
  | nil => rfl
  | cons outer frames ih => exact congrArg outer.fill ih

/-- Every pane of a layout has splits around it, or none. -/
theorem exists_surround (mem : target ∈ layout.leaves) : ∃ frames, layout = surround frames (leaf target) := by
  induction layout with
  | leaf id =>
      obtain rfl := List.mem_singleton.1 mem
      exact ⟨[], rfl⟩
  | split kind weights first second firstIH secondIH =>
      rcases List.mem_append.1 mem with here | there
      · obtain ⟨frames, rfl⟩ := firstIH here
        exact ⟨.firstOpen kind weights second :: frames, rfl⟩
      · obtain ⟨frames, rfl⟩ := secondIH there
        exact ⟨.secondOpen kind weights first :: frames, rfl⟩

/-- What is in an open place is in the layout. -/
theorem mem_leaves_surround (frames : List Frame) (mem : target ∈ inner.leaves) :
    target ∈ (surround frames inner).leaves := by
  induction frames with
  | nil => exact mem
  | cons outer frames ih =>
      rw [surround, Frame.leaves_fill]
      exact List.mem_append_left _ (List.mem_append_right _ ih)

/-- The pane in an open place is in no closed part of the splits around it. -/
theorem not_mem_closed (distinct : (surround frames (leaf target)).leaves.Nodup) :
    ∀ frame ∈ frames, target ∉ frame.closed.leaves := by
  induction frames with
  | nil => nofun
  | cons outer frames ih =>
      rw [surround, Frame.leaves_fill] at distinct
      have here : target ∈ (surround frames (leaf target)).leaves :=
        mem_leaves_surround frames (List.mem_singleton.2 rfl)
      obtain ⟨within, -, behind⟩ := List.nodup_append.1 distinct
      obtain ⟨-, inside, ahead⟩ := List.nodup_append.1 within
      refine List.forall_mem_cons.2 ⟨?_, ih inside⟩
      rw [Frame.leaves_closed, List.mem_append, not_or]
      constructor
      · exact fun inFront => ahead target inFront target here rfl
      · exact fun inRest => behind target (List.mem_append_right _ here) target inRest rfl

theorem splitPane?_surround (kind : SplitKind) (new : PaneId)
    (absent : ∀ frame ∈ frames, target ∉ frame.closed.leaves) :
    (surround frames (leaf target)).splitPane? target new kind =
      some (surround frames (split kind (1, 1) (leaf target) (leaf new))) := by
  induction frames with
  | nil => exact if_pos rfl
  | cons outer frames ih =>
      obtain ⟨notHere, others⟩ := List.forall_mem_cons.1 absent
      cases outer with
      | firstOpen own weights second => simp only [surround, Frame.fill, splitPane?, ih others]
      | secondOpen own weights first =>
          have notHere : target ∉ first.leaves := notHere
          simp only [surround, Frame.fill, splitPane?, splitPane?_of_not_mem kind notHere, ih others, Option.map_some]

/-- Taking a pane out puts the other part of its split in the place of both. -/
theorem remove?_surround (absent : ∀ outer ∈ frames ++ [frame], target ∉ outer.closed.leaves) :
    (surround (frames ++ [frame]) (leaf target)).remove? target = some (surround frames frame.closed) := by
  have isOther : ∀ {part : Layout}, target ∉ part.leaves → part ≠ leaf target := by
    rintro part notHere rfl
    exact notHere (List.mem_singleton.2 rfl)
  induction frames with
  | nil =>
      have notHere := absent frame (List.mem_singleton.2 rfl)
      cases frame with
      | firstOpen own weights second => exact if_pos rfl
      | secondOpen own weights first =>
          have notHere : target ∉ first.leaves := notHere
          simp [surround, Frame.fill, Frame.closed, remove?, isOther notHere]
  | cons outer frames ih =>
      obtain ⟨notHere, others⟩ := List.forall_mem_cons.1 absent
      have inner := ih others
      have isSplit : surround (frames ++ [frame]) (leaf target) ≠ leaf target := by
        intro same
        rw [same] at inner
        cases inner
      cases outer with
      | firstOpen own weights second =>
          have notHere : target ∉ second.leaves := notHere
          simp only [List.cons_append, surround, Frame.fill, remove?, isSplit, isOther notHere, if_false, inner]
      | secondOpen own weights first =>
          have notHere : target ∉ first.leaves := notHere
          simp only [List.cons_append, surround, Frame.fill, remove?, isSplit, isOther notHere, if_false, inner,
            remove?_of_not_mem notHere, Option.map_some]

/-- Where there are several panes, each is one of the parts of a split. -/
theorem exists_parent (mem : target ∈ layout.leaves) (several : 2 ≤ layout.leaves.length) :
    ∃ frames frame, layout = surround (frames ++ [frame]) (leaf target) := by
  obtain ⟨frames, rfl⟩ := exists_surround mem
  rcases List.eq_nil_or_concat frames with rfl | ⟨outer, frame, rfl⟩
  · simp [surround, leaves] at several
  · exact ⟨outer, frame, by rw [List.concat_eq_append]⟩

/-- Splitting a pane puts the new one right behind it, and taking the new one out again brings back the layout as it was.
Taking a pane out of several leaves the others in their order, and it changes no other split than the one that the pane
was a part of: the other part takes the place of both. -/
theorem closing_undoes_splitting (layout : Layout) (target : PaneId) (distinct : layout.leaves.Nodup)
    (mem : target ∈ layout.leaves) :
    (∀ new kind, new ∉ layout.leaves →
      ∃ after front rest, layout.splitPane? target new kind = some after ∧
        layout.leaves = front ++ target :: rest ∧ after.leaves = front ++ target :: new :: rest ∧
        after.remove? new = some layout) ∧
      (2 ≤ layout.leaves.length →
        ∃ frames parent, layout = surround (frames ++ [parent]) (leaf target) ∧
          layout.remove? target = some (surround frames parent.closed) ∧
          (surround frames parent.closed).leaves = layout.leaves.filter (· != target)) := by
  constructor
  · intro new kind fresh
    obtain ⟨after, front, rest, splits, before, behind⟩ := splitPane?_leaves kind new mem
    refine ⟨after, front, rest, splits, before, behind, ?_⟩
    obtain ⟨frames, rfl⟩ := exists_surround mem
    rw [splitPane?_surround kind new (not_mem_closed distinct)] at splits
    cases splits
    have made : surround frames (split kind (1, 1) (leaf target) (leaf new)) =
        surround (frames ++ [.secondOpen kind (1, 1) (leaf target)]) (leaf new) := by
      rw [surround_concat]
      rfl
    have distinctAfter : (surround frames (split kind (1, 1) (leaf target) (leaf new))).leaves.Nodup := by
      have moved : (front ++ [target] ++ new :: rest).Perm (new :: (front ++ [target] ++ rest)) := List.perm_middle
      rw [behind, List.append_cons front target (new :: rest), moved.nodup_iff, List.nodup_cons, ← List.append_cons,
        ← before]
      exact ⟨fresh, distinct⟩
    rw [made] at distinctAfter ⊢
    exact remove?_surround (not_mem_closed distinctAfter)
  · intro several
    obtain ⟨frames, parent, same⟩ := exists_parent mem several
    have removed : layout.remove? target = some (surround frames parent.closed) := by
      rw [same] at distinct ⊢
      exact remove?_surround (not_mem_closed distinct)
    have isSplit : layout ≠ leaf target := by
      rintro rfl
      simp [leaves] at several
    obtain ⟨after, again, others⟩ := remove?_leaves distinct mem isSplit
    obtain rfl := Option.some.inj (removed.symm.trans again)
    exact ⟨frames, parent, same, removed, others⟩

/-- A pane of a nested split with weights that differ is split the other way, and closed. -/
theorem closing_undoes_splitting_uneven :
    let layout := split .vertical (3, 1) (leaf 0) (split .horizontal (2, 5) (leaf 1) (leaf 2))
    layout.leaves.Nodup ∧ 1 ∈ layout.leaves ∧ 4 ∉ layout.leaves ∧ 2 ≤ layout.leaves.length ∧
      (∃ after, layout.splitPane? 1 4 .vertical = some after ∧ after.remove? 4 = some layout) ∧
      ∃ after, layout.remove? 1 = some after ∧ after.leaves = layout.leaves.filter (· != 1) := by
  intro layout
  obtain ⟨splits, removes⟩ := closing_undoes_splitting layout 1 (by decide) (by decide)
  obtain ⟨after, -, -, split, -, -, back⟩ := splits 4 .vertical (by decide)
  obtain ⟨_, _, -, removed, others⟩ := removes (by decide)
  exact ⟨by decide, by decide, by decide, by decide, ⟨after, split, back⟩, _, removed, others⟩

end Layout

end ModalPanes
