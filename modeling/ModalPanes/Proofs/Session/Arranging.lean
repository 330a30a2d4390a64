import ModalPanes.Proofs.Layout.Leaves
import ModalPanes.Session.Commands

/-!
# Sessions arranged anew

Most of what the commands of a session do is to arrange its panes anew: sizes, focus and zoom change, and
every pane stays as it is but for its size.  What is left are splitting and closing, and the keys that the
active pane gets.
-/

namespace ModalPanes

/-- One pane is another one at some size. -/
def Pane.Resized (pane next : Pane) : Prop :=
  ∃ width height view, next = { pane with width := width, height := height, view := view }

namespace Pane.Resized

variable {pane middle next : Pane}

theorem refl (pane : Pane) : pane.Resized pane := ⟨_, _, _, rfl⟩

theorem trans (first : pane.Resized middle) (second : middle.Resized next) : pane.Resized next := by
  obtain ⟨_, _, _, rfl⟩ := first
  obtain ⟨width, height, view, rfl⟩ := second
  exact ⟨width, height, view, rfl⟩

theorem resize (pane : Pane) (width height : Nat) : pane.Resized (pane.resize width height) := by
  unfold Pane.resize
  split
  · exact refl pane
  · exact ⟨width, height, _, rfl⟩

end Pane.Resized

namespace Session

/-- The panes of a session stay as they are but for their sizes; focus, zoom and questions may change. -/
structure Arranges (session next : Session) : Prop where
  panes : ∃ sized : PaneId → Pane → Pane,
      (∀ (id : PaneId) (pane : Pane), pane.Resized (sized id pane)) ∧
    next.panes = session.panes.map fun entry => (entry.1, sized entry.1 entry.2)
  leaves : next.layout.leaves = session.layout.leaves
  nextId : next.nextId = session.nextId
  leader : next.leader = session.leader
  exited : next.exited = session.exited

variable {session middle next : Session}

theorem Arranges.of_eq (panes : next.panes = session.panes)
    (leaves : next.layout.leaves = session.layout.leaves) (nextId : next.nextId = session.nextId)
    (leader : next.leader = session.leader) (exited : next.exited = session.exited) :
    session.Arranges next :=
  ⟨⟨fun _ pane => pane, fun _ pane => .refl pane, by simp [panes]⟩, leaves, nextId, leader, exited⟩

theorem Arranges.refl (session : Session) : session.Arranges session := .of_eq rfl rfl rfl rfl rfl

theorem Arranges.trans (first : session.Arranges middle) (second : middle.Arranges next) :
    session.Arranges next := by
  obtain ⟨sized, resized, panes⟩ := first.panes
  obtain ⟨sizedOn, resizedOn, panesOn⟩ := second.panes
  exact
    { panes :=
        ⟨fun id pane => sizedOn id (sized id pane),
          fun id pane => (resized id pane).trans (resizedOn id _),
          by rw [panesOn, panes, List.map_map]; rfl⟩
      leaves := second.leaves.trans first.leaves
      nextId := second.nextId.trans first.nextId
      leader := second.leader.trans first.leader
      exited := second.exited.trans first.exited }

theorem lookup_map {α : Type} (entries : List (PaneId × α)) (change : PaneId → α → α) (id : PaneId) :
    (entries.map fun entry => (entry.1, change entry.1 entry.2)).lookup id =
      (entries.lookup id).map (change id) := by
  induction entries with
  | nil => rfl
  | cons entry entries ih =>
      rw [List.map_cons, List.lookup_cons, List.lookup_cons, ih]
      cases same : id == entry.1 with
      | true =>
          obtain rfl := beq_iff_eq.1 same
          rfl
      | false => rfl

theorem lookup_filter {α : Type} (entries : List (PaneId × α)) (id other : PaneId) :
    (entries.filter fun entry => entry.1 != id).lookup other =
      if other = id then none else entries.lookup other := by
  split
  · rename_i same
    refine List.lookup_eq_none_iff.2 fun entry mem => ?_
    have kept : entry.1 ≠ id := bne_iff_ne.1 (List.mem_filter.1 mem).2
    exact bne_iff_ne.2 (same ▸ kept.symm)
  · rename_i different
    induction entries with
    | nil => rfl
    | cons entry entries ih =>
        rw [List.filter_cons, List.lookup_cons]
        split
        · rw [List.lookup_cons, ih]
        · rename_i dropped
          have same : entry.1 = id := by simpa using dropped
          rw [ih, show (other == entry.1) = false by simpa [same] using different]

/-- An open pane is open with some size afterwards. -/
theorem Arranges.pane? (arranges : session.Arranges next) (id : PaneId) :
    ∃ sized : Pane → Pane, (∀ pane : Pane, pane.Resized (sized pane)) ∧
      next.pane? id = (session.pane? id).map sized := by
  obtain ⟨sized, resized, panes⟩ := arranges.panes
  refine ⟨sized id, resized id, ?_⟩
  unfold Session.pane?
  rw [panes, lookup_map]

theorem Arranges.isOpen (arranges : session.Arranges next) (id : PaneId) :
    next.isOpen id = session.isOpen id := by
  obtain ⟨sized, -, same⟩ := arranges.pane? id
  unfold Session.isOpen
  rw [same, Option.isSome_map]

theorem Arranges.ids (arranges : session.Arranges next) :
    next.panes.map Prod.fst = session.panes.map Prod.fst := by
  obtain ⟨sized, -, panes⟩ := arranges.panes
  rw [panes, List.map_map]
  rfl

theorem onPane_resize (session : Session) (id : PaneId) (width height : Nat) :
    session.Arranges (session.onPane id (·.resize width height)) := by
  refine ⟨⟨fun other pane => if other = id then pane.resize width height else pane,
    fun other pane => ?_, ?_⟩, rfl, rfl, rfl, rfl⟩
  · dsimp only
    split
    · exact .resize pane width height
    · exact .refl pane
  · unfold onPane
    dsimp only
    refine List.map_congr_left fun entry mem => ?_
    split <;> rfl

theorem arranges_arrange (session : Session) : session.Arranges session.arrange := by
  unfold arrange
  generalize session.paneRects = rects
  induction rects generalizing session with
  | nil => exact .refl session
  | cons entry rects ih =>
      rw [List.foldl_cons]
      exact (session.onPane_resize entry.1 entry.2.w entry.2.h).trans (ih _)

/-- Arranging changes nothing but the panes. -/
theorem arrange_keeps (session : Session) :
    session.arrange = { session with panes := session.arrange.panes } := by
  unfold arrange
  generalize session.paneRects = rects
  induction rects generalizing session with
  | nil => rfl
  | cons entry rects ih =>
      rw [List.foldl_cons, ih]
      rfl

theorem unzoom_keeps (session : Session) :
    session.unzoom = { session with zoomed := false, panes := session.unzoom.panes } := by
  unfold unzoom
  split
  · rw [arrange_keeps]
  · rename_i flat
    rw [← Bool.eq_false_iff.2 flat]

theorem Arranges.arrange (arranges : session.Arranges next) : session.Arranges next.arrange :=
  arranges.trans (arranges_arrange next)

theorem arranges_unzoom (session : Session) : session.Arranges session.unzoom := by
  unfold unzoom
  split
  · exact .arrange (.of_eq rfl rfl rfl rfl rfl)
  · exact .refl session

theorem arranges_select (session : Session) (id : PaneId) : session.Arranges (session.select id) := by
  unfold select
  split
  · exact .of_eq rfl rfl rfl rfl rfl
  · exact .refl session

theorem arranges_toggleZoom (session : Session) : session.Arranges session.toggleZoom := by
  unfold toggleZoom
  split
  · exact .refl session
  · exact .arrange (.of_eq rfl rfl rfl rfl rfl)

theorem arranges_selectSide (session : Session) (side : Side) :
    session.Arranges (session.selectSide side) := by
  unfold selectSide
  dsimp only
  split
  · exact (arranges_unzoom session).trans (arranges_select _ _)
  · exact arranges_unzoom session

theorem arranges_resizePane (session : Session) (side : Side) (amount : Nat) :
    session.Arranges (session.resizePane side amount) := by
  unfold resizePane
  dsimp only
  split
  · rename_i layout moved
    exact (arranges_unzoom session).trans
      (.arrange (.of_eq rfl (Layout.resize?_leaves moved) rfl rfl rfl))
  · exact arranges_unzoom session

theorem arranges_selectNext (session : Session) : session.Arranges session.selectNext :=
  (arranges_unzoom session).trans (arranges_select _ _)

theorem arranges_selectLast (session : Session) : session.Arranges session.selectLast := by
  unfold selectLast
  split
  · exact (arranges_unzoom session).trans (arranges_select _ _)
  · exact .refl session

theorem arranges_handleArrow (session : Session) (side : Side) (mods : Modifiers) :
    session.Arranges (session.handleArrow side mods) := by
  unfold handleArrow
  split
  · exact arranges_resizePane session side _
  · split
    · exact arranges_resizePane session side _
    · split
      · exact arranges_selectSide session side
      · exact .refl session

end Session

end ModalPanes
