import ModalPanes.Proofs.Pane.Sizing
import ModalPanes.Proofs.Session.Stepping

/-!
# The structure of a session

The tree of the layout, the panes, the focus and the sizes are kept by separate parts of a session, and
every command changes several of them.  They stay in step: the panes are those of the tree, the focus is on
open panes, and whatever is visible has the size of its rectangle.  Arranging the panes establishes the
sizes, so a command only has to keep the rest in order.
-/

namespace ModalPanes

namespace Session

/-- Sessions that keys and commands lead to. -/
inductive Operated (setup : Setup) (text : List Char) : Session → Prop where
  | start {session : Session} (started : start setup text = .ok session) :
      Operated setup text session
  | key {session : Session} (operated : Operated setup text session) (key : Key) :
      Operated setup text (session.handleKey key)
  | split {session : Session} (operated : Operated setup text session) (kind : SplitKind) :
      Operated setup text (session.split kind)
  | close {session : Session} (operated : Operated setup text session) (id : PaneId) :
      Operated setup text (session.closePane id)
  | zoom {session : Session} (operated : Operated setup text session) :
      Operated setup text session.toggleZoom

/-- The panes are those of the tree, and the focus is on them. -/
structure Ordered (session : Session) : Prop extends Whole session where
  active : session.isOpen session.active = true
  lastActive : ∀ id ∈ session.lastActive, session.isOpen id = true ∧ id ≠ session.active
  zoomed : session.zoomed = true → 2 ≤ session.layout.paneCount
  coherent : ∀ id, ∀ pane ∈ session.pane? id, pane.Coherent

/-- The visible panes of an ordered session have the sizes of their rectangles. -/
structure Fitted (session : Session) : Prop extends Ordered session where
  sized : ∀ shown ∈ session.paneRects, ∀ pane ∈ session.pane? shown.1,
    pane.size = (shown.2.w, shown.2.h)

variable {session : Session} {id : PaneId}

section Arrange

/-- A pane with the size of its rectangle, if it has one. -/
def fit (rects : List (PaneId × Rect)) (id : PaneId) (pane : Pane) : Pane :=
  match rects.lookup id with
  | some rect => pane.resize rect.w rect.h
  | none => pane

theorem fit_cons (entry : PaneId × Rect) (rects : List (PaneId × Rect)) (id : PaneId) (pane : Pane) :
    fit (entry :: rects) id pane =
      if id = entry.1 then pane.resize entry.2.w entry.2.h else fit rects id pane := by
  unfold fit
  rw [List.lookup_cons]
  by_cases same : id = entry.1
  · simp [same]
  · simp [same, beq_false_of_ne same]

theorem fit_of_not_mem {rects : List (PaneId × Rect)} (absent : id ∉ rects.map Prod.fst)
    (pane : Pane) : fit rects id pane = pane := by
  have none : rects.lookup id = none := by
    rw [List.lookup_eq_none_iff]
    intro entry mem
    apply bne_iff_ne.2
    rintro rfl
    exact absent (List.mem_map_of_mem mem)
  unfold fit
  rw [none]

theorem foldl_resize {rects : List (PaneId × Rect)} (distinct : (rects.map Prod.fst).Nodup)
    (session : Session) :
    rects.foldl (fun session entry => session.onPane entry.1 (·.resize entry.2.w entry.2.h))
        session =
      { session with panes := session.panes.map fun entry => (entry.1, fit rects entry.1 entry.2) } := by
  induction rects generalizing session with
  | nil => simp [fit]
  | cons head rects ih =>
      obtain ⟨absent, distinct⟩ := List.nodup_cons.1 distinct
      rw [List.foldl_cons, ih distinct]
      unfold onPane
      dsimp only
      rw [List.map_map]
      refine congrArg (fun panes => { session with panes := panes }) ?_
      refine List.map_congr_left fun entry mem => ?_
      rw [Function.comp_apply, fit_cons]
      by_cases same : entry.1 = head.1
      · simp only [same, if_true]
        rw [fit_of_not_mem absent]
      · simp only [same, if_false]

namespace Whole

variable (whole : session.Whole)
include whole

theorem nodup_paneRects : (session.paneRects.map Prod.fst).Nodup := by
  unfold paneRects
  split
  · exact List.nodup_singleton _
  · exact whole.distinct.sublist (session.layout.rects_sublist session.area)

/-- Arranging the panes gives the visible ones their sizes. -/
theorem arrange_eq :
    session.arrange =
      { session with
        panes := session.panes.map fun entry =>
          (entry.1, fit session.paneRects entry.1 entry.2) } :=
  foldl_resize whole.nodup_paneRects session

theorem pane?_arrange (id : PaneId) :
    session.arrange.pane? id = (session.pane? id).map (fit session.paneRects id) := by
  rw [whole.arrange_eq]
  exact lookup_map session.panes (fit session.paneRects) id

end Whole

theorem paneRects_arrange (session : Session) : session.arrange.paneRects = session.paneRects := by
  rw [arrange_keeps]
  rfl

theorem coherent_fit {pane : Pane} (coherent : pane.Coherent) (rects : List (PaneId × Rect))
    (id : PaneId) : (fit rects id pane).Coherent := by
  unfold fit
  split
  · exact coherent.resize _ _
  · exact coherent

/-- Arranging the panes of an ordered session gives all visible ones their sizes. -/
theorem Ordered.arrange (ordered : session.Ordered) : session.arrange.Fitted := by
  have whole := ordered.toWhole
  have arranges := arranges_arrange session
  have opened := arranges.isOpen
  have panes := whole.pane?_arrange
  have eq := whole.arrange_eq
  refine
    { whole.arranges arranges with
      active := ?_
      lastActive := ?_
      zoomed := ?_
      coherent := ?_
      sized := ?_ }
  · rw [opened, eq]
    exact ordered.active
  · intro id mem
    rw [opened]
    rw [eq] at mem ⊢
    exact ordered.lastActive id mem
  · rw [eq]
    exact ordered.zoomed
  · intro id pane mem
    rw [Option.mem_def, panes] at mem
    obtain ⟨before, present, rfl⟩ := Option.map_eq_some_iff.1 mem
    exact coherent_fit (ordered.coherent id before present) _ _
  · intro shown mem pane present
    rw [paneRects_arrange] at mem
    rw [Option.mem_def, panes] at present
    obtain ⟨before, -, rfl⟩ := Option.map_eq_some_iff.1 present
    have found := lookup_of_mem whole.nodup_paneRects (Prod.eta shown ▸ mem)
    unfold fit
    rw [found]
    exact Pane.size_resize before shown.2.w shown.2.h

end Arrange

section Commands

theorem Ordered.select (ordered : session.Ordered) (id : PaneId) : (session.select id).Ordered := by
  unfold Session.select
  split
  · rename_i chosen
    exact
      { ordered with
        active := chosen.2
        lastActive := by
          rintro _ ⟨⟩
          exact ⟨ordered.active, chosen.1.symm⟩ }
  · exact ordered

theorem Ordered.rezoom (ordered : session.Ordered) (zoomed : Bool)
    (several : zoomed = true → 2 ≤ session.layout.paneCount) :
    Ordered { session with zoomed := zoomed } :=
  { ordered with zoomed := several }

/-- Neither the panes nor their rectangles depend on what the last key was, on the question or notice,
or on the end of the session. -/
theorem Fitted.around (fitted : session.Fitted) (led exited : Bool) (overlay : Option Overlay) :
    Fitted { session with led := led, overlay := overlay, exited := exited } :=
  { fitted with }

theorem layout_unzoom (session : Session) : session.unzoom.layout = session.layout := by
  rw [unzoom_keeps]

theorem layout_toggleZoom (session : Session) : session.toggleZoom.layout = session.layout := by
  unfold toggleZoom
  split
  · rfl
  · rw [arrange_keeps]

namespace Fitted

variable (fitted : session.Fitted)
include fitted

theorem unzoom : session.unzoom.Fitted ∧ session.unzoom.zoomed = false := by
  unfold Session.unzoom
  split
  · have ordered := fitted.rezoom false (fun zoomed => nomatch zoomed)
    refine ⟨ordered.arrange, ?_⟩
    rw [ordered.toWhole.arrange_eq]
  · rename_i flat
    exact ⟨fitted, Bool.eq_false_iff.2 flat⟩

/-- The rectangles of a session that is not zoomed do not depend on the focus. -/
theorem select (flat : session.zoomed = false) (id : PaneId) : (session.select id).Fitted := by
  refine { fitted.toOrdered.select id with sized := ?_ }
  unfold Session.select
  split
  · intro shown mem
    have same : Session.paneRects
        { session with lastActive := some session.active, active := id } = session.paneRects := by
      unfold Session.paneRects
      simp only [flat, Bool.false_eq_true, if_false]
      rfl
    rw [same] at mem
    exact fitted.sized shown mem
  · exact fitted.sized

theorem unzoom_select (id : PaneId) : (session.unzoom.select id).Fitted :=
  fitted.unzoom.1.select fitted.unzoom.2 id

theorem toggleZoom : session.toggleZoom.Fitted := by
  unfold Session.toggleZoom
  split
  · exact fitted
  · rename_i several
    exact (fitted.rezoom (!session.zoomed) fun _ => Nat.le_of_not_lt several).arrange

theorem selectSide (side : Side) : (session.selectSide side).Fitted := by
  unfold Session.selectSide
  dsimp only
  split
  · exact fitted.unzoom_select _
  · exact fitted.unzoom.1

theorem resizePane (side : Side) (amount : Nat) : (session.resizePane side amount).Fitted := by
  unfold Session.resizePane
  dsimp only
  split
  · rename_i layout moved
    have leaves := Layout.resize?_leaves moved
    have base := fitted.unzoom.1
    refine Ordered.arrange
      { base with
        distinct := leaves ▸ base.distinct
        ids := leaves ▸ base.ids
        fresh := leaves ▸ base.fresh
        zoomed := fun zoomed => ?_ }
    rw [fitted.unzoom.2] at zoomed
    contradiction
  · exact fitted.unzoom.1

theorem selectLast : session.selectLast.Fitted := by
  unfold Session.selectLast
  split
  · exact fitted.unzoom_select _
  · exact fitted

theorem handleArrow (side : Side) (mods : Modifiers) : (session.handleArrow side mods).Fitted := by
  unfold Session.handleArrow
  split
  · exact fitted.resizePane side _
  · split
    · exact fitted.resizePane side _
    · split
      · exact fitted.selectSide side
      · exact fitted

end Fitted

theorem pane?_append_of_isOpen (panes : List (PaneId × Pane)) {pane : Pane}
    (mem : pane ∈ session.pane? id) : (session.panes ++ panes).lookup id = some pane := by
  rw [List.lookup_append, show session.panes.lookup id = some pane from mem]
  rfl

/-- The focus goes to the new pane, which has the next number. -/
theorem Fitted.split (fitted : session.Fitted) (kind : SplitKind) : (session.split kind).Fitted := by
  unfold Session.split
  obtain ⟨base, flat⟩ := fitted.unzoom
  generalize session.unzoom = session at base flat ⊢
  dsimp only
  split
  · exact base
  · rename_i rect shown
    split
    · exact base.around session.led session.exited _
    · obtain ⟨layout, same, leaves⟩ :=
        Layout.splitPane?_perm kind session.nextId (Layout.mem_leaves_of_rectOf? shown)
      have still : ∀ other, session.isOpen other = true →
          ((session.panes ++ [(session.nextId, Pane.showing {} session.options rect.w rect.h)]).lookup
            other).isSome = true := by
        intro other isOpen
        obtain ⟨pane, mem⟩ := Option.isSome_iff_exists.1 isOpen
        rw [pane?_append_of_isOpen _ mem]
        rfl
      rw [same]
      refine Ordered.arrange (Ordered.select ?_ _)
      exact
        { base.toWhole.opened _ leaves with
          active := still _ base.active
          lastActive := fun id mem =>
            ⟨still id (base.lastActive id mem).1, (base.lastActive id mem).2⟩
          zoomed := fun zoomed => by
            rw [show session.zoomed = true from zoomed] at flat
            contradiction
          coherent := by
            intro id pane mem
            rw [Option.mem_def, Session.pane?, List.lookup_append] at mem
            rcases Option.or_eq_some_iff.1 mem with mem | ⟨-, mem⟩
            · exact base.coherent id pane mem
            · rw [List.lookup_cons] at mem
              split at mem
              · obtain rfl := Option.some.inj mem
                exact (Pane.Reached.start _ _ _ _).invariant.1
              · contradiction }

end Commands

section Closing

variable {order : List PaneId} {closed : PaneId}

/-- A pane beside the closed one gets the focus if no open pane had it last. -/
theorem isOpen_heir (others : ∀ id ∈ order, id ≠ closed → session.isOpen id = true)
    (distinct : order.Nodup) (mem : closed ∈ order) (several : order.length ≠ 1) :
    session.isOpen (session.heir order closed) = true := by
  unfold heir
  cases last : session.lastActive.filter session.isOpen with
  | some id => exact (Option.filter_eq_some_iff.1 last).2
  | none =>
      obtain ⟨place, bound, rfl⟩ := List.getElem_of_mem mem
      have found : order.idxOf? order[place] = some place := by
        rw [List.idxOf?_eq_some_iff]
        refine ⟨bound, rfl, fun before lt => ?_⟩
        exact fun same => Nat.ne_of_lt lt (distinct.getElem_inj_iff.1 same)
      have beside : ∀ index, (inside : index < order.length) → index ≠ place →
          session.isOpen ((order[index]?).getD session.active) = true := by
        intro index inside other
        rw [List.getElem?_eq_getElem inside, Option.getD_some]
        refine others _ (List.getElem_mem inside) ?_
        exact fun same => other (distinct.getElem_inj_iff.1 same)
      rw [found]
      dsimp only [Option.getD_none, Option.getD_some]
      split
      · exact beside _ (by omega) (by omega)
      · exact beside 1 (by omega) (by omega)

/-- The session without a pane, while the focus is where it was. -/
def without (session : Session) (layout : Layout) (id : PaneId) : Session :=
  { session with
    layout := layout
    panes := session.panes.filter fun entry => entry.1 != id }

theorem isOpen_without (session : Session) (layout : Layout) (id other : PaneId) :
    (session.without layout id).isOpen other = true ↔ other ≠ id ∧ session.isOpen other = true := by
  unfold without Session.isOpen Session.pane?
  rw [lookup_filter]
  split
  · simp_all
  · simp_all

theorem coherent_without (coherent : ∀ other, ∀ pane ∈ session.pane? other, pane.Coherent)
    (layout : Layout) (id other : PaneId) :
    ∀ pane ∈ (session.without layout id).pane? other, pane.Coherent := by
  intro pane present
  unfold without pane? at present
  rw [Option.mem_def, lookup_filter] at present
  split at present
  · contradiction
  · exact coherent other pane present

/-- The focus leaves the closed pane, and no closed pane is the one that had it last. -/
theorem Fitted.ordered_without (fitted : session.Fitted) (flat : session.zoomed = false)
    (mem : id ∈ session.layout.leaves) (several : session.layout.leaves.length ≠ 1) {layout : Layout}
    (whole : (session.without layout id).Whole) :
    Ordered
      (if (session.without layout id).active = id then
        { session.without layout id with
          active := (session.without layout id).heir session.layout.leaves id
          lastActive := none }
      else if (session.without layout id).lastActive = some id then
        { session.without layout id with lastActive := none }
      else session.without layout id) := by
  have still := session.isOpen_without layout id
  have coherent := coherent_without fitted.coherent layout id
  have zoomed : (session.without layout id).zoomed = true → 2 ≤ layout.paneCount := by
    simp [without, flat]
  split
  · have others : ∀ other ∈ session.layout.leaves, other ≠ id →
        (session.without layout id).isOpen other = true := by
      intro other inTree different
      refine (still other).2 ⟨different, ?_⟩
      exact (isOpen_iff session other).2 (fitted.ids.mem_iff.2 inTree)
    exact
      { whole with
        active := isOpen_heir others fitted.distinct mem several
        lastActive := nofun
        zoomed := zoomed
        coherent := coherent }
  · rename_i otherActive
    have active := (still session.active).2 ⟨otherActive, fitted.active⟩
    split
    · exact
        { whole with
          active := active
          lastActive := nofun
          zoomed := zoomed
          coherent := coherent }
    · rename_i otherLast
      refine
        { whole with
          active := active
          lastActive := fun last isLast => ?_
          zoomed := zoomed
          coherent := coherent }
      obtain ⟨opened, different⟩ := fitted.lastActive last isLast
      exact ⟨(still last).2 ⟨fun same => otherLast (same ▸ isLast), opened⟩, different⟩

theorem Fitted.closePane (fitted : session.Fitted) (id : PaneId) : (session.closePane id).Fitted := by
  unfold Session.closePane
  split
  · exact fitted
  · rename_i isOpen
    have mem : id ∈ session.unzoom.layout.leaves := by
      rw [layout_unzoom]
      exact fitted.toWhole.mem_leaves (by simpa using isOpen)
    obtain ⟨base, flat⟩ := fitted.unzoom
    generalize session.unzoom = session at base flat mem ⊢
    dsimp only
    split
    · exact base.around session.led true session.overlay
    · rename_i several
      have notLeaf : session.layout ≠ .leaf id := by
        intro leaf
        rw [leaf] at several
        exact several rfl
      obtain ⟨layout, removed, leaves⟩ := Layout.remove?_leaves base.distinct mem notLeaf
      rw [removed]
      exact (base.ordered_without flat mem several (base.toWhole.removed id leaves)).arrange

theorem Fitted.killActive (fitted : session.Fitted) : session.killActive.Fitted := by
  unfold Session.killActive
  dsimp only
  split
  · exact fitted.unzoom.1.around _ _ _
  · exact fitted.unzoom.1.closePane _

end Closing

section Keys

theorem Fitted.onPane (fitted : session.Fitted) (id : PaneId) {change : Pane → Pane}
    (keeps : ∀ {pane : Pane}, pane.Coherent → (change pane).Coherent ∧ (change pane).size = pane.size) :
    (session.onPane id change).Fitted := by
  have changed := session.pane?_onPane change id
  refine
    { fitted.toWhole.onPane id change with
      active := (session.isOpen_onPane change id _).trans fitted.active
      lastActive := fun last isLast =>
        ⟨(session.isOpen_onPane change id _).trans (fitted.lastActive last isLast).1,
          (fitted.lastActive last isLast).2⟩
      zoomed := fitted.zoomed
      coherent := fun other pane present => ?_
      sized := fun shown mem pane present => ?_ }
  · rw [Option.mem_def, changed] at present
    split at present
    · obtain ⟨before, opened, rfl⟩ := Option.map_eq_some_iff.1 present
      exact (keeps (fitted.coherent other before opened)).1
    · exact fitted.coherent other pane present
  · rw [Option.mem_def, changed] at present
    split at present
    · obtain ⟨before, opened, rfl⟩ := Option.map_eq_some_iff.1 present
      rw [(keeps (fitted.coherent shown.1 before opened)).2]
      exact fitted.sized shown mem before opened
    · exact fitted.sized shown mem pane present

theorem Fitted.handlePane (fitted : session.Fitted) (key : Key) :
    (session.onPane session.active (·.handleKey key)).Fitted :=
  fitted.onPane _ fun coherent => coherent.handleKey key

theorem Fitted.handleLed (fitted : session.Fitted) (key : Key) : (session.handleLed key).Fitted := by
  unfold Session.handleLed
  split
  · exact fitted.handlePane key
  · split
    · exact fitted.handleArrow _ _
    · split
      · exact fitted.split _
      · exact fitted.split _
      · exact fitted.killActive
      · exact fitted.toggleZoom
      · exact fitted.unzoom_select _
      · exact fitted.selectLast
      · exact fitted

theorem Fitted.handlePaneKey (fitted : session.Fitted) (key : Key) :
    (session.handlePaneKey key).Fitted := by
  have handled := fitted.handlePane key
  unfold Session.handlePaneKey
  dsimp only
  split
  · have served : ∀ {pane : Pane}, pane.Coherent →
        pane.served.Coherent ∧ pane.served.size = pane.size := fun {pane} coherent =>
      ⟨coherent.around pane.history pane.buffer.modified pane.recorder pane.width pane.height
        pane.view false, rfl⟩
    exact (handled.onPane _ served).closePane _
  · exact handled

theorem Fitted.handleKey (fitted : session.Fitted) (key : Key) : (session.handleKey key).Fitted := by
  unfold Session.handleKey
  split
  · exact fitted
  · have cleared := fitted.around session.led session.exited none
    split
    · dsimp only
      split
      · exact cleared.closePane _
      · exact cleared
    · dsimp only
      split
      · exact (fitted.around false session.exited none).handleLed key
      · split
        · exact fitted.around true session.exited none
        · exact cleared.handlePaneKey key

end Keys

theorem fitted_start {setup : Setup} {text : List Char} (started : start setup text = .ok session) :
    session.Fitted := by
  unfold start at started
  split at started
  · contradiction
  · obtain rfl := Except.ok.inj started
    have fresh : ∀ {pane : Pane}, Option.some pane = some (.showing
        { Buffer.ofText text with name := setup.filename } setup.options setup.cols setup.rows) →
          pane.Coherent ∧ pane.size = (setup.cols, setup.rows) := by
      rintro _ ⟨⟩
      exact ⟨(Pane.Reached.start _ _ _ _).invariant.1, rfl⟩
    exact
      { distinct := List.nodup_singleton 0
        ids := .refl _
        fresh := by simp [Layout.leaves]
        active := rfl
        lastActive := nofun
        zoomed := nofun
        coherent := by
          intro id pane present
          rw [Option.mem_def, Session.pane?, List.lookup_cons] at present
          split at present
          · exact (fresh present.symm).1
          · contradiction
        sized := by
          intro shown mem pane present
          obtain rfl := List.mem_singleton.1 mem
          exact (fresh present.symm).2 }

theorem Fitted.isOpen_of_shown (fitted : session.Fitted) {shown : PaneId × Rect}
    (mem : shown ∈ session.paneRects) : session.isOpen shown.1 = true := by
  unfold paneRects at mem
  split at mem
  · obtain rfl := List.mem_singleton.1 mem
    exact fitted.active
  · exact (isOpen_iff session shown.1).2 (fitted.ids.mem_iff.2 (Layout.mem_leaves_of_rects mem))

theorem Fitted.size_shown (fitted : session.Fitted) {shown : PaneId × Rect}
    (mem : shown ∈ session.paneRects) :
    (session.pane? shown.1).map Pane.size = some (shown.2.w, shown.2.h) := by
  obtain ⟨pane, present⟩ := Option.isSome_iff_exists.1 (fitted.isOpen_of_shown mem)
  rw [present, Option.map_some, fitted.sized shown mem pane present]

theorem paneRects_toggleZoom_twice (session : Session) :
    session.toggleZoom.toggleZoom.paneRects = session.paneRects := by
  by_cases few : session.layout.paneCount < 2
  · have same : session.toggleZoom = session := if_pos few
    rw [same, same]
  · have zooms : ∀ {other : Session}, ¬ other.layout.paneCount < 2 →
        other.toggleZoom = Session.arrange { other with zoomed := !other.zoomed } :=
      fun several => if_neg several
    have still : ¬ session.toggleZoom.layout.paneCount < 2 := by
      rw [layout_toggleZoom]
      exact few
    rw [zooms still, paneRects_arrange, zooms few, arrange_keeps]
    unfold paneRects
    rw [Bool.not_not]
    rfl

theorem Operated.fitted {setup : Setup} {text : List Char} (operated : Operated setup text session) :
    session.Fitted := by
  induction operated with
  | start started => exact fitted_start started
  | key operated key ih => exact ih.handleKey key
  | split operated kind ih => exact ih.split kind
  | close operated id ih => exact ih.closePane id
  | zoom operated ih => exact ih.toggleZoom

/-- The parts of a session that have to be in step with each other. -/
structure InStep (session : Session) : Prop where
  /-- The leaves of the layout are distinct, and the panes are those of the leaves. -/
  distinct : session.layout.leaves.Nodup
  panes : (session.panes.map Prod.fst).Perm session.layout.leaves
  fresh : ∀ entry ∈ session.panes, entry.1 < session.nextId
  /-- The focus is on an open pane, and so it was before, on another one. -/
  active : session.pane? session.active = some session.activePane
  lastActive : ∀ id ∈ session.lastActive, session.isOpen id = true ∧ id ≠ session.active
  zoomed : session.zoomed = true → 2 ≤ session.panes.length
  /-- The visible panes are open and have the size of their rectangles. -/
  sized : ∀ shown ∈ session.paneRects,
    ∃ pane, session.pane? shown.1 = some pane ∧ pane.size = (shown.2.w, shown.2.h)
  /-- Neither zooming nor the end of a zoom changes the layout. -/
  layout_toggleZoom : session.toggleZoom.layout = session.layout
  layout_unzoom : session.unzoom.layout = session.layout
  /-- Zooming twice shows the same panes with the same sizes. -/
  rects_twice : session.toggleZoom.toggleZoom.paneRects = session.paneRects
  sizes_twice : ∀ shown ∈ session.paneRects,
    (session.toggleZoom.toggleZoom.pane? shown.1).map Pane.size =
      (session.pane? shown.1).map Pane.size

/-- After any keys, splits, closings and zooms the parts of a session are in step. -/
theorem Operated.inStep {setup : Setup} {text : List Char} (operated : Operated setup text session) :
    session.InStep := by
  have fitted := operated.fitted
  have whole := fitted.toWhole
  have rects := paneRects_toggleZoom_twice session
  exact
    { distinct := whole.distinct
      panes := whole.ids
      fresh := fun entry mem => whole.fresh _ (whole.ids.mem_iff.1 (List.mem_map_of_mem mem))
      active := by
        obtain ⟨pane, present⟩ := Option.isSome_iff_exists.1 fitted.active
        unfold activePane
        rw [present]
        rfl
      lastActive := fitted.lastActive
      zoomed := by
        rw [← List.length_map Prod.fst, whole.ids.length_eq, Layout.length_leaves]
        exact fitted.zoomed
      sized := fun shown mem => Option.map_eq_some_iff.1 (fitted.size_shown mem)
      layout_toggleZoom := layout_toggleZoom session
      layout_unzoom := layout_unzoom session
      rects_twice := rects
      sizes_twice := fun shown mem => by
        rw [fitted.size_shown mem, fitted.toggleZoom.toggleZoom.size_shown (rects ▸ mem)] }

/-- Two splits, a pane closed, and a zoom. -/
theorem inStep_zoomed :
    ∃ session, Operated {} "ab\ncd".toList session ∧ session.lastActive = some 1 ∧
      session.zoomed = true ∧ session.InStep := by
  have fresh : Operated {} "ab\ncd".toList _ := .start rfl
  have operated := ((((fresh.split .vertical).split .horizontal).close 0).key (.ctrl 'b')).zoom
  exact ⟨_, operated, by decide +kernel, by decide +kernel, operated.inStep⟩

end Session

end ModalPanes
