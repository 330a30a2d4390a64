import ModalPanes.Proofs.Session.Arranging

/-!
# What a key does to a session

A key either goes to the active pane, which may ask to be closed, or it is one for the session: it arranges
the panes anew, opens a pane or closes one.  A pane is closed by the answer to the question about it, if its
text counts as unchanged, or at its own request.  The panes of a session are those of its layout throughout.
-/

namespace ModalPanes

/-- A pane whose request to be closed is served. -/
def Pane.served (pane : Pane) : Pane := { pane with closing := false }

namespace Session

/-- The panes of a session are those of its layout, none of them comes twice, and their numbers have been
given out. -/
structure Whole (session : Session) : Prop where
  distinct : session.layout.leaves.Nodup
  ids : (session.panes.map Prod.fst).Perm session.layout.leaves
  fresh : ∀ id ∈ session.layout.leaves, id < session.nextId

/-- A pane is put beside the active one. -/
inductive Opens (session : Session) (pane : Pane) (next : Session) : Prop where
  | opens {base : Session} {layout : Layout} (arranges : session.Arranges base)
      (leaves : layout.leaves.Perm (base.nextId :: base.layout.leaves))
      (rest : Arranges
        { base with
          nextId := base.nextId + 1
          layout := layout
          panes := base.panes ++ [(base.nextId, pane)] } next)

/-- What closing a pane comes to. -/
inductive Closes (session : Session) (id : PaneId) (next : Session) : Prop where
  | ignored (absent : session.isOpen id = false) (arranges : session.Arranges next)
  | exits {base : Session} (isOpen : session.isOpen id = true) (arranges : session.Arranges base)
      (only : base.layout.leaves = [id]) (same : next = { base with exited := true })
  | removes {base : Session} {layout : Layout} (isOpen : session.isOpen id = true)
      (arranges : session.Arranges base)
      (leaves : layout.leaves = base.layout.leaves.filter (· != id))
      (rest : Arranges
        { base with
          layout := layout
          panes := base.panes.filter fun entry => entry.1 != id } next)

variable {session base next : Session} {id : PaneId} {key : Key}

theorem isOpen_iff (session : Session) (id : PaneId) :
    session.isOpen id = true ↔ id ∈ session.panes.map Prod.fst := by
  unfold isOpen Session.pane?
  rw [List.lookup_isSome_iff, List.mem_map]
  constructor
  · rintro ⟨entry, mem, same⟩
    exact ⟨entry, mem, (beq_iff_eq.1 same).symm⟩
  · rintro ⟨entry, mem, rfl⟩
    exact ⟨entry, mem, beq_self_eq_true _⟩

theorem Closes.after (arranges : session.Arranges base) (closes : base.Closes id next) :
    session.Closes id next := by
  cases closes with
  | ignored absent arranged =>
      exact .ignored ((arranges.isOpen id).symm.trans absent) (arranges.trans arranged)
  | exits isOpen arranged only same =>
      exact .exits ((arranges.isOpen id).symm.trans isOpen) (arranges.trans arranged) only same
  | removes isOpen arranged leaves rest =>
      exact .removes ((arranges.isOpen id).symm.trans isOpen) (arranges.trans arranged) leaves rest

namespace Whole

variable (whole : session.Whole)
include whole

theorem mem_leaves (isOpen : session.isOpen id = true) : id ∈ session.layout.leaves :=
  whole.ids.mem_iff.1 ((isOpen_iff session id).1 isOpen)

theorem arranges (arranges : session.Arranges next) : next.Whole where
  distinct := arranges.leaves ▸ whole.distinct
  ids := by
    rw [arranges.ids, arranges.leaves]
    exact whole.ids
  fresh := by
    rw [arranges.leaves, arranges.nextId]
    exact whole.fresh

theorem opened {layout : Layout} (pane : Pane)
    (leaves : layout.leaves.Perm (session.nextId :: session.layout.leaves)) :
    Whole
      { session with
        nextId := session.nextId + 1
        layout := layout
        panes := session.panes ++ [(session.nextId, pane)] } where
  distinct := by
    refine leaves.nodup_iff.2 (List.nodup_cons.2 ⟨fun mem => ?_, whole.distinct⟩)
    exact Nat.lt_irrefl _ (whole.fresh _ mem)
  ids := by
    rw [List.map_append]
    exact (List.perm_append_singleton _ _).trans ((whole.ids.cons _).trans leaves.symm)
  fresh := by
    intro id mem
    rcases List.mem_cons.1 (leaves.mem_iff.1 mem) with rfl | mem
    · exact Nat.lt_succ_self _
    · exact Nat.lt_succ_of_lt (whole.fresh id mem)

theorem removed {layout : Layout} (id : PaneId)
    (leaves : layout.leaves = session.layout.leaves.filter (· != id)) :
    Whole
      { session with
        layout := layout
        panes := session.panes.filter fun entry => entry.1 != id } where
  distinct := leaves ▸ whole.distinct.filter _
  ids := by
    rw [leaves]
    have filtered := whole.ids.filter (· != id)
    rwa [List.filter_map] at filtered
  fresh := by
    rw [leaves]
    exact fun other mem => whole.fresh other (List.mem_of_mem_filter mem)

theorem closePane (id : PaneId) : session.Closes id (session.closePane id) := by
  unfold Session.closePane
  split
  · rename_i absent
    exact .ignored (by simpa using absent) (.refl session)
  · rename_i isOpen
    have isOpen : session.isOpen id = true := by simpa using isOpen
    have arranges := arranges_unzoom session
    have mem : id ∈ session.unzoom.layout.leaves := arranges.leaves ▸ whole.mem_leaves isOpen
    dsimp only
    split
    · rename_i one
      obtain ⟨only, eq⟩ := List.length_eq_one_iff.1 one
      rw [eq] at mem
      obtain rfl := List.mem_singleton.1 mem
      exact .exits isOpen arranges eq rfl
    · rename_i several
      have notLeaf : session.unzoom.layout ≠ .leaf id := by
        intro leaf
        rw [leaf] at several
        exact several rfl
      obtain ⟨layout, removed, leaves⟩ :=
        Layout.remove?_leaves (whole.arranges arranges).distinct mem notLeaf
      rw [removed]
      refine .removes isOpen arranges leaves (.arrange ?_)
      split
      · exact .of_eq rfl rfl rfl rfl rfl
      · split
        · exact .of_eq rfl rfl rfl rfl rfl
        · exact .of_eq rfl rfl rfl rfl rfl

end Whole

/-- Splitting the active pane opens one, or there is no room for it. -/
theorem split_cases (session : Session) (kind : SplitKind) :
    session.Arranges (session.split kind) ∨
      ∃ options width height,
        session.Opens (.showing {} options width height) (session.split kind) := by
  unfold split
  dsimp only
  split
  · exact .inl (arranges_unzoom session)
  · rename_i rect shown
    split
    · exact .inl ((arranges_unzoom session).trans (.of_eq rfl rfl rfl rfl rfl))
    · obtain ⟨layout, same, leaves⟩ :=
        Layout.splitPane?_perm kind session.unzoom.nextId (Layout.mem_leaves_of_rectOf? shown)
      rw [same]
      exact .inr ⟨session.unzoom.options, rect.w, rect.h,
        .opens (arranges_unzoom session) leaves (.arrange (arranges_select _ _))⟩

theorem Arranges.led (session : Session) (led : Bool) (overlay : Option Overlay) :
    session.Arranges { session with led := led, overlay := overlay } :=
  .of_eq rfl rfl rfl rfl rfl

section OnPane

variable (session : Session) (change : Pane → Pane)

theorem pane?_onPane (id other : PaneId) :
    (session.onPane id change).pane? other =
      if other = id then (session.pane? other).map change else session.pane? other := by
  have mapped : (session.onPane id change).panes =
      session.panes.map fun entry =>
        (entry.1, if entry.1 = id then change entry.2 else entry.2) := by
    unfold onPane
    dsimp only
    refine List.map_congr_left fun entry mem => ?_
    split <;> rfl
  unfold Session.pane?
  rw [mapped, lookup_map session.panes fun number pane => if number = id then change pane else pane]
  split
  · rfl
  · rw [Option.map_id']

theorem isOpen_onPane (id other : PaneId) :
    (session.onPane id change).isOpen other = session.isOpen other := by
  unfold isOpen
  rw [pane?_onPane]
  split
  · exact Option.isSome_map
  · rfl

theorem ids_onPane (id : PaneId) :
    (session.onPane id change).panes.map Prod.fst = session.panes.map Prod.fst := by
  unfold onPane
  dsimp only
  rw [List.map_map]
  refine List.map_congr_left fun entry mem => ?_
  rw [Function.comp_apply]
  split <;> rfl

theorem onPane_onPane (id : PaneId) (further : Pane → Pane) :
    (session.onPane id change).onPane id further =
      session.onPane id fun pane => further (change pane) := by
  unfold onPane
  dsimp only
  rw [List.map_map]
  refine congrArg (fun panes => { session with panes := panes }) ?_
  refine List.map_congr_left fun entry mem => ?_
  rw [Function.comp_apply]
  split <;> simp_all

theorem closing_onPane :
    (session.onPane session.active change).activePane.closing = true ↔
      ∃ pane ∈ session.pane? session.active, (change pane).closing = true := by
  unfold Session.activePane
  change (((session.onPane session.active change).pane? session.active).getD _).closing = true ↔ _
  rw [pane?_onPane, if_pos rfl]
  cases session.pane? session.active with
  | none => simp [Pane.showing]
  | some pane => simp

end OnPane

theorem Whole.onPane (whole : session.Whole) (id : PaneId) (change : Pane → Pane) :
    (session.onPane id change).Whole where
  distinct := whole.distinct
  ids := by
    rw [ids_onPane]
    exact whole.ids
  fresh := whole.fresh

/-- The pane that gets a key: the active one, unless the key is for the session. -/
def receiver? (session : Session) (key : Key) : Option PaneId :=
  if session.exited then none
  else
    match session.overlay with
    | some (.confirmKill _) => none
    | _ => if session.led = (key == session.leader) then some session.active else none

inductive Does (session : Session) (key : Key) (next : Session) : Prop where
  | arranges (idle : session.receiver? key = none) (arranges : session.Arranges next)
  | opens (idle : session.receiver? key = none) {options : Options} {width height : Nat}
      (opens : session.Opens (.showing {} options width height) next)
  | closes (idle : session.receiver? key = none) {id : PaneId}
      (cause : (session.overlay = some (.confirmKill id) ∧ key.typed? = some 'y') ∨
        ∀ pane ∈ session.pane? id, pane.isDirty = false)
      (closes : session.Closes id next)
  | hands (receives : session.receiver? key = some session.active)
      (calm : key = session.leader ∨
        ∀ pane ∈ session.pane? session.active, (pane.handleKey key).closing = false)
      (arranges : (session.onPane session.active (·.handleKey key)).Arranges next)
  | serves (receives : session.receiver? key = some session.active)
      (asked : ∃ pane ∈ session.pane? session.active, (pane.handleKey key).closing = true)
      (closes : (session.onPane session.active fun pane => (pane.handleKey key).served).Closes
        session.active next)

namespace Whole

variable (whole : session.Whole)
include whole

/-- Closing the active pane asks first if its text counts as changed. -/
theorem killActive (arranged : session.Arranges base) (idle : session.receiver? key = none) :
    session.Does key base.killActive := by
  have arranges := arranged.trans (arranges_unzoom base)
  unfold Session.killActive
  dsimp only
  split
  · exact .arranges idle (arranges.trans (.of_eq rfl rfl rfl rfl rfl))
  · rename_i clean
    refine .closes idle (.inr fun pane mem => ?_)
      (((whole.arranges arranges).closePane base.unzoom.active).after arranges)
    obtain ⟨sized, resized, same⟩ := arranges.pane? base.unzoom.active
    obtain ⟨width, height, view, eq⟩ := resized pane
    rw [Option.mem_def.1 mem, Option.map_some, eq] at same
    unfold Session.activePane at clean
    rw [same] at clean
    exact Bool.eq_false_iff.2 clean

theorem handleLed (receiver : session.receiver? key =
      if key = session.leader then some session.active else none) :
    session.Does key ({ session with led := false, overlay := none }.handleLed key) := by
  have arranged := Arranges.led session false none
  unfold Session.handleLed
  split at receiver
  · rename_i leads
    rw [if_pos leads]
    exact .hands receiver (.inl leads) (.of_eq rfl rfl rfl rfl rfl)
  · rename_i other
    rw [if_neg other]
    split
    · exact .arranges receiver (arranged.trans (arranges_handleArrow _ _ _))
    · have splits : ∀ kind, session.Does key
          ({ session with led := false, overlay := none }.split kind) := by
        intro kind
        rcases split_cases { session with led := false, overlay := none } kind with
          arranges | ⟨options, width, height, opens⟩
        · exact .arranges receiver (arranged.trans arranges)
        · obtain ⟨arranges, leaves, rest⟩ := opens
          exact .opens receiver (.opens (arranged.trans arranges) leaves rest)
      split
      · exact splits _
      · exact splits _
      · exact whole.killActive arranged receiver
      · exact .arranges receiver (arranged.trans (arranges_toggleZoom _))
      · exact .arranges receiver (arranged.trans (arranges_selectNext _))
      · exact .arranges receiver (arranged.trans (arranges_selectLast _))
      · exact .arranges receiver arranged

/-- A key for the active pane, which may ask to be closed. -/
theorem handlePaneKey (key : Key) :
    (∀ pane ∈ session.pane? session.active, (pane.handleKey key).closing = false) ∧
        session.handlePaneKey key = session.onPane session.active (·.handleKey key) ∨
      (∃ pane ∈ session.pane? session.active, (pane.handleKey key).closing = true) ∧
        (session.onPane session.active fun pane => (pane.handleKey key).served).Closes
          session.active (session.handlePaneKey key) := by
  have asks := session.closing_onPane (·.handleKey key)
  have serves : session.handlePaneKey key =
      if (session.onPane session.active (·.handleKey key)).activePane.closing then
        (session.onPane session.active fun pane => (pane.handleKey key).served).closePane
          session.active
      else session.onPane session.active (·.handleKey key) := by
    rw [← session.onPane_onPane (·.handleKey key) session.active Pane.served]
    rfl
  rw [serves]
  split
  · rename_i closing
    exact .inr ⟨asks.1 closing, (whole.onPane session.active _).closePane _⟩
  · rename_i calm
    refine .inl ⟨fun pane mem => ?_, rfl⟩
    exact Bool.eq_false_iff.2 fun closing => calm (asks.2 ⟨pane, mem, closing⟩)

/-- Every key does one of these. -/
theorem handleKey (key : Key) : session.Does key (session.handleKey key) := by
  unfold Session.handleKey
  split
  · rename_i exited
    exact .arranges (by simp [receiver?, exited]) (.refl session)
  · rename_i running
    split
    · rename_i id asked
      have idle : session.receiver? key = none := by simp [receiver?, asked]
      dsimp only
      split
      · rename_i answer
        have arranges := Arranges.led session session.led none
        exact .closes idle (.inl ⟨asked, answer⟩)
          (((whole.arranges arranges).closePane id).after arranges)
      · exact .arranges idle (.of_eq rfl rfl rfl rfl rfl)
    · rename_i notAsked
      have receiver : session.receiver? key =
          if session.led = (key == session.leader) then some session.active else none := by
        unfold receiver?
        rw [if_neg running]
        split
        · rename_i id asked
          exact absurd asked (notAsked id)
        · rfl
      dsimp only
      split
      · rename_i led
        exact whole.handleLed (by rw [receiver, led]; simp)
      · rename_i notLed
        split
        · rename_i leads
          have idle : session.receiver? key = none := by
            rw [receiver, if_neg]
            simp [notLed, leads]
          exact .arranges idle (.of_eq rfl rfl rfl rfl rfl)
        · rename_i ordinary
          have receives : session.receiver? key = some session.active := by
            simp [receiver, notLed, ordinary]
          have base : Whole { session with overlay := none } := { whole with }
          rcases base.handlePaneKey key with ⟨calm, same⟩ | ⟨asked, closes⟩
          · refine .hands receives (.inr calm) ?_
            rw [same]
            exact .of_eq rfl rfl rfl rfl rfl
          · have arranges : Arranges
                (session.onPane session.active fun pane => (pane.handleKey key).served)
                ({ session with overlay := none }.onPane session.active
                  fun pane => (pane.handleKey key).served) :=
              .of_eq rfl rfl rfl rfl rfl
            exact .serves receives asked (closes.after arranges)

end Whole

end Session

end ModalPanes
