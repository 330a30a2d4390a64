import ModalPanes.Proofs.Session.Structure

/-!
# Panes without the focus

A key concerns the active pane alone: that pane gets it, is split, closed or zoomed, or has a divider moved.
Every other pane stays open, and nothing of it changes but its size and its view, since the layout may give
it another rectangle.  Closing a pane that was asked about keeps to this, because a question that is still
open is about the active pane.
-/

namespace ModalPanes

namespace Session

/-- Every open pane but one stays open, with nothing changed but its size and its view, and the session goes
on. -/
def Spares (session : Session) (id : PaneId) (next : Session) : Prop :=
  ∀ other ≠ id, ∀ pane ∈ session.pane? other,
    next.exited = session.exited ∧ ∃ sized ∈ next.pane? other, pane.Resized sized

/-- The question whether to close a pane is about the active one. -/
def AsksOfActive (session : Session) : Prop :=
  ∀ id, session.overlay = some (.confirmKill id) → id = session.active

variable {session middle next : Session} {id : PaneId} {key : Key}

theorem Spares.trans (first : session.Spares id middle) (second : middle.Spares id next) :
    session.Spares id next := by
  intro other different pane opened
  obtain ⟨same, sized, present, resized⟩ := first other different pane opened
  obtain ⟨sameOn, sizedOn, presentOn, resizedOn⟩ := second other different sized present
  exact ⟨sameOn.trans same, sizedOn, presentOn, resized.trans resizedOn⟩

theorem Arranges.spares (arranges : session.Arranges next) (id : PaneId) : session.Spares id next := by
  intro other _ pane opened
  obtain ⟨sized, resized, same⟩ := arranges.pane? other
  rw [Option.mem_def.1 opened] at same
  exact ⟨arranges.exited, sized pane, same, resized pane⟩

theorem spares_onPane (session : Session) (id : PaneId) (change : Pane → Pane) :
    session.Spares id (session.onPane id change) := by
  intro other different pane opened
  refine ⟨rfl, pane, ?_, .refl pane⟩
  rw [Option.mem_def, pane?_onPane, if_neg different]
  exact opened

theorem Opens.spares {fresh : Pane} (opens : session.Opens fresh next) (id : PaneId) :
    session.Spares id next := by
  obtain @⟨base, layout, arranges, -, rest⟩ := opens
  refine (arranges.spares id).trans (Spares.trans (fun other _ pane opened => ?_) (rest.spares id))
  refine ⟨rfl, pane, ?_, .refl pane⟩
  show (base.panes ++ [(base.nextId, fresh)]).lookup other = some pane
  rw [List.lookup_append, show base.panes.lookup other = some pane from opened]
  rfl

/-- Closing a pane leaves the others, of which there are none where the session ends. -/
theorem Closes.spares (whole : session.Whole) (closes : session.Closes id next) :
    session.Spares id next := by
  cases closes with
  | ignored absent arranges => exact arranges.spares id
  | @exits base isOpen arranges only same =>
      intro other different pane opened
      have mem : other ∈ session.layout.leaves :=
        whole.mem_leaves (by rw [Session.isOpen, Option.mem_def.1 opened]; rfl)
      rw [← arranges.leaves, only] at mem
      exact absurd (List.mem_singleton.1 mem) different
  | @removes base layout isOpen arranges leaves rest =>
      refine (arranges.spares id).trans
        (Spares.trans (fun other different pane opened => ?_) (rest.spares id))
      refine ⟨rfl, pane, ?_, .refl pane⟩
      show (base.panes.filter fun entry => entry.1 != id).lookup other = some pane
      rw [lookup_filter, if_neg different]
      exact opened

theorem active_unzoom (session : Session) : session.unzoom.active = session.active := by
  rw [unzoom_keeps]

namespace Whole

variable (whole : session.Whole)
include whole

theorem spares_killActive : session.Spares session.active session.killActive := by
  have flat := arranges_unzoom session
  unfold Session.killActive
  dsimp only
  split
  · exact (flat.trans (.of_eq rfl rfl rfl rfl rfl)).spares _
  · rw [active_unzoom]
    exact (flat.spares _).trans (((whole.arranges flat).closePane _).spares (whole.arranges flat))

theorem spares_handleLed (key : Key) : session.Spares session.active (session.handleLed key) := by
  have splits : ∀ kind, session.Spares session.active (session.split kind) := by
    intro kind
    rcases split_cases session kind with arranges | ⟨_, _, _, opens⟩
    · exact arranges.spares _
    · exact opens.spares _
  unfold Session.handleLed
  split
  · exact session.spares_onPane _ _
  · split
    · exact (arranges_handleArrow session _ _).spares _
    · split
      · exact splits _
      · exact splits _
      · exact whole.spares_killActive
      · exact (arranges_toggleZoom session).spares _
      · exact (arranges_selectNext session).spares _
      · exact (arranges_selectLast session).spares _
      · exact (Arranges.refl session).spares _

theorem spares_handlePaneKey (key : Key) :
    session.Spares session.active (session.handlePaneKey key) := by
  rcases whole.handlePaneKey key with ⟨-, same⟩ | ⟨-, closes⟩
  · rw [same]
    exact session.spares_onPane _ _
  · exact (session.spares_onPane _ _).trans (closes.spares (whole.onPane _ _))

/-- Whatever a key does, it spares the panes that are not active. -/
theorem spares_handleKey (asks : session.AsksOfActive) (key : Key) :
    session.Spares session.active (session.handleKey key) := by
  have around : ∀ (led : Bool) (overlay : Option Overlay),
      Whole { session with led := led, overlay := overlay } := fun _ _ => { whole with }
  have spares : ∀ (led : Bool) (overlay : Option Overlay), session.Spares session.active
      { session with led := led, overlay := overlay } := fun led overlay =>
    (Arranges.led session led overlay).spares _
  unfold Session.handleKey
  split
  · exact (Arranges.refl session).spares _
  · split
    · rename_i id asked
      obtain rfl := asks id asked
      dsimp only
      split
      · have closes := (around session.led none).closePane session.active
        exact (spares session.led none).trans (closes.spares (around session.led none))
      · exact spares session.led none
    · dsimp only
      split
      · exact (spares false none).trans ((around false none).spares_handleLed key)
      · split
        · exact spares true none
        · exact (spares session.led none).trans ((around session.led none).spares_handlePaneKey key)

end Whole

section Overlays

variable (session)

@[simp] theorem overlay_arrange : session.arrange.overlay = session.overlay := by
  rw [arrange_keeps]

@[simp] theorem overlay_unzoom : session.unzoom.overlay = session.overlay := by
  rw [unzoom_keeps]

@[simp] theorem overlay_select (id : PaneId) : (session.select id).overlay = session.overlay := by
  unfold select
  split <;> rfl

@[simp] theorem overlay_closePane (id : PaneId) : (session.closePane id).overlay = session.overlay := by
  unfold closePane
  split
  · rfl
  · dsimp only
    split
    · exact session.overlay_unzoom
    · rw [overlay_arrange]
      split
      · exact session.overlay_unzoom
      · split <;> exact session.overlay_unzoom

theorem overlay_toggleZoom : session.toggleZoom.overlay = session.overlay := by
  unfold toggleZoom
  split
  · rfl
  · exact overlay_arrange _

theorem overlay_handleArrow (side : Side) (mods : Modifiers) :
    (session.handleArrow side mods).overlay = session.overlay := by
  have moved : ∀ amount, (session.resizePane side amount).overlay = session.overlay := by
    intro amount
    unfold resizePane
    dsimp only
    split
    · exact (overlay_arrange _).trans session.overlay_unzoom
    · exact session.overlay_unzoom
  have chosen : (session.selectSide side).overlay = session.overlay := by
    unfold selectSide
    dsimp only
    split <;> simp
  unfold handleArrow
  split_ifs
  · exact moved _
  · exact moved _
  · exact chosen
  · rfl

theorem overlay_selectLast : session.selectLast.overlay = session.overlay := by
  unfold selectLast
  split <;> simp

end Overlays

theorem asksOfActive_of_none (calm : session.overlay = none) : session.AsksOfActive := by
  intro id asked
  rw [calm] at asked
  contradiction

theorem asksOfActive_killActive (calm : session.overlay = none) : session.killActive.AsksOfActive := by
  unfold killActive
  dsimp only
  split
  · intro id asked
    cases asked
    rfl
  · apply asksOfActive_of_none
    rw [overlay_closePane, overlay_unzoom, calm]

theorem asksOfActive_split (calm : session.overlay = none) (kind : SplitKind) :
    (session.split kind).AsksOfActive := by
  have flat : session.unzoom.overlay = none := session.overlay_unzoom.trans calm
  unfold split
  dsimp only
  split
  · exact asksOfActive_of_none flat
  · split
    · intro id asked
      cases asked
    · apply asksOfActive_of_none
      rw [overlay_arrange, overlay_select]
      exact flat

/-- A key behind the leader asks about the active pane if it asks at all. -/
theorem asksOfActive_handleLed (calm : session.overlay = none) (key : Key) :
    (session.handleLed key).AsksOfActive := by
  have still : ∀ {next : Session}, next.overlay = session.overlay → next.AsksOfActive := fun same =>
    asksOfActive_of_none (same.trans calm)
  unfold handleLed
  split
  · exact still rfl
  · split
    · exact still (session.overlay_handleArrow _ _)
    · split
      · exact asksOfActive_split calm _
      · exact asksOfActive_split calm _
      · exact asksOfActive_killActive calm
      · exact still session.overlay_toggleZoom
      · exact still ((overlay_select _ _).trans session.overlay_unzoom)
      · exact still session.overlay_selectLast
      · exact still rfl

theorem asksOfActive_handleKey (asks : session.AsksOfActive) (key : Key) :
    (session.handleKey key).AsksOfActive := by
  unfold handleKey
  split
  · exact asks
  · split
    · dsimp only
      split
      · exact asksOfActive_of_none (overlay_closePane _ _)
      · exact asksOfActive_of_none rfl
    · dsimp only
      split
      · exact asksOfActive_handleLed rfl key
      · split
        · exact asksOfActive_of_none rfl
        · apply asksOfActive_of_none
          unfold handlePaneKey
          dsimp only
          split
          · exact overlay_closePane _ _
          · rfl

theorem asksOfActive_start {setup : Setup} {text : List Char} (started : start setup text = .ok session) :
    session.AsksOfActive := by
  apply asksOfActive_of_none
  unfold start at started
  split at started
  · contradiction
  · cases started
    rfl

theorem invariant_handleKeys (fitted : session.Fitted) (asks : session.AsksOfActive) (keys : List Key) :
    (session.handleKeys keys).Fitted ∧ (session.handleKeys keys).AsksOfActive := by
  induction keys generalizing session with
  | nil => exact ⟨fitted, asks⟩
  | cons key keys ih => exact ih (fitted.handleKey key) (asksOfActive_handleKey asks key)

/-- Wherever keys have led to, a key leaves the panes alone that are not active: they stay open, nothing of
them changes but their size and their view, and the session goes on. -/
theorem handleKey_leaves_others {setup : Setup} {text : List Char} (started : start setup text = .ok session)
    (keys : List Key) (key : Key) {pane : Pane} (other : id ≠ (session.handleKeys keys).active)
    (opened : (session.handleKeys keys).pane? id = some pane) :
    ((session.handleKeys keys).handleKey key).exited = (session.handleKeys keys).exited ∧
      ∃ width height view, ((session.handleKeys keys).handleKey key).pane? id =
        some { pane with width := width, height := height, view := view } := by
  obtain ⟨fitted, asks⟩ := invariant_handleKeys (fitted_start started) (asksOfActive_start started) keys
  obtain ⟨goesOn, sized, present, width, height, view, rfl⟩ :=
    fitted.toWhole.spares_handleKey asks key id other pane opened
  exact ⟨goesOn, width, height, view, present⟩

/-- Moving a divider narrows the other pane, in which an operator waits, and scrolls it. -/
theorem handleKey_leaves_others_narrowed :
    ∃ session, start { cols := 9, rows := 4 } "abcdefgh\nij".toList = .ok session ∧
      let later := session.handleTyped "jd<C-b>%<C-b>".toList
      let moved := later.handleKey ⟨.left, { ctrl := true }⟩
      0 ≠ later.active ∧
        (later.pane? 0).map Pane.pending = some (some (.operator ⟨.delete, none⟩)) ∧
          (later.pane? 0).map (·.view.top) = some 0 ∧ (moved.pane? 0).map (·.view.top) = some 1 ∧
            ∀ pane ∈ later.pane? 0, ∃ width height view,
              moved.pane? 0 = some { pane with width := width, height := height, view := view } := by
  have started : start { cols := 9, rows := 4 } "abcdefgh\nij".toList = .ok _ := rfl
  refine ⟨_, started, by decide +kernel, by decide +kernel, by decide +kernel, by decide +kernel, ?_⟩
  intro pane opened
  exact (handleKey_leaves_others started (Key.readTyped "jd<C-b>%<C-b>".toList) _ (by decide +kernel)
    opened).2

end Session

end ModalPanes
