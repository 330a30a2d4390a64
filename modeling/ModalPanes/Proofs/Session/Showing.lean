import ModalPanes.Proofs.Layout.Showing
import ModalPanes.Proofs.Session.Structure
import ModalPanes.Session.Drawing

/-!
# Sessions that show all of their panes

A session that is not zoomed shows all of its panes as long as its layout fits the terminal.  A pane is
split only where there is room for both parts, and closing one makes room, so only moving a divider can make
a pane vanish: the way that a divider may go is bounded by the fewest cells that the parts beside it need,
but inside of a part its weights share the cells, and a pane that gets less than its share needs is gone.
-/

namespace ModalPanes

namespace Session

/-- What becomes of the layout of a session. -/
inductive Reshaped (session : Session) (move? : Option (Side × Nat)) : Layout → Prop where
  | same : Reshaped session move? session.layout
  | split {kind : SplitKind} {new : PaneId} {rect : Rect} {after : Layout}
      (shown : session.layout.rectOf? session.active session.area = some rect)
      (room : splitRoom ≤ rect.extent kind)
      (splits : session.layout.splitPane? session.active new kind = some after) :
      Reshaped session move? after
  | remove {id : PaneId} {after : Layout} (removed : session.layout.remove? id = some after) :
      Reshaped session move? after
  | move {side : Side} {amount : Nat} {after : Layout} (asked : (side, amount) ∈ move?)
      (moved : session.layout.resize? session.active side amount session.area = some after) :
      Reshaped session move? after

/-- The terminal keeps its size, and the layout changes in one of these ways. -/
structure Reshapes (session : Session) (move? : Option (Side × Nat)) (next : Session) : Prop where
  area : next.area = session.area
  layout : session.Reshaped move? next.layout

/-- The side to which an arrow key behind the leader moves a divider, and how far. -/
def arrowMove? (key : Key) : Option (Side × Nat) :=
  (sideOf? key.code).bind fun side =>
    if key.mods = { ctrl := true } then some (side, smallStep)
    else if key.mods = { alt := true } then some (side, largeStep)
    else none

variable {session next : Session} {move? : Option (Side × Nat)}

namespace Reshapes

/-- Nothing else matters to the layout of a session than its layout, focus and size. -/
theorem of_eq (layout : next.layout = session.layout) (area : next.area = session.area) :
    session.Reshapes move? next :=
  ⟨area, layout ▸ .same⟩

theorem refl (session : Session) : session.Reshapes move? session := of_eq rfl rfl

theorem congr {other : Session} (reshapes : other.Reshapes move? next)
    (layout : other.layout = session.layout) (area : other.area = session.area)
    (active : other.active = session.active) : session.Reshapes move? next := by
  obtain ⟨sameArea, shape⟩ := reshapes
  refine ⟨sameArea.trans area, ?_⟩
  generalize next.layout = after at shape
  cases shape with
  | same => exact layout ▸ .same
  | split shown room splits =>
      rw [layout, area, active] at shown
      rw [layout, active] at splits
      exact .split shown room splits
  | remove removed => exact .remove (layout ▸ removed)
  | move asked moved =>
      rw [layout, area, active] at moved
      exact .move asked moved

theorem arrange (reshapes : session.Reshapes move? next) : session.Reshapes move? next.arrange := by
  rw [arrange_keeps]
  exact ⟨reshapes.area, reshapes.layout⟩

theorem select (reshapes : session.Reshapes move? next) (id : PaneId) :
    session.Reshapes move? (next.select id) := by
  unfold Session.select
  split
  · exact ⟨reshapes.area, reshapes.layout⟩
  · exact reshapes

end Reshapes

section Commands

variable (session : Session)

theorem reshapes_unzoom : session.Reshapes move? session.unzoom := by
  rw [unzoom_keeps]
  exact .of_eq rfl rfl

/-- What is done once the zoom has ended is done to the same layout. -/
theorem Reshapes.unzoomed {session : Session} (reshapes : session.unzoom.Reshapes move? next) :
    session.Reshapes move? next := by
  refine reshapes.congr ?_ ?_ ?_ <;> rw [unzoom_keeps]
  rfl

theorem reshapes_toggleZoom : session.Reshapes move? session.toggleZoom := by
  unfold toggleZoom
  split
  · exact .refl session
  · exact .arrange (.of_eq rfl rfl)

theorem reshapes_split (kind : SplitKind) : session.Reshapes move? (session.split kind) := by
  unfold split
  refine .unzoomed ?_
  generalize session.unzoom = session
  dsimp only
  split
  · exact .refl session
  · rename_i rect shown
    split
    · exact .of_eq rfl rfl
    · rename_i room
      have shape : session.Reshaped move?
          ((session.layout.splitPane? session.active session.nextId kind).getD session.layout) := by
        cases splits : session.layout.splitPane? session.active session.nextId kind with
        | none => exact .same
        | some after => exact .split shown (Nat.le_of_not_lt room) splits
      refine .arrange (.select ?_ _)
      exact ⟨rfl, shape⟩

theorem reshapes_closePane (id : PaneId) : session.Reshapes move? (session.closePane id) := by
  unfold closePane
  split
  · exact .refl session
  · refine .unzoomed ?_
    generalize session.unzoom = session
    dsimp only
    split
    · exact .of_eq rfl rfl
    · have shape : session.Reshaped move? ((session.layout.remove? id).getD session.layout) := by
        cases removed : session.layout.remove? id with
        | none => exact .same
        | some after => exact .remove removed
      refine .arrange ?_
      split
      · exact ⟨rfl, shape⟩
      · split
        · exact ⟨rfl, shape⟩
        · exact ⟨rfl, shape⟩

theorem reshapes_killActive : session.Reshapes move? session.killActive := by
  unfold killActive
  refine .unzoomed ?_
  dsimp only
  split
  · exact .of_eq rfl rfl
  · exact reshapes_closePane _ _

theorem reshapes_selectSide (side : Side) : session.Reshapes move? (session.selectSide side) := by
  unfold selectSide
  dsimp only
  split
  · exact (reshapes_unzoom session).select _
  · exact reshapes_unzoom session

theorem reshapes_selectLast : session.Reshapes move? session.selectLast := by
  unfold selectLast
  split
  · exact (reshapes_unzoom session).select _
  · exact .refl session

theorem reshapes_resizePane (side : Side) (amount : Nat) :
    session.Reshapes (some (side, amount)) (session.resizePane side amount) := by
  unfold resizePane
  refine .unzoomed ?_
  generalize session.unzoom = session
  dsimp only
  split
  · rename_i layout moved
    exact .arrange ⟨rfl, .move rfl moved⟩
  · exact .refl session

theorem reshapes_handleArrow {key : Key} {side : Side} (arrow : sideOf? key.code = some side) :
    session.Reshapes (arrowMove? key) (session.handleArrow side key.mods) := by
  unfold handleArrow arrowMove?
  rw [arrow, Option.bind_some]
  split
  · exact reshapes_resizePane session side _
  · split
    · exact reshapes_resizePane session side _
    · split
      · exact reshapes_selectSide session side
      · exact .refl session

theorem reshapes_handleLed (key : Key) :
    session.Reshapes (if key = session.leader then none else arrowMove? key)
      (session.handleLed key) := by
  unfold handleLed
  split
  · exact .of_eq rfl rfl
  · split
    · rename_i arrow
      exact reshapes_handleArrow session arrow
    · split
      · exact reshapes_split session _
      · exact reshapes_split session _
      · exact reshapes_killActive session
      · exact reshapes_toggleZoom session
      · exact (reshapes_unzoom session).select _
      · exact reshapes_selectLast session
      · exact .refl session

theorem reshapes_handlePaneKey (key : Key) :
    session.Reshapes move? (session.handlePaneKey key) := by
  unfold handlePaneKey
  dsimp only
  split
  · exact (reshapes_closePane _ _).congr rfl rfl rfl
  · exact .of_eq rfl rfl

end Commands

/-- The divider that a key moves: to which side, and how far. -/
def dividerMove? (session : Session) (key : Key) : Option (Side × Nat) :=
  if session.led = true ∧ key ≠ session.leader then arrowMove? key else none

theorem reshapes_handleKey (session : Session) (key : Key) :
    session.Reshapes (session.dividerMove? key) (session.handleKey key) := by
  unfold handleKey
  split
  · exact .refl session
  · split
    · dsimp only
      split
      · exact (reshapes_closePane _ _).congr rfl rfl rfl
      · exact .of_eq rfl rfl
    · dsimp only
      split
      · rename_i led
        have led : session.led = true := led
        have reshapes := reshapes_handleLed { session with overlay := none, led := false } key
        unfold dividerMove?
        simp only [led, true_and, ne_eq, ite_not]
        exact reshapes.congr rfl rfl rfl
      · split
        · exact .of_eq rfl rfl
        · exact (reshapes_handlePaneKey _ key).congr rfl rfl rfl

/-- A key that moves a divider does so in a layout that has no split inside of another one of the same
kind, or only so far that the panes on both sides still fit. -/
def LeavesRoom (session : Session) (key : Key) : Prop :=
  ∀ move ∈ session.dividerMove? key,
    session.layout.nests move.1.kind = false ∨
      ∀ after ∈ session.layout.resize? session.active move.1 move.2 session.area,
        after.fits session.area = true

instance (session : Session) (key : Key) : Decidable (session.LeavesRoom key) :=
  inferInstanceAs (Decidable (∀ _ ∈ _, _))

/-- A key keeps all panes visible, unless it moves a divider to where some part does not fit. -/
theorem Fitted.fits_handleKey (fitted : session.Fitted) (inArea : session.layout.fits session.area = true)
    {key : Key} (room : session.LeavesRoom key) :
    (session.handleKey key).layout.fits (session.handleKey key).area = true := by
  obtain ⟨area, shape⟩ := session.reshapes_handleKey key
  rw [area]
  generalize (session.handleKey key).layout = after at shape
  cases shape with
  | same => exact inArea
  | split shown wide splits =>
      refine Layout.fits_splitPane? inArea (fun rect mem => ?_) splits
      have distinct := fitted.distinct.sublist (session.layout.rects_sublist session.area)
      rw [Layout.rectOf?, lookup_of_mem distinct mem] at shown
      obtain rfl := Option.some.inj shown
      exact wide
  | remove removed => exact Layout.fits_remove? inArea removed
  | move asked moved =>
      rcases room _ asked with flat | still
      · exact Layout.fits_resize? inArea flat moved
      · exact still _ moved

/-- Sessions that keys lead to, where every key that moves a divider leaves room. -/
inductive Roomy (setup : Setup) (text : List Char) : Session → Prop where
  | start {session : Session} (started : start setup text = .ok session) : Roomy setup text session
  | key {session : Session} (roomy : Roomy setup text session) (key : Key)
      (room : session.LeavesRoom key) :
      Roomy setup text (session.handleKey key)

section Drawing

/-- The cursor of a frame is where the active pane puts it in its rectangle, or behind the text that is
drawn over the last row of the pane. -/
def PutsCursor (session : Session) (rect : Rect) : Prop :=
  match session.overlayText? with
  | some _ => ∃ col, col < rect.w ∧ session.draw.cursor = (rect.x + col, rect.y + (rect.h - 1))
  | none => ∃ grid, session.draw.cursor = (session.activePane.draw grid rect.x rect.y).2

theorem foldl_drawPane_of_not_mem {rects : List (PaneId × Rect)}
    (absent : session.active ∉ rects.map Prod.fst) (frame : Frame) :
    (rects.foldl session.drawPane frame).cursor = frame.cursor := by
  induction rects generalizing frame with
  | nil => rfl
  | cons entry rects ih =>
      rw [List.map_cons, List.mem_cons, not_or] at absent
      rw [List.foldl_cons, ih absent.2]
      unfold drawPane
      split
      · rfl
      · exact if_neg (Ne.symm absent.1)

theorem foldl_drawPane {rects : List (PaneId × Rect)} (distinct : (rects.map Prod.fst).Nodup)
    {rect : Rect} (mem : (session.active, rect) ∈ rects)
    (opened : session.isOpen session.active = true) (frame : Frame) :
    ∃ grid, (rects.foldl session.drawPane frame).cursor =
      (session.activePane.draw grid rect.x rect.y).2 := by
  obtain ⟨pane, present⟩ := Option.isSome_iff_exists.1 opened
  obtain ⟨front, rest, rfl⟩ := List.append_of_mem mem
  rw [List.map_append, List.map_cons] at distinct
  have behind := (List.nodup_cons.1 (List.nodup_append.1 distinct).2.1).1
  rw [List.foldl_append, List.foldl_cons, foldl_drawPane_of_not_mem behind]
  unfold drawPane activePane
  rw [present]
  exact ⟨_, if_pos rfl⟩

theorem putsCursor (distinct : (session.paneRects.map Prod.fst).Nodup) {rect : Rect}
    (mem : (session.active, rect) ∈ session.paneRects) (wide : 1 ≤ rect.w)
    (opened : session.isOpen session.active = true) (running : session.exited = false) :
    session.PutsCursor rect := by
  have found := lookup_of_mem distinct mem
  unfold PutsCursor draw
  simp only [running, Bool.false_eq_true, if_false, found]
  cases session.overlayText? with
  | some text =>
      dsimp only [drawOverlay]
      refine ⟨_, ?_, rfl⟩
      omega
  | none => exact foldl_drawPane distinct mem opened _

end Drawing

theorem Roomy.invariant {setup : Setup} {text : List Char} (roomy : Roomy setup text session) :
    session.Fitted ∧ session.layout.fits session.area = true ∧ session.area.HasRoom := by
  induction roomy with
  | start started =>
      refine ⟨fitted_start started, ?_⟩
      unfold Session.start at started
      split at started
      · contradiction
      · rename_i large
        obtain rfl := Except.ok.inj started
        rw [not_or, not_lt, not_lt] at large
        exact ⟨rfl, Nat.le_of_succ_le large.1, Nat.le_of_succ_le large.2⟩
  | @key session roomy key room ih =>
      obtain ⟨fitted, inArea, cells⟩ := ih
      refine ⟨fitted.handleKey key, fitted.fits_handleKey inArea room, ?_⟩
      rw [(session.reshapes_handleKey key).area]
      exact cells

/-- Every pane of such a session is listed once unless the session is zoomed, the active one among them,
which gets the cursor. -/
theorem Roomy.shows_all {setup : Setup} {text : List Char} (roomy : Roomy setup text session)
    (flat : session.zoomed = false) :
    (session.paneRects.map Prod.fst).Nodup ∧
      (session.paneRects.map Prod.fst).Perm (session.panes.map Prod.fst) ∧
        ∃ rect, (session.active, rect) ∈ session.paneRects ∧
          (session.exited = false → session.PutsCursor rect) := by
  obtain ⟨fitted, inArea, room⟩ := roomy.invariant
  have rects : session.paneRects = session.layout.rects session.area := if_neg (by simp [flat])
  have shown : session.paneRects.map Prod.fst = session.layout.leaves := by
    rw [rects]
    exact (Layout.fits_iff _ _).1 inArea
  have distinct := fitted.toWhole.nodup_paneRects
  have active : session.active ∈ session.paneRects.map Prod.fst := by
    rw [shown]
    exact fitted.toWhole.mem_leaves fitted.active
  obtain ⟨⟨id, rect⟩, mem, rfl⟩ := List.mem_map.1 active
  refine ⟨distinct, shown ▸ fitted.ids.symm, rect, mem, fun running => ?_⟩
  have wide := (session.layout.rects_hasRoom room _ (rects ▸ mem)).1
  exact putsCursor distinct mem wide fitted.active running

/-- A divider is moved next to two panes that are one above the other. -/
theorem shows_all_moved :
    ∃ session, Roomy { cols := 9, rows := 6 } "ab\ncd".toList session ∧
      session.paneRects = [(0, ⟨0, 0, 5, 6⟩), (1, ⟨6, 0, 3, 3⟩), (2, ⟨6, 4, 3, 2⟩)] ∧
        session.zoomed = false ∧ (session.paneRects.map Prod.fst).Perm (session.panes.map Prod.fst) := by
  have fresh : Roomy { cols := 9, rows := 6 } "ab\ncd".toList _ := .start rfl
  have beside := (fresh.key (.ctrl 'b') (by decide +kernel)).key (.char '%') (by decide +kernel)
  have below := (beside.key (.ctrl 'b') (by decide +kernel)).key (.char '"') (by decide +kernel)
  have moved := (below.key (.ctrl 'b') (by decide +kernel)).key ⟨.right, { ctrl := true }⟩
    (by decide +kernel)
  exact ⟨_, moved, by decide +kernel, by decide +kernel, (moved.shows_all (by decide +kernel)).2.1⟩

/-- A pane that nests too deeply on the other side of a divider vanishes with the focus on it. -/
theorem not_shown_nested :
    ∃ session, start { cols := 15, rows := 2 } [] = .ok session ∧
      let last := session.handleTyped "<C-b>%<C-b>%<C-b>%<C-b>o<C-b><C-Right><C-b>;".toList
      last.zoomed = false ∧ last.isOpen last.active = true ∧
        last.active ∉ last.paneRects.map Prod.fst :=
  ⟨_, rfl, by decide +kernel⟩

end Session

end ModalPanes
