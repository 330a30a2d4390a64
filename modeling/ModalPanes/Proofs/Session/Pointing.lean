import ModalPanes.Proofs.Pane.Drawing
import ModalPanes.Proofs.Session.Showing

/-!
# The terminal cursor is in the text of the active pane

The active pane is drawn at the corner of its rectangle and has its size, so a frame shows the terminal
cursor where the pane puts it: in a row for text and behind the gutter.
-/

namespace ModalPanes

namespace Session

variable {session : Session} {setup : Setup} {text : List Char} {rect : Rect}

/-- The terminal cursor of a frame is inside of a rectangle, behind the gutter of the active pane and above
the status row. -/
structure PointsInto (session : Session) (rect : Rect) : Prop where
  left : rect.x + gutterWidth session.activePane.buffer.lineCount session.activePane.options ≤
    session.draw.cursor.1
  right : session.draw.cursor.1 < rect.x + rect.w
  top : rect.y ≤ session.draw.cursor.2
  bottom : session.draw.cursor.2 < rect.y + (rect.h - 1)

instance (session : Session) (rect : Rect) : Decidable (session.PointsInto rect) :=
  decidable_of_iff (_ ∧ _ ∧ _ ∧ _) ⟨fun ⟨left, right, top, bottom⟩ => ⟨left, right, top, bottom⟩,
    fun points => ⟨points.left, points.right, points.top, points.bottom⟩⟩

theorem Fitted.pane?_active (fitted : session.Fitted) :
    session.pane? session.active = some session.activePane := by
  obtain ⟨pane, here⟩ := Option.isSome_iff_exists.1 fitted.active
  rw [activePane, here]
  rfl

/-- A visible active pane is as large as its rectangle. -/
theorem Fitted.size_activePane (fitted : session.Fitted)
    (shown : (session.active, rect) ∈ session.paneRects) :
    session.activePane.width = rect.w ∧ session.activePane.height = rect.h := by
  have size := fitted.sized _ shown _ fitted.pane?_active
  exact Prod.mk.inj size

/-- Where the row of the cursor is shown, a frame without question and prompt has the terminal cursor in the
text of the active pane. -/
theorem Operated.points_into_text (operated : Operated setup text session)
    (running : session.exited = false) (unasked : session.overlay = none)
    (closed : session.activePane.prompt = none)
    (shown : (session.active, rect) ∈ session.paneRects) (high : 2 ≤ rect.h)
    (wide : gutterWidth session.activePane.buffer.lineCount session.activePane.options < rect.w)
    (row : session.activePane.options.wrap = true → session.activePane.CursorRowShown) :
    session.PointsInto rect := by
  have fitted := operated.fitted
  obtain ⟨width, height⟩ := fitted.size_activePane shown
  have puts := putsCursor fitted.toWhole.nodup_paneRects shown (Nat.one_le_of_lt wide) fitted.active running
  have plain : session.overlayText? = none := by rw [overlayText?, unasked]; rfl
  rw [PutsCursor, plain] at puts
  obtain ⟨grid, drawn⟩ := puts
  have rowShown : session.activePane.CursorRowShown := by
    by_cases wraps : session.activePane.options.wrap = true
    · exact row wraps
    · exact Pane.cursorRowShown_of_wrap (Bool.eq_false_of_not_eq_true wraps)
  have inside := rowShown.inText_draw (x := rect.x) (y := rect.y) (width ▸ wide) (height ▸ high) closed grid
  rw [← drawn] at inside
  obtain ⟨left, right, top, bottom⟩ := inside
  rw [width] at right
  rw [height] at bottom
  exact ⟨left, right, top, bottom⟩

theorem Operated.handleKeys (operated : Operated setup text session) (keys : List Key) :
    Operated setup text (session.handleKeys keys) := by
  unfold Session.handleKeys
  induction keys generalizing session with
  | nil => exact operated
  | cons key keys ih => exact ih (operated.key key)

/-- The cursor behind a full row goes to the row below. -/
theorem points_into_text_behind_full_row :
    ∃ session, Operated { cols := 13, rows := 4, options := { number := true, numberWidth := 2 } } []
        session ∧
      (session.active, ⟨7, 0, 6, 4⟩) ∈ session.paneRects ∧ session.activePane.options.wrap = true ∧
        session.activePane.cursorRow = 1 ∧ session.activePane.lineRows 0 = 1 ∧
          session.PointsInto ⟨7, 0, 6, 4⟩ := by
  have fresh : Operated { cols := 13, rows := 4, options := { number := true, numberWidth := 2 } } [] _ :=
    .start rfl
  have typed := fresh.handleKeys [.ctrl 'b', .char '%', .char 'i', .char 'a', .char 'b', .char 'c', .char 'd']
  exact ⟨_, typed, by decide +kernel, by decide +kernel, by decide +kernel, by decide +kernel,
    typed.points_into_text (by decide +kernel) (by decide +kernel) (by decide +kernel)
      (by decide +kernel) (by decide +kernel) (by decide +kernel) fun _ => by decide +kernel⟩

/-- A row far down in a line that is higher than the screen is not shown, and neither is the one behind a full
row that ends the screen. -/
theorem points_out_of_text :
    (∃ session, Operated { cols := 10, rows := 4 } (List.replicate 50 'x') session ∧
      session.exited = false ∧ session.overlay = none ∧ session.activePane.prompt = none ∧
        session.paneRects = [(session.active, ⟨0, 0, 10, 4⟩)] ∧ session.draw.cursor = (9, 4)) ∧
    ∃ session, Operated { cols := 10, rows := 2 } "0123456789".toList session ∧
      session.exited = false ∧ session.overlay = none ∧ session.activePane.prompt = none ∧
        session.paneRects = [(session.active, ⟨0, 0, 10, 2⟩)] ∧ session.draw.cursor = (0, 1) := by
  constructor
  · have fresh : Operated { cols := 10, rows := 4 } (List.replicate 50 'x') _ := .start rfl
    exact ⟨_, fresh.key (.char '$'), by decide +kernel⟩
  · have fresh : Operated { cols := 10, rows := 2 } "0123456789".toList _ := .start rfl
    exact ⟨_, fresh.key (.char 'A'), by decide +kernel⟩

end Session

end ModalPanes
