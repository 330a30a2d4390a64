import ModalPanes.Proofs.Layout.Placing
import ModalPanes.Proofs.Pane.Painting
import ModalPanes.Proofs.Session.Pointing

/-!
# A frame fills the terminal

A frame is painted onto blanks by strokes, so that every row has a cell for each column, and continuations stand
behind double-width characters and nowhere else.  Its rows are as wide as the terminal, but for one whose last
cell has the first half of a character: that is drawn where a pane at the right edge wraps its lines into a
single column.
-/

namespace ModalPanes

namespace Session

variable {session : Session} {setup : Setup} {text : List Char}

/-- The terminal keeps its size, and has at least two rows and columns. -/
theorem Operated.area (operated : Operated setup text session) :
    session.area = ⟨0, 0, setup.cols, setup.rows⟩ ∧ 2 ≤ setup.cols ∧ 2 ≤ setup.rows := by
  induction operated with
  | start started =>
      unfold Session.start at started
      split at started
      · contradiction
      · rename_i large
        obtain rfl := Except.ok.inj started
        exact ⟨rfl, by omega⟩
  | @key session _ key ih => exact (session.reshapes_handleKey key).area ▸ ih
  | @split session _ kind ih =>
      have reshapes : session.Reshapes none (session.split kind) := reshapes_split session kind
      exact reshapes.area ▸ ih
  | @close session _ id ih =>
      have reshapes : session.Reshapes none (session.closePane id) := reshapes_closePane session id
      exact reshapes.area ▸ ih
  | @zoom session _ ih =>
      have reshapes : session.Reshapes none session.toggleZoom := reshapes_toggleZoom session
      exact reshapes.area ▸ ih

theorem liesIn_paneRects (session : Session) : ∀ shown ∈ session.paneRects, shown.2.LiesIn session.area := by
  unfold paneRects
  split
  · intro shown mem
    obtain rfl := List.mem_singleton.1 mem
    exact .refl session.area
  · exact session.layout.rects_liesIn session.area

theorem right_le_cols {rect : Rect} (lies : rect.LiesIn session.area) : rect.x + rect.w ≤ session.cols := by
  have right := lies.right
  simp only [area] at right
  omega

section Painting

variable {ok : Nat → Nat → Nat → Prop}

theorem paints_drawPanes {rects : List (PaneId × Rect)}
    (each : ∀ shown ∈ rects, ∀ pane ∈ session.pane? shown.1, ∀ row col n,
      pane.Band shown.2.x shown.2.y (shown.2.y + pane.height) row col n → ok row col n) (frame : Frame) :
    frame.grid.Paints ok (rects.foldl session.drawPane frame).grid := by
  induction rects generalizing frame with
  | nil => exact .refl _
  | cons shown rects ih =>
      have first : frame.grid.Paints ok (session.drawPane frame shown).grid := by
        unfold drawPane
        split
        · exact .refl _
        · rename_i pane present
          have painted := pane.paints_draw frame.grid shown.2.x shown.2.y
          exact painted.mono (each shown List.mem_cons_self pane present)
      exact first.trans (ih (fun shown mem => each shown (List.mem_cons_of_mem _ mem)) _)

theorem paints_drawDivider (grid : Grid) (divider : Divider) :
    grid.Paints (fun row col n => divider.rect.Covers col row ∧ n = 1) (drawDivider grid divider) := by
  refine .foldl (fun step mem grid => ?_) grid
  have within := List.mem_range.1 mem
  split
  · rename_i vertical
    refine Grid.paints_put grid {} (by decide +kernel) (by decide +kernel) ⟨?_, rfl⟩
    rw [Divider.rect, if_pos vertical]
    unfold Rect.Covers
    dsimp only
    omega
  · rename_i horizontal
    refine Grid.paints_put grid {} (by decide +kernel) (by decide +kernel) ⟨?_, rfl⟩
    rw [Divider.rect, if_neg horizontal]
    unfold Rect.Covers
    dsimp only
    omega

theorem paints_drawOverlay (frame : Frame) (text : List Char) (rect : Rect) :
    frame.grid.Paints (fun row col n => row = rect.y + (rect.h - 1) ∧ rect.x ≤ col ∧ col + n ≤ rect.x + rect.w)
      (drawOverlay frame text rect).grid :=
  (Grid.paints_fill _ _ _ _).trans (Grid.paints_putText _ _ _ _ _ _)

/-- The frame before a question or a notice is drawn over it. -/
def drawPanes (session : Session) : Grid :=
  (if session.zoomed then [] else session.layout.dividers session.area).foldl drawDivider
    (session.paneRects.foldl session.drawPane ⟨.blank session.cols session.rows, (0, 0)⟩).grid

theorem draw_grid (session : Session) (running : session.exited = false) :
    session.draw.grid =
      match session.overlayText?, session.paneRects.lookup session.active with
      | some text, some rect => (drawOverlay ⟨session.drawPanes, (0, 0)⟩ text rect).grid
      | _, _ => session.drawPanes := by
  unfold draw
  rw [running]
  cases session.overlayText? <;> cases session.paneRects.lookup session.active <;> rfl

end Painting

/-- A pane at the right edge of the terminal has no room for a double-width character that it shows. -/
def CutsAtEdge (session : Session) : Prop :=
  ∃ shown ∈ session.paneRects, shown.2.x + shown.2.w = session.cols ∧
    ∃ pane ∈ session.pane? shown.1, pane.Cramped

instance (session : Session) : Decidable session.CutsAtEdge :=
  inferInstanceAs (Decidable (∃ _ ∈ _, _ ∧ ∃ _ ∈ _, _))

/-- Strokes that leave no half of a character in the last column, unless there is such a pane. -/
def Strokes (session : Session) (_row col n : Nat) : Prop :=
  n = 2 → col + 1 = session.cols → session.CutsAtEdge

theorem Fitted.paints_panes (fitted : session.Fitted) :
    (Grid.blank session.cols session.rows).Paints session.Strokes session.drawPanes := by
  have panes : (Grid.blank session.cols session.rows).Paints session.Strokes
      (session.paneRects.foldl session.drawPane ⟨.blank session.cols session.rows, (0, 0)⟩).grid := by
    refine paints_drawPanes (fun shown mem pane present row col n band two edge => ?_) ⟨_, (0, 0)⟩
    obtain ⟨-, spans⟩ := band
    have lies := (session.liesIn_paneRects shown mem).right
    have width := congrArg Prod.fst (fitted.sized shown mem pane present)
    simp only [area, Pane.size] at lies width
    rcases spans.right with inside | ⟨none, behind⟩ | ⟨cramped, last⟩
    · omega
    · omega
    · exact ⟨shown, mem, by omega, pane, present, cramped⟩
  refine panes.trans (.foldl (fun divider _ grid => ?_) _)
  exact (paints_drawDivider grid divider).mono fun row col n single two => by omega

theorem Fitted.paints_frame (fitted : session.Fitted) :
    (Grid.blank session.cols session.rows).Paints session.Strokes session.draw.grid := by
  cases running : session.exited with
  | true =>
      unfold draw
      rw [running]
      exact (Grid.paints_putText _ 0 0 _ {} session.cols).mono fun row col n place two edge => by omega
  | false =>
      rw [session.draw_grid running]
      split
      · rename_i text rect _ found
        obtain ⟨front, rest, rects, -⟩ := List.lookup_eq_some_iff.1 found
        have mem : (session.active, rect) ∈ session.paneRects := by simp [rects]
        have right := right_le_cols (session.liesIn_paneRects _ mem)
        have written := paints_drawOverlay ⟨session.drawPanes, (0, 0)⟩ text rect
        refine fitted.paints_panes.trans (written.mono fun row col n place two edge => ?_)
        dsimp only at right
        omega
      · exact fitted.paints_panes

/-- Every row of a frame has a cell for each column of the terminal, and a cell is a continuation exactly if the
cell on its left holds a double-width character.  The text of a row of characters of up to two columns takes
all columns, and one more only if its last cell holds a double-width character, which takes a pane at the right
edge that has no room for it. -/
theorem Operated.fills_terminal (operated : Operated setup text session) :
    session.draw.grid.rows.length = setup.rows ∧
      ∀ row ∈ session.draw.grid.rows, row.length = setup.cols ∧
        (row.continues 0 = false ∧ ∀ x, x + 1 < setup.cols → row.continues (x + 1) = row.isWideAt x) ∧
        ((∀ c ∈ row.text, Unicode.width c ≤ 2) →
          textWidth row.text = setup.cols + (row.isWideAt (setup.cols - 1)).toNat) ∧
        (row.isWideAt (setup.cols - 1) = true → session.CutsAtEdge) := by
  obtain ⟨size, columns, -⟩ := operated.area
  obtain ⟨-, -, cols, rows⟩ := Rect.mk.inj size
  have paints := operated.fitted.paints_frame
  have sound := paints.sound (Grid.sound_blank session.cols session.rows)
  rw [← cols, ← rows]
  refine ⟨paints.rows.trans (List.length_replicate ..), fun row mem => ?_⟩
  obtain ⟨length, whole⟩ := sound row mem
  refine ⟨length, ⟨whole.first, length ▸ whole.pairs⟩, fun narrow => ?_, fun last => ?_⟩
  · rw [whole.textWidth_text narrow, length]
  · by_contra uncut
    obtain ⟨y, here⟩ := List.mem_iff_getElem?.1 mem
    obtain ⟨before, start, painted⟩ := paints.row y row here
    obtain ⟨-, rfl⟩ := List.mem_replicate.1 (List.mem_of_getElem? start)
    have blank : Row.isWideAt (List.replicate session.cols .blank) (session.cols - 1) = false := by
      rw [Row.isWideAt, List.getElem?_replicate, if_pos (by omega)]
      decide
    rw [painted.isWideAt_last (fun x two edge => uncut (two rfl (edge.trans (List.length_replicate ..))))
      (by rw [List.length_replicate]; omega) blank] at last
    contradiction

/-- Double-width characters at the edges of two panes. -/
theorem fills_terminal_wide :
    ∃ session, Operated { cols := 10, rows := 3 } "日本語".toList session ∧
      session.draw.grid.lines = ["日本>│    ".toList, "語   │~   ".toList, "[No N│[No ".toList] ∧
        ∀ row ∈ session.draw.grid.rows, (∀ c ∈ row.text, Unicode.width c ≤ 2) → textWidth row.text = 10 := by
  have fresh : Operated { cols := 10, rows := 3 } "日本語".toList _ := .start rfl
  have split := fresh.handleKeys [.ctrl 'b', .char '%']
  refine ⟨_, split, by decide +kernel, fun row mem narrow => ?_⟩
  obtain ⟨-, -, width, edge⟩ := split.fills_terminal.2 row mem
  rw [width narrow]
  cases last : row.isWideAt 9 with
  | true => exact absurd (edge last) (by decide +kernel)
  | false => rfl

/-- Behind the gutter there is one column left, and the character in it takes two. -/
theorem overfills_terminal :
    ∃ session, Operated { cols := 5, rows := 2, options := { number := true } } "日".toList session ∧
      session.draw.grid.lines = ["  1 日".toList, "[No N".toList] ∧ textWidth "  1 日".toList = 6 := by
  have fresh : Operated { cols := 5, rows := 2, options := { number := true } } "日".toList _ := .start rfl
  exact ⟨_, fresh.key (.char 'h'), by decide +kernel, by decide +kernel⟩

end Session

end ModalPanes
