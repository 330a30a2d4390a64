import ModalPanes.Proofs.Session.Framing
import ModalPanes.Snapshot

/-!
# The status row as it is drawn

The last row of the active pane shows the text of its status row, or of the question or notice over it, as far
as there are columns for it.  What is painted later stays beside it: other panes and the dividers have no cell in
common with the pane.  The status of a snapshot is cut by characters, and for a question or a notice not at all,
so it is the text of that row only where each way of cutting leaves the same.
-/

namespace ModalPanes

namespace Session

variable {session : Session} {setup : Setup} {text : List Char} {rect : Rect}

/-- The cells of the last row of the active pane, when it has so many columns. -/
def statusCells (session : Session) (columns : Nat) : Row :=
  match session.overlayText? with
  | some text => Row.written { inverse := true } columns text
  | none => Row.written session.activePane.status.2 columns session.activePane.status.1

theorem paneRects_pairwise (session : Session) :
    session.paneRects.Pairwise fun shown later => shown.2.Precedes later.2 := by
  unfold paneRects
  split
  · exact List.pairwise_singleton _ _
  · exact session.layout.rects_pairwise session.area

/-- The dividers that are drawn have no cell in common with a pane. -/
theorem not_covers_paneRects {divider : Divider}
    (mem : divider ∈ if session.zoomed then [] else session.layout.dividers session.area)
    {shown : PaneId × Rect} (inRects : shown ∈ session.paneRects) {x y : Nat}
    (covers : divider.rect.Covers x y) : ¬ shown.2.Covers x y := by
  unfold paneRects at inRects
  split at mem
  · contradiction
  · rename_i flat
    rw [if_neg flat] at inRects
    exact Layout.not_covers_of_divider mem inRects covers

theorem Operated.hasRoom (operated : Operated setup text session) {shown : PaneId × Rect}
    (mem : shown ∈ session.paneRects) : shown.2.HasRoom := by
  obtain ⟨size, columns, rows⟩ := operated.area
  have room : session.area.HasRoom := by
    rw [size]
    exact ⟨Nat.le_of_succ_le columns, Nat.le_of_succ_le rows⟩
  unfold paneRects at mem
  split at mem
  · obtain rfl := List.mem_singleton.1 mem
    exact room
  · exact session.layout.rects_hasRoom room shown mem

/-- The last row of a visible rectangle is there in whatever is painted onto the terminal. -/
theorem row_of_paints {ok : Nat → Nat → Nat → Prop} {grid : Grid}
    (paints : (Grid.blank session.cols session.rows).Paints ok grid) (lies : rect.LiesIn session.area)
    (room : rect.HasRoom) :
    (∃ row : Row, grid.rows[rect.y + (rect.h - 1)]? = some row ∧ rect.x + rect.w ≤ row.length) ∧
      rect.x + rect.w ≤ grid.width := by
  have within : rect.y + (rect.h - 1) < grid.rows.length := by
    have rows : grid.rows.length = session.rows := paints.rows.trans (List.length_replicate ..)
    have bottom := lies.bottom
    have lines := room.2
    simp only [area] at bottom
    omega
  have sound := paints.sound (Grid.sound_blank _ _) _ (List.getElem_mem within)
  have width : grid.width = session.cols := paints.width
  refine ⟨⟨_, List.getElem?_eq_getElem within, ?_⟩, ?_⟩
  · rw [sound.1]
    exact right_le_cols lies
  · rw [width]
    exact right_le_cols lies

theorem Fitted.showsAt_drawPane (fitted : session.Fitted) (room : rect.HasRoom)
    (shown : (session.active, rect) ∈ session.paneRects) {ok : Nat → Nat → Nat → Prop} {frame : Frame}
    (before : (Grid.blank session.cols session.rows).Paints ok frame.grid) :
    (session.drawPane frame (session.active, rect)).grid.ShowsAt rect.x (rect.y + (rect.h - 1))
      (Row.written session.activePane.status.2 rect.w session.activePane.status.1) := by
  have lies := session.liesIn_paneRects _ shown
  obtain ⟨⟨row, here, inRow⟩, inGrid⟩ := row_of_paints before lies room
  obtain ⟨width, height⟩ := fitted.size_activePane shown
  have status := @Pane.showsAt_status session.activePane rect.x rect.y frame.grid row
  rw [width, height] at status
  unfold drawPane
  rw [fitted.pane?_active]
  exact status room.1 room.2 here inRow inGrid

/-- Panes that come later are painted behind the right edge, if at all, in the last row of a rectangle. -/
theorem paints_later (session : Session) {later : List (PaneId × Rect)}
    (precedes : ∀ shown ∈ later, rect.Precedes shown.2) (frame : Frame) :
    frame.grid.Paints (fun row col _ => row = rect.y + (rect.h - 1) → rect.x + rect.w ≤ col)
      (later.foldl session.drawPane frame).grid := by
  refine paints_drawPanes (fun shown mem pane _ row col n band last => ?_) frame
  obtain ⟨⟨top, -⟩, spans⟩ := band
  have left := spans.left
  rcases precedes shown mem with leftOf | above <;> omega

theorem paints_dividers {id : PaneId} (shown : (id, rect) ∈ session.paneRects) (room : rect.HasRoom) (grid : Grid) :
    grid.Paints (fun row col n => row = rect.y + (rect.h - 1) → col + n ≤ rect.x ∨ rect.x + rect.w ≤ col)
      ((if session.zoomed then [] else session.layout.dividers session.area).foldl drawDivider grid) := by
  refine .foldl (fun divider mem grid => (paints_drawDivider grid divider).mono ?_) grid
  rintro row col n ⟨covered, rfl⟩ last
  have apart := not_covers_paneRects mem shown covered
  have lines := room.2
  unfold Rect.Covers at apart
  dsimp only at apart
  omega

theorem Fitted.showsAt_drawPanes (fitted : session.Fitted) (room : rect.HasRoom)
    (shown : (session.active, rect) ∈ session.paneRects) :
    session.drawPanes.ShowsAt rect.x (rect.y + (rect.h - 1))
      (Row.written session.activePane.status.2 rect.w session.activePane.status.1) := by
  obtain ⟨front, back, rects⟩ := List.append_of_mem shown
  have precedes : ∀ later ∈ back, rect.Precedes later.2 := by
    have order := session.paneRects_pairwise
    rw [rects] at order
    exact (List.pairwise_cons.1 (List.pairwise_append.1 order).2.1).1
  have before : (Grid.blank session.cols session.rows).Paints (fun _ _ _ => True)
      (front.foldl session.drawPane ⟨.blank session.cols session.rows, (0, 0)⟩).grid :=
    paints_drawPanes (fun _ _ _ _ _ _ _ _ => trivial) ⟨.blank session.cols session.rows, (0, 0)⟩
  have own := fitted.showsAt_drawPane room shown before
  have columns := room.1
  have length := Row.length_written session.activePane.status.2 rect.w session.activePane.status.1
  have kept := own.paints (by omega) (session.paints_later precedes _) fun col n painted => by
    rw [length]
    exact .inr (painted rfl)
  unfold drawPanes
  rw [rects, List.foldl_append, List.foldl_cons]
  exact kept.paints (by omega) (paints_dividers shown room _) fun col n painted => by
    rw [length]
    exact painted rfl

theorem Fitted.showsAt_frame (fitted : session.Fitted) (running : session.exited = false) (room : rect.HasRoom)
    (shown : (session.active, rect) ∈ session.paneRects) :
    session.draw.grid.ShowsAt rect.x (rect.y + (rect.h - 1)) (session.statusCells rect.w) := by
  have found := lookup_of_mem fitted.toWhole.nodup_paneRects shown
  rw [session.draw_grid running, found]
  unfold statusCells
  cases session.overlayText? with
  | none => exact fitted.showsAt_drawPanes room shown
  | some text =>
      have lies := session.liesIn_paneRects _ shown
      obtain ⟨⟨row, here, inRow⟩, inGrid⟩ := row_of_paints fitted.paints_panes lies room
      exact (Grid.showsAt_fill here room.1 inRow inGrid).putText room.1 inGrid text _

section Snapshot

theorem getLast?_rowsOf {grid : Grid} (room : rect.HasRoom) {cells : Row} (wide : cells.length = rect.w)
    (shows : grid.ShowsAt rect.x (rect.y + (rect.h - 1)) cells) :
    (Snapshot.rowsOf grid rect).getLast? = some (Blank.trimEnd (Row.text cells)) := by
  obtain ⟨row, here, -, slice⟩ := shows
  have last : List.range rect.h = List.range (rect.h - 1) ++ [rect.h - 1] := by
    rw [← List.range_succ, Nat.succ_eq_add_one, Nat.sub_add_cancel room.2]
  unfold Snapshot.rowsOf
  rw [last, List.map_append, List.map_singleton, List.getLast?_concat, here, Option.getD_some, ← wide,
    slice]

theorem length_statusCells (session : Session) (columns : Nat) :
    (session.statusCells columns).length = columns := by
  unfold statusCells
  split <;> exact Row.length_written ..

/-- A text without characters that take no column is at most as long as it is wide. -/
theorem length_le_textWidth {text : List Char} (drawn : ∀ c ∈ text, Unicode.width c = 1 ∨ Unicode.width c = 2) :
    text.length ≤ textWidth text := by
  induction text with
  | nil => exact Nat.le_refl 0
  | cons c text ih =>
      obtain ⟨first, others⟩ := List.forall_mem_cons.1 drawn
      have rest := ih others
      rw [List.length_cons, textWidth]
      omega

/-- A status that fits its row is the text of it, but for blanks at the end. -/
theorem text_statusCells {columns : Nat} (width : session.activePane.width = columns)
    (drawn : ∀ c ∈ session.status, Unicode.width c = 1 ∨ Unicode.width c = 2)
    (fits : textWidth session.status ≤ columns) :
    Blank.trimEnd (Row.text (session.statusCells columns)) = Blank.trimEnd session.status := by
  unfold statusCells
  unfold status at drawn fits ⊢
  generalize session.overlayText? = overlay at drawn fits ⊢
  cases overlay with
  | some text =>
      dsimp only at drawn fits ⊢
      rw [Row.text_written _ fits drawn, Blank.trimEnd_append_spaces]
  | none =>
      dsimp only at drawn fits ⊢
      rw [width] at drawn fits ⊢
      split_ifs at drawn fits ⊢ with cut
      · have length := length_le_textWidth drawn
        have full : textWidth (session.activePane.status.1.take columns) = columns := by
          by_cases short : session.activePane.status.1.length ≤ columns
          · rw [List.take_of_length_le short] at fits
            omega
          · rw [List.length_take_of_le (by omega)] at length
            omega
        have text := Row.text_written_full session.activePane.status.2 full drawn
          (session.activePane.status.1.drop columns)
        rw [List.take_append_drop] at text
        rw [text]
      · rw [Row.text_written _ fits drawn, Blank.trimEnd_append_spaces]

end Snapshot

/-- The last row of a visible active pane shows the status row, or what is drawn over it, up to the character for
which there is no room; and the status of the snapshot is that row if every character of it takes a column or
two and they all have room. -/
theorem Operated.status_drawn (operated : Operated setup text session) (running : session.exited = false)
    (shown : (session.active, rect) ∈ session.paneRects) :
    (Snapshot.capture session).paneLines.getLast? =
        some (Blank.trimEnd (Row.text (session.statusCells rect.w))) ∧
      ((∀ c ∈ session.status, Unicode.width c = 1 ∨ Unicode.width c = 2) →
        textWidth session.status ≤ rect.w →
          (Snapshot.capture session).paneLines.getLast? = some (Snapshot.capture session).status) := by
  have fitted := operated.fitted
  have room := operated.hasRoom shown
  have frame := fitted.showsAt_frame running room shown
  have found := lookup_of_mem fitted.toWhole.nodup_paneRects shown
  have last : (Snapshot.capture session).paneLines.getLast? =
      some (Blank.trimEnd (Row.text (session.statusCells rect.w))) := by
    unfold Snapshot.capture
    dsimp only
    rw [running, found]
    exact getLast?_rowsOf room (length_statusCells session rect.w) frame
  refine ⟨last, fun drawn fits => ?_⟩
  rw [last, text_statusCells (fitted.size_activePane shown).1 drawn fits]
  rfl

/-- Double-width characters at a prompt that has room for them. -/
theorem status_drawn_narrow :
    ∃ session, Operated { cols := 13, rows := 3 } "ab".toList session ∧ session.exited = false ∧
      (session.active, ⟨7, 0, 6, 3⟩) ∈ session.paneRects ∧ session.status = ":日本".toList ∧
        (Snapshot.capture session).paneLines.getLast? = some (Snapshot.capture session).status := by
  have fresh : Operated { cols := 13, rows := 3 } "ab".toList _ := .start rfl
  have typed := fresh.handleKeys [.ctrl 'b', .char '%', .char ':', .char '日', .char '本']
  have shown := @Operated.status_drawn _ _ _ ⟨7, 0, 6, 3⟩ typed (by decide +kernel) (by decide +kernel)
  refine ⟨_, typed, by decide +kernel, by decide +kernel, by decide +kernel, shown.2 (fun c mem => ?_) ?_⟩
  · refine of_decide_eq_true ((List.all_eq_true (p := fun c => Unicode.width c = 1 ∨ Unicode.width c = 2)).1 ?_ c mem)
    decide +kernel
  · decide +kernel

/-- A question is cut on the screen only, and a prompt of double-width characters after as many of them as the
pane has columns. -/
theorem status_not_drawn :
    (∃ session, Operated { cols := 10, rows := 2 } [] session ∧ session.exited = false ∧
      session.paneRects = [(session.active, ⟨0, 0, 10, 2⟩)] ∧
        (Snapshot.capture session).paneLines.getLast? = some "kill-pane".toList ∧
          (Snapshot.capture session).status = "kill-pane 0? (y/n)".toList) ∧
    ∃ session, Operated { cols := 4, rows := 2 } [] session ∧ session.exited = false ∧
      session.paneRects = [(session.active, ⟨0, 0, 4, 2⟩)] ∧
        (Snapshot.capture session).paneLines.getLast? = some ":日".toList ∧
          (Snapshot.capture session).status = ":日本語".toList := by
  constructor
  · have fresh : Operated { cols := 10, rows := 2 } [] _ := .start rfl
    exact ⟨_, fresh.handleKeys [.char 'i', .char 'x', .plain .escape, .ctrl 'b', .char 'x'], by decide +kernel⟩
  · have fresh : Operated { cols := 4, rows := 2 } [] _ := .start rfl
    exact ⟨_, fresh.handleKeys [.char ':', .char '日', .char '本', .char '語'], by decide +kernel⟩

end Session

end ModalPanes
