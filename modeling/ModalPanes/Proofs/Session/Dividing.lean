import ModalPanes.Proofs.Layout.Innermost
import ModalPanes.Proofs.Session.Framing

/-!
# Dividers that keys move

A key that moves a divider gives the first part of a split a new number of cells, and the second part what is left of
them.  Both parts get some exactly if the split has cells for the second one besides those that the panes of the first
one need.  In a session that shows all of its panes every split has; but once panes have vanished, a split may be too
narrow for its first part, and then the new weights are out of range.
-/

namespace ModalPanes

namespace Session

variable {session : Session} {setup : Setup} {text : List Char} {key : Key} {side : Side} {amount : Nat}

theorem handleKey_of_dividerMove? (asked : session.dividerMove? key = some (side, amount))
    (running : session.exited = false) (quiet : session.overlay = none) :
    session.handleKey key = { session with led := false }.resizePane side amount := by
  unfold dividerMove? at asked
  split at asked
  · rename_i led
    obtain ⟨led, other⟩ := led
    obtain ⟨own, arrow, steps⟩ := Option.bind_eq_some_iff.1 asked
    unfold handleKey
    simp only [running, quiet, led, Bool.false_eq_true, if_false, if_true]
    unfold handleLed handleArrow
    dsimp only
    rw [if_neg other, arrow]
    dsimp only
    split at steps
    · rename_i small
      obtain ⟨rfl, rfl⟩ := Prod.mk.inj (Option.some.inj steps)
      rw [if_pos small]
    · rename_i notSmall
      split at steps
      · rename_i large
        obtain ⟨rfl, rfl⟩ := Prod.mk.inj (Option.some.inj steps)
        rw [if_neg notSmall, if_pos large]
      · cases steps
  · cases asked

theorem layout_resizePane (session : Session) (side : Side) (amount : Nat) :
    (session.resizePane side amount).layout =
      (session.layout.resize? session.active side amount session.area).getD session.layout := by
  unfold resizePane
  rw [unzoom_keeps]
  dsimp only [area]
  split <;> rename_i moved
  · rw [arrange_keeps, moved]
    rfl
  · rw [moved]
    rfl

/-- A key that moves a divider moves the one of the innermost split around the active pane.  Both parts of the split get
cells exactly if the panes of the first one leave some to the second one, which they do in a session that shows all of
its panes. -/
theorem Operated.divider_in_range (operated : Operated setup text session)
    (asked : session.dividerMove? key = some (side, amount)) (running : session.exited = false)
    (quiet : session.overlay = none) :
    (session.handleKey key).layout =
        ((session.layout.innermost? session.active side.kind session.area).bind
          (session.layout.movedAcross side amount)).getD session.layout ∧
      ∀ cut ∈ session.layout.innermost? session.active side.kind session.area,
        (cut.InRange (cut.moved side amount) ↔ cut.first.minExtent side.kind + 2 ≤ cut.total) ∧
          ((session.layout.rects session.area).map Prod.fst = session.layout.leaves →
            cut.InRange (cut.moved side amount)) := by
  have fitted := operated.fitted
  have active : session.layout.contains session.active = true :=
    (Layout.mem_leaves _ _).1 (fitted.toWhole.mem_leaves fitted.active)
  constructor
  · rw [handleKey_of_dividerMove? asked running quiet, layout_resizePane]
    show ((session.layout.resize? session.active side amount session.area).getD session.layout) = _
    unfold Layout.resize?
    rw [if_pos active, Layout.moveDivider?_eq_innermost?]
    congr 1
    cases session.layout.innermost? session.active side.kind session.area <;> rfl
  · intro cut found
    obtain ⟨rect, a, b, isAt⟩ := Layout.innermost?_at found
    have enough := isAt.inRange.moved_iff side amount
    refine ⟨enough, fun shown => enough.2 ?_⟩
    obtain ⟨size, wide, high⟩ := operated.area
    have room : session.area.HasRoom := by
      rw [size]
      exact ⟨Nat.le_of_succ_le wide, Nat.le_of_succ_le high⟩
    exact isAt.minExtent_le room ((Layout.fits_iff _ _).2 shown)

/-- Of four panes side by side, the third grows by one of the seven cells that it shares with the fourth. -/
theorem divider_in_range_nested :
    ∃ session, Operated { cols := 15, rows := 2 } [] session ∧
      session.dividerMove? ⟨.right, { ctrl := true }⟩ = some (.right, 1) ∧ session.exited = false ∧
        session.overlay = none ∧
          ∃ cut, session.layout.innermost? session.active .vertical session.area = some cut ∧
            cut.total = 7 ∧ cut.share = 3 ∧ cut.InRange (cut.moved .right 1) := by
  have fresh : Operated { cols := 15, rows := 2 } [] _ := .start rfl
  have nested := fresh.handleKeys (Key.readTyped "<C-b>%<C-b>%<C-b>".toList)
  have range := @Operated.divider_in_range _ _ _ ⟨.right, { ctrl := true }⟩ .right 1 nested (by decide +kernel)
    (by decide +kernel) (by decide +kernel)
  refine ⟨_, nested, by decide +kernel, by decide +kernel, by decide +kernel, ⟨[true], .leaf 1, .leaf 2, 7, 3⟩,
    by decide +kernel, rfl, rfl, ?_⟩
  exact (range.2 _ (by decide +kernel)).1.2 (by decide +kernel)

/-- Where a pane has vanished, a split of four cells gives three to its first part, and none to its second one; with two
columns less the split has three cells, and its first part gets all of them. -/
theorem divider_out_of_range :
    ∃ session narrow, start { cols := 26, rows := 2 } [] = .ok session ∧ start { cols := 24, rows := 2 } [] = .ok narrow ∧
      let keys := ("<C-b>%<C-b>o<C-b>%<C-b>o<C-b>o<C-b>%<C-b>o<C-b>o<C-b>o<C-b>%" ++
        "<C-b>o<C-b>o<C-b>o<C-b><M-Left><C-b>o<C-b>o<C-b>o<C-b>").toList
      let last := session.handleTyped keys
      let cut : Layout.Cut := ⟨[false, false], .split .vertical (1, 1) (.leaf 0) (.leaf 4), .leaf 3, 4, 2⟩
      (last.dividerMove? ⟨.right, { ctrl := true }⟩ = some (.right, 1) ∧
        last.layout.innermost? last.active .vertical last.area = some cut ∧
          cut.moved .right 1 = 3 ∧ ¬ cut.InRange 3 ∧
            ((last.handleKey ⟨.right, { ctrl := true }⟩).layout.nodeAt? last.area cut.path).map Prod.fst =
              some (.split .vertical (3, 0) cut.first cut.second)) ∧
      let last := narrow.handleTyped keys
      let cut := { cut with total := 3, share := 1 }
      last.dividerMove? ⟨.right, { ctrl := true }⟩ = some (.right, 1) ∧
        last.layout.innermost? last.active .vertical last.area = some cut ∧ cut.moved .right 1 = 3 :=
  ⟨_, _, rfl, rfl, by decide +kernel⟩

end Session

end ModalPanes
