import Mathlib.Tactic.SplitIfs
import ModalPanes.View.TextArea

/-!
# Where the glyphs of a line are placed

Every glyph is as wide as its character.  Cutting a line at the edges of a window leaves only whole glyphs inside
of them, but wrapping leaves one glyph in every row however narrow it is: a double-width character is wider than
a text area of one column, and any is wider than one of none.
-/

namespace ModalPanes

namespace Glyph

variable {line : List Char} {glyph : Glyph} {glyphs : List Glyph}

/-- A glyph is as wide as its character, and a double-width one is a character of the line. -/
structure Shows (line : List Char) (glyph : Glyph) : Prop where
  width : glyph.width = Unicode.width glyph.char
  positive : 0 < glyph.width
  wide : glyph.width = 2 → glyph.char ∈ line

/-- A glyph of one cell need not be of the line. -/
theorem shows_of_width {c : Char} (col : Option Nat) (one : Unicode.width c = 1) : Shows line ⟨col, c, 1⟩ where
  width := one.symm
  positive := Nat.one_pos
  wide := by rintro ⟨⟩

theorem width_controlSign {c : Char} (control : Unicode.isControl c = true) :
    Unicode.width (controlSign c) = 1 := by
  have signs : ∀ n < 160, (n < 32 || (127 ≤ n && n < 160)) = true →
      Unicode.width (Char.ofNat (n ^^^ 0x40)) = 1 := by decide +kernel
  refine signs c.toNat ?_ control
  simp only [Unicode.isControl, Bool.or_eq_true, Bool.and_eq_true, decide_eq_true_eq] at control
  omega

theorem shows_ofChar {tabStop start col : Nat} {c : Char} (mem : glyph ∈ ofChar tabStop start col c)
    (inLine : c ∈ line) : glyph.Shows line := by
  unfold ofChar at mem
  dsimp only at mem
  split_ifs at mem with tab control none
  · obtain ⟨-, rfl⟩ := List.mem_replicate.1 mem
    exact shows_of_width _ (by decide)
  · rcases List.mem_cons.1 mem with rfl | mem
    · exact shows_of_width _ (by decide)
    · obtain rfl := List.mem_singleton.1 mem
      exact shows_of_width _ (width_controlSign control)
  · contradiction
  · obtain rfl := List.mem_singleton.1 mem
    have width : cellWidth tabStop start c = Unicode.width c := by
      unfold cellWidth
      rw [if_neg tab, if_neg control]
    exact ⟨width, Nat.pos_of_ne_zero none, fun _ => inLine⟩

theorem shows_ofTextFrom {text : List Char} {tabStop start col : Nat}
    (mem : glyph ∈ ofTextFrom tabStop start col text) (inLine : ∀ c ∈ text, c ∈ line) : glyph.Shows line := by
  induction text generalizing start col with
  | nil => contradiction
  | cons c text ih =>
      rcases List.mem_append.1 mem with mem | mem
      · exact shows_ofChar mem (inLine c List.mem_cons_self)
      · exact ih mem fun d inText => inLine d (List.mem_cons_of_mem c inText)

theorem shows_ofLine {tabStop : Nat} (mem : glyph ∈ ofLine tabStop line) : glyph.Shows line :=
  shows_ofTextFrom mem fun _ inLine => inLine

section Rows

theorem shows_wrapFrom (width used : Nat) (shows : ∀ glyph ∈ glyphs, glyph.Shows line) :
    (∀ glyph ∈ (wrapFrom width used glyphs).1, glyph.Shows line) ∧
      ∀ row ∈ (wrapFrom width used glyphs).2, ∀ glyph ∈ row, glyph.Shows line := by
  induction glyphs generalizing used with
  | nil => simp [wrapFrom]
  | cons glyph glyphs ih =>
      obtain ⟨first, others⟩ := List.forall_mem_cons.1 shows
      unfold wrapFrom
      dsimp only
      split_ifs
      · obtain ⟨present, later⟩ := ih glyph.width others
        refine ⟨fun filler mem => ?_, ?_⟩
        · obtain ⟨-, rfl⟩ := List.mem_replicate.1 mem
          exact shows_of_width _ (by decide)
        · rw [List.forall_mem_cons, List.forall_mem_cons]
          exact ⟨⟨first, present⟩, later⟩
      · obtain ⟨present, later⟩ := ih (used + glyph.width) others
        exact ⟨List.forall_mem_cons.2 ⟨first, present⟩, later⟩

theorem shows_clipFrom {left right start : Nat} (shows : ∀ glyph ∈ glyphs, glyph.Shows line) :
    ∀ glyph ∈ clipFrom left right start glyphs, glyph.Shows line := by
  induction glyphs generalizing start with
  | nil => simp [clipFrom]
  | cons glyph glyphs ih =>
      obtain ⟨first, others⟩ := List.forall_mem_cons.1 shows
      intro shown mem
      rcases List.mem_append.1 mem with mem | mem
      · split_ifs at mem
        · obtain ⟨-, rfl⟩ := List.mem_replicate.1 mem
          exact shows_of_width _ (by decide)
        · obtain rfl := List.mem_singleton.1 mem
          exact first
        · contradiction
      · exact ih others shown mem

theorem placed_append (start : Nat) (front rest : List Glyph) :
    placed start (front ++ rest) = placed start front ++ placed (start + total front) rest := by
  induction front generalizing start with
  | nil => rfl
  | cons glyph front ih =>
      rw [List.cons_append, placed, ih, total_cons, Nat.add_assoc]
      rfl

theorem placed_bounds {start : Nat} {spot : Nat × Glyph} (mem : spot ∈ placed start glyphs) :
    (start ≤ spot.1 ∧ spot.1 + spot.2.width ≤ start + total glyphs) ∧ spot.2 ∈ glyphs := by
  induction glyphs generalizing start with
  | nil => contradiction
  | cons glyph glyphs ih =>
      rw [total_cons]
      rcases List.mem_cons.1 mem with rfl | mem
      · exact ⟨⟨Nat.le_refl _, by dsimp only; omega⟩, List.mem_cons_self⟩
      · obtain ⟨bounds, inRest⟩ := ih mem
        exact ⟨by omega, List.mem_cons_of_mem glyph inRest⟩

theorem total_replicate (n : Nat) (glyph : Glyph) : total (List.replicate n glyph) = n * glyph.width := by
  induction n with
  | zero => exact (Nat.zero_mul _).symm
  | succ n ih => rw [List.replicate_succ, total_cons, ih, Nat.succ_mul, Nat.add_comm]

theorem total_clipFrom (left right start : Nat) (glyphs : List Glyph) :
    total (clipFrom left right start glyphs) ≤ right - max start left := by
  induction glyphs generalizing start with
  | nil => exact Nat.zero_le _
  | cons glyph glyphs ih =>
      have rest := ih (start + glyph.width)
      unfold clipFrom
      dsimp only
      rw [total_append]
      split_ifs
      · rw [total_replicate]
        dsimp only
        omega
      · rw [total_cons, total_nil]
        omega
      · rw [total_nil]
        omega

/-- A glyph fits in the row that starts at a cell, or it is the first one there. -/
def FitsOrStarts (base width : Nat) (spot : Nat × Glyph) : Prop :=
  base ≤ spot.1 ∧ (spot.1 + spot.2.width ≤ base + width ∨ spot.1 = base)

theorem placed_wrapFrom (base width used : Nat) (glyphs : List Glyph) :
    (∀ spot ∈ placed (base + used) (wrapFrom width used glyphs).1, FitsOrStarts base width spot) ∧
      ∀ row ∈ (wrapFrom width used glyphs).2, ∀ spot ∈ placed base row, FitsOrStarts base width spot := by
  induction glyphs generalizing used with
  | nil => simp [wrapFrom, placed]
  | cons glyph glyphs ih =>
      unfold wrapFrom
      dsimp only
      split_ifs with full
      · obtain ⟨present, later⟩ := ih glyph.width
        refine ⟨fun spot mem => ?_, ?_⟩
        · obtain ⟨⟨from', upTo⟩, inFillers⟩ := placed_bounds mem
          have room := (List.mem_replicate.1 inFillers).1
          rw [total_replicate, show (filler '>').width = 1 from rfl] at upTo
          exact ⟨by omega, .inl (by omega)⟩
        · rw [List.forall_mem_cons, placed, List.forall_mem_cons]
          exact ⟨⟨⟨Nat.le_refl base, .inr rfl⟩, present⟩, later⟩
      · obtain ⟨present, later⟩ := ih (used + glyph.width)
        rw [← Nat.add_assoc] at present
        rw [placed, List.forall_mem_cons]
        exact ⟨⟨⟨Nat.le_add_right base used, by dsimp only; omega⟩, present⟩, later⟩

end Rows

end Glyph

namespace TextArea

variable {area : TextArea} {line : List Char} {left : Nat} {row : List Glyph}

theorem shows_rowsOf (mem : row ∈ area.rowsOf line left) : ∀ glyph ∈ row, glyph.Shows line := by
  unfold rowsOf at mem
  dsimp only at mem
  split_ifs at mem
  · have shows : ∀ glyph ∈ Glyph.ofLine area.tabStop line, glyph.Shows line := fun _ => Glyph.shows_ofLine
    obtain ⟨present, later⟩ := Glyph.shows_wrapFrom (max area.width 1) 0 shows
    rcases List.mem_cons.1 mem with rfl | mem
    · exact present
    · exact later row mem
  · obtain rfl := List.mem_singleton.1 mem
    exact Glyph.shows_clipFrom fun glyph mem => Glyph.shows_ofLine mem

/-- Glyphs end inside of the text area, unless one that is wider starts a wrapped row. -/
theorem placed_rowsOf (mem : row ∈ area.rowsOf line left) {base : Nat} {spot : Nat × Glyph}
    (placed : spot ∈ Glyph.placed base row) :
    base ≤ spot.1 ∧ (spot.1 + spot.2.width ≤ base + area.width ∨ area.wrap = true ∧ spot.1 = base) := by
  have positive := (shows_rowsOf mem _ (Glyph.placed_bounds placed).2).positive
  unfold rowsOf at mem
  dsimp only at mem
  split_ifs at mem with wrap
  · have fits : Glyph.FitsOrStarts base (max area.width 1) spot := by
      obtain ⟨present, later⟩ := Glyph.placed_wrapFrom base (max area.width 1) 0 (Glyph.ofLine area.tabStop line)
      rcases List.mem_cons.1 mem with rfl | mem
      · exact present spot placed
      · exact later row mem spot placed
    obtain ⟨from', place⟩ := fits
    refine ⟨from', ?_⟩
    by_cases columns : area.width = 0
    · exact .inr ⟨wrap, by omega⟩
    · rcases place with inside | first
      · exact .inl (by omega)
      · exact .inr ⟨wrap, first⟩
  · obtain rfl := List.mem_singleton.1 mem
    have bounds := (Glyph.placed_bounds placed).1
    have total := Glyph.total_clipFrom left (left + area.width) 0 (Glyph.ofLine area.tabStop line)
    unfold Glyph.clip at bounds
    exact ⟨bounds.1, .inl (by omega)⟩

end TextArea

end ModalPanes
