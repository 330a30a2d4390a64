import ModalPanes.Proofs.Screen.Rows
import ModalPanes.Text.Numeral

/-!
# Text that is painted onto a row

Filling a row and writing text onto it paint strokes between two columns.  On blank cells the result is known
cell by cell: every character that takes room, up to the one that does not fit.
-/

namespace ModalPanes

namespace Row

variable {text : List Char}

theorem paints_fill (row : Row) (x count : Nat) :
    row.Paints (fun col n => (x ≤ col ∧ col + n ≤ x + count) ∧ n = 1) (row.fill .blank x count) := by
  induction count generalizing row x with
  | zero => exact .refl
  | succ count ih =>
      have first : row.Paints (fun col n => (x ≤ col ∧ col + n ≤ x + (count + 1)) ∧ n = 1) (row.put x .blank) :=
        .single .refl (by decide) (by decide) (by omega)
      exact first.trans ((ih (row.put x .blank) (x + 1)).mono fun col n inside => by omega)

theorem paints_putText (attr : Attr) (limit : Nat) (row : Row) (x : Nat) (text : List Char) :
    row.Paints (fun col n => x ≤ col ∧ col + n ≤ limit) (putText attr limit row x text).1 := by
  induction text generalizing row x with
  | nil => exact .refl
  | cons c text ih =>
      unfold putText
      dsimp only
      split_ifs with full none last wide
      · exact .refl
      · exact ih row x
      · exact .single .refl (by decide) (by decide) (by omega)
      · have first : row.Paints (fun col n => x ≤ col ∧ col + n ≤ limit)
            ((row.put x (.styled c attr)).put (x + 1) (.continuation attr)) :=
          .double .refl wide (by omega)
        exact first.trans ((ih _ _).mono fun col n inside => by omega)
      · have first : row.Paints (fun col n => x ≤ col ∧ col + n ≤ limit) (row.put x (.styled c attr)) :=
          .single .refl none wide (by omega)
        exact first.trans ((ih _ _).mono fun col n inside => by omega)

theorem getElem?_fill (row : Row) {x count : Nat} (positive : 0 < count) (inside : x + count ≤ row.length) :
    (row.fill .blank x count).Whole x (x + count) ∧
      ∀ y, x ≤ y → y < x + count → (row.fill .blank x count)[y]? = some .blank := by
  induction count generalizing row x with
  | zero => contradiction
  | succ count ih =>
      have within : x < row.length := by omega
      have whole : (row.put x .blank).Whole x (x + 1) := by
        constructor
        · rw [continues_put within, if_pos rfl]
          rfl
        · rw [continues_put within, if_neg (by omega), if_pos (.inl rfl)]
      have here : (row.put x .blank)[x]? = some .blank := by
        rw [getElem?_put within, if_pos rfl]
      obtain ⟨kept, same⟩ := (paints_fill (row.put x .blank) (x + 1) count).whole whole (by omega)
        fun col n painted => by omega
      have first : (fill .blank (row.put x .blank) (x + 1) count)[x]? = some .blank :=
        (same x (by omega) (by omega)).trans here
      change (fill .blank (row.put x .blank) (x + 1) count).Whole x (x + (count + 1)) ∧ _
      cases count with
      | zero =>
          refine ⟨whole, fun y from' upTo => ?_⟩
          obtain rfl : y = x := by omega
          exact first
      | succ count =>
          obtain ⟨later, blanks⟩ := ih (row.put x .blank) (x := x + 1) (by omega) (by rw [length_put]; omega)
          refine ⟨⟨kept.left, ?_⟩, fun y from' upTo => ?_⟩
          · rw [show x + (count + 1 + 1) = x + 1 + (count + 1) by omega]
            exact later.right
          · by_cases start : y = x
            · rw [start]
              exact first
            · exact blanks y (by omega) (by omega)

/-- The cells of a character that is written onto `n` blank cells.  What a still wider one does not use of them
stays blank. -/
def charCells (attr : Attr) (n : Nat) (c : Char) : Row :=
  .styled c attr ::
    if Unicode.width c = 2 then [.continuation attr] else List.replicate (min (Unicode.width c) n - 1) .blank

/-- The cells of a text that is written onto `n` blank cells. -/
def written (attr : Attr) (n : Nat) : List Char → Row
  | [] => List.replicate n .blank
  | c :: rest =>
      let w := Unicode.width c
      if n = 0 then []
      else if w = 0 then written attr n rest
      else if w = 2 ∧ n = 1 then [.styled ' ' attr]
      else charCells attr n c ++ written attr (n - w) rest

theorem length_charCells (attr : Attr) {n : Nat} {c : Char} (takes : Unicode.width c ≠ 0)
    (fits : ¬ (Unicode.width c = 2 ∧ n = 1)) (room : n ≠ 0) :
    (charCells attr n c).length = min (Unicode.width c) n := by
  unfold charCells
  rw [List.length_cons]
  split_ifs with wide
  · rw [wide, List.length_singleton]
    omega
  · rw [List.length_replicate]
    omega

@[simp] theorem written_zero (attr : Attr) (text : List Char) : written attr 0 text = [] := by
  cases text <;> rfl

@[simp] theorem length_written (attr : Attr) (n : Nat) (text : List Char) : (written attr n text).length = n := by
  induction text generalizing n with
  | nil => simp [written]
  | cons c text ih =>
      unfold written
      dsimp only
      split_ifs with none empty last
      · exact none.symm
      · exact ih n
      · exact last.2.symm
      · rw [List.length_append, length_charCells attr empty last none, ih]
        omega

theorem continues_written (attr : Attr) (n : Nat) (text : List Char) :
    (written attr n text).continues 0 = false := by
  induction text generalizing n with
  | nil => cases n <;> rfl
  | cons c text ih =>
      unfold written
      dsimp only
      split_ifs
      · rfl
      · exact ih n
      · rfl
      · rfl

theorem continues_append (front rest : Row) (k : Nat) :
    (front ++ rest).continues (front.length + k) = rest.continues k := by
  unfold continues
  rw [List.getElem?_append_right (Nat.le_add_right _ k), Nat.add_sub_cancel_left]

/-- Where no character is cut, a cell is written without effect on others. -/
theorem put_append (cell old : Cell) (front rest : Row) (plain : old.isContinuation = false)
    (behind : rest.continues 0 = false) :
    (front ++ old :: rest).put front.length cell = front ++ cell :: rest := by
  have first : (front ++ old :: rest).continues front.length = false :=
    (continues_append front (old :: rest) 0).trans plain
  have second : (front ++ old :: rest).continues (front.length + 1) = false :=
    (continues_append front (old :: rest) 1).trans behind
  apply List.ext_getElem?
  intro y
  rw [getElem?_put (by simp)]
  simp only [first, second, Bool.false_eq_true, and_false, if_false]
  split_ifs with here
  · simp [here]
  · rcases Nat.lt_or_gt_of_ne here with before | after
    · rw [List.getElem?_append_left before, List.getElem?_append_left before]
    · rw [List.getElem?_append_right (Nat.le_of_lt after), List.getElem?_append_right (Nat.le_of_lt after)]
      obtain ⟨k, rfl⟩ := Nat.exists_eq_add_of_lt after
      rw [show front.length + k + 1 - front.length = k + 1 by omega]
      rfl

theorem putText_of_le (attr : Attr) {limit x : Nat} (full : limit ≤ x) (row : Row) (text : List Char) :
    putText attr limit row x text = (row, x) := by
  cases text with
  | nil => rfl
  | cons c text => exact if_pos full

theorem continues_replicate {rest : Row} (behind : rest.continues 0 = false) (n : Nat) :
    Row.continues (List.replicate n .blank ++ rest) 0 = false := by
  cases n with
  | zero => exact behind
  | succ n => rfl

/-- A character that has room is written onto the first blank cells. -/
theorem put_blanks (attr : Attr) (front rest : Row) {n : Nat} {c : Char} (takes : Unicode.width c ≠ 0)
    (fits : ¬ (Unicode.width c = 2 ∧ n = 1)) (room : n ≠ 0) (behind : rest.continues 0 = false) :
    (if Unicode.width c = 2 then
        ((front ++ (List.replicate n Cell.blank ++ rest)).put front.length (.styled c attr)).put (front.length + 1)
          (.continuation attr)
      else (front ++ (List.replicate n Cell.blank ++ rest)).put front.length (.styled c attr)) =
      front ++ (charCells attr n c ++ (List.replicate (n - Unicode.width c) .blank ++ rest)) := by
  obtain ⟨n, rfl⟩ := Nat.exists_eq_succ_of_ne_zero room
  have first := put_append (.styled c attr) .blank front (List.replicate n .blank ++ rest) rfl
    (continues_replicate behind n)
  unfold charCells
  rw [List.replicate_succ, List.cons_append, first]
  split_ifs with wide
  · obtain ⟨n, rfl⟩ : ∃ m, n = m + 1 := ⟨n - 1, by omega⟩
    have second := put_append (.continuation attr) .blank (front ++ [.styled c attr])
      (List.replicate n .blank ++ rest) rfl (continues_replicate behind n)
    rw [List.length_append, List.append_assoc, List.append_assoc] at second
    rw [wide]
    exact second
  · have blanks : List.replicate n Cell.blank =
        List.replicate (min (Unicode.width c) (n + 1) - 1) .blank ++
          List.replicate (n + 1 - Unicode.width c) .blank := by
      rw [List.replicate_append_replicate]
      congr 1
      omega
    rw [blanks, List.append_assoc]
    rfl

/-- On blank cells between whole characters, the text is written cell by cell. -/
theorem putText_blanks (attr : Attr) (front rest : Row) (n : Nat) (text : List Char)
    (behind : rest.continues 0 = false) :
    (putText attr (front.length + n) (front ++ (List.replicate n .blank ++ rest)) front.length text).1 =
      front ++ (written attr n text ++ rest) := by
  induction text generalizing front n with
  | nil => rfl
  | cons c text ih =>
      by_cases room : n = 0
      · subst room
        rw [Nat.add_zero, putText_of_le attr (Nat.le_refl _), written_zero]
        rfl
      rw [putText, if_neg (show ¬ front.length + n ≤ front.length by omega), written]
      dsimp only
      rw [if_neg room]
      by_cases takes : Unicode.width c = 0
      · rw [if_pos takes, if_pos takes]
        exact ih front n
      rw [if_neg takes, if_neg takes]
      by_cases last : Unicode.width c = 2 ∧ n = 1
      · obtain ⟨wide, rfl⟩ := last
        rw [if_pos ⟨wide, Nat.le_refl _⟩, if_pos ⟨wide, rfl⟩]
        exact put_append _ .blank front rest rfl behind
      rw [if_neg (show ¬ (Unicode.width c = 2 ∧ front.length + n ≤ front.length + 1) by omega), if_neg last,
        put_blanks attr front rest takes last room behind]
      have length := length_charCells attr takes last room
      by_cases large : n ≤ Unicode.width c
      · rw [putText_of_le attr (by omega), Nat.sub_eq_zero_of_le large, written_zero, List.append_nil]
        rfl
      · have later := ih (front ++ charCells attr n c) (n - Unicode.width c)
        rw [List.length_append, length, Nat.min_eq_left (Nat.le_of_not_le large), List.append_assoc,
          List.append_assoc, Nat.add_assoc, Nat.add_sub_cancel' (Nat.le_of_not_le large)] at later
        rw [List.append_assoc]
        exact later

/-- These cells stand in the columns from `x` on, and no character is cut at their edges. -/
structure Shows (row : Row) (x : Nat) (cells : Row) : Prop where
  whole : row.Whole x (x + cells.length)
  slice : (row.drop x).take cells.length = cells

theorem shows_fill (row : Row) {x count : Nat} (positive : 0 < count) (inside : x + count ≤ row.length) :
    (row.fill .blank x count).Shows x (List.replicate count .blank) := by
  obtain ⟨whole, blanks⟩ := getElem?_fill row positive inside
  constructor
  · rw [List.length_replicate]
    exact whole
  · rw [List.length_replicate]
    apply List.ext_getElem?
    intro k
    rw [List.getElem?_take, List.getElem?_drop, List.getElem?_replicate]
    split_ifs with within
    · exact blanks _ (by omega) (by omega)
    · rfl

/-- Strokes beside them leave the cells as they are. -/
theorem Shows.paints {row next cells : Row} {x : Nat} {ok : Nat → Nat → Prop} (shows : row.Shows x cells)
    (positive : 0 < cells.length) (paints : row.Paints ok next)
    (beside : ∀ col n, ok col n → col + n ≤ x ∨ x + cells.length ≤ col) : next.Shows x cells := by
  obtain ⟨whole, same⟩ := paints.whole shows.whole (by omega) beside
  refine ⟨whole, Eq.trans ?_ shows.slice⟩
  apply List.ext_getElem?
  intro k
  rw [List.getElem?_take, List.getElem?_take, List.getElem?_drop, List.getElem?_drop]
  split_ifs with within
  · exact same _ (by omega) (by omega)
  · rfl

/-- Text on blank cells between whole characters is written cell by cell. -/
theorem Shows.putText {row : Row} {x n : Nat} (shows : row.Shows x (List.replicate n .blank)) (positive : 0 < n)
    (attr : Attr) (text : List Char) :
    (putText attr (x + n) row x text).1.Shows x (written attr n text) := by
  obtain ⟨whole, slice⟩ := shows
  rw [List.length_replicate] at whole slice
  obtain ⟨front, rest, long, parts⟩ : ∃ front rest : Row, front.length = x ∧
      row = front ++ (List.replicate n .blank ++ rest) := by
    refine ⟨row.take x, row.drop (x + n), ?_, ?_⟩
    · have length := congrArg List.length slice
      rw [List.length_take, List.length_drop, List.length_replicate] at length
      rw [List.length_take]
      omega
    · rw [← slice, ← List.drop_drop, List.take_append_drop, List.take_append_drop]
  subst long parts
  have behind : rest.continues 0 = false := by
    have right := whole.right
    rwa [← List.append_assoc, show front.length + n = (front ++ List.replicate n Cell.blank).length + 0 by simp,
      continues_append] at right
  have left : Row.continues (written attr n text ++ rest) 0 = false := by
    have first := continues_written attr n text
    obtain ⟨cell, cells, shown⟩ := List.exists_cons_of_length_pos
      (show 0 < (written attr n text).length by rwa [length_written])
    rw [shown] at first ⊢
    exact first
  rw [putText_blanks attr front rest n text behind]
  constructor
  · constructor
    · exact (continues_append front _ 0).trans left
    · rw [← List.append_assoc, ← List.length_append, ← Nat.add_zero (front ++ written attr n text).length,
        continues_append]
      exact behind
  · simp

section Text

theorem text_append (front rest : Row) : Row.text (front ++ rest) = Row.text front ++ Row.text rest :=
  List.filterMap_append

theorem text_replicate (n : Nat) : Row.text (List.replicate n .blank) = List.replicate n ' ' := by
  induction n with
  | zero => rfl
  | succ n ih => exact congrArg (' ' :: ·) ih

theorem text_written_append (attr : Attr) {n : Nat} (fits : textWidth text ≤ n)
    (drawn : ∀ c ∈ text, Unicode.width c = 1 ∨ Unicode.width c = 2) (more : List Char) :
    Row.text (written attr n (text ++ more)) = text ++ Row.text (written attr (n - textWidth text) more) := by
  induction text generalizing n with
  | nil => rfl
  | cons c text ih =>
      have takes := drawn c List.mem_cons_self
      have wide : textWidth (c :: text) = Unicode.width c + textWidth text := rfl
      have rest := ih (n := n - Unicode.width c) (by omega) fun d mem => drawn d (List.mem_cons_of_mem c mem)
      have cells : Row.text (charCells attr n c) = [c] := by
        unfold charCells
        split_ifs
        · rfl
        · rw [show min (Unicode.width c) n - 1 = 0 by omega]
          rfl
      rw [List.cons_append, written]
      rw [if_neg (by omega), if_neg (by omega), if_neg (by omega), text_append, cells, rest, wide, ← Nat.sub_sub]
      rfl

theorem text_written (attr : Attr) {n : Nat} (fits : textWidth text ≤ n)
    (drawn : ∀ c ∈ text, Unicode.width c = 1 ∨ Unicode.width c = 2) :
    Row.text (written attr n text) = text ++ List.replicate (n - textWidth text) ' ' := by
  rw [← text_replicate, ← List.append_nil text, text_written_append attr fits drawn, List.append_nil]
  rfl

/-- What is behind a text that fills the cells is not seen. -/
theorem text_written_full (attr : Attr) {n : Nat} (full : textWidth text = n)
    (drawn : ∀ c ∈ text, Unicode.width c = 1 ∨ Unicode.width c = 2) (more : List Char) :
    Row.text (written attr n (text ++ more)) = text := by
  rw [text_written_append attr (Nat.le_of_eq full) drawn, full, Nat.sub_self, written_zero]
  exact List.append_nil text

end Text

end Row

theorem Blank.trimEnd_append_spaces (text : List Char) (n : Nat) :
    trimEnd (text ++ List.replicate n ' ') = trimEnd text := by
  induction n with
  | zero => rw [List.replicate_zero, List.append_nil]
  | succ n ih =>
      rw [List.replicate_succ', ← List.append_assoc, ← ih, trimEnd, List.reverse_append]
      rfl

end ModalPanes
