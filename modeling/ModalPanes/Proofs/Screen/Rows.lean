import Mathlib.Data.List.Basic
import Mathlib.Tactic.SplitIfs
import ModalPanes.Screen.Grid

/-!
# Rows that are painted

A row is painted by strokes: a character in one cell, or a double-width character with its continuation in the
next one.  However strokes overlap, continuations stand right behind double-width characters and nowhere else,
so that the text of a row is as wide as the row unless its last cell has only the first half of a character.  A
stretch of cells that begins and ends with whole characters is not changed by strokes beside it.
-/

namespace ModalPanes

/-- The cell holds a double-width character. -/
def Cell.isWide (cell : Cell) : Bool := cell.char?.any fun c => Unicode.width c == 2

namespace Row

/-- Whether the cell in a column is a continuation. -/
def continues (row : Row) (x : Nat) : Bool := (row[x]?.map Cell.isContinuation).getD false

/-- Whether the cell in a column holds a double-width character. -/
def isWideAt (row : Row) (x : Nat) : Bool := (row[x]?.map Cell.isWide).getD false

/-- A cell is a continuation exactly if the cell on its left holds a double-width character, and every character
takes up some room. -/
structure Sound (row : Row) : Prop where
  first : row.continues 0 = false
  pairs : ∀ x, x + 1 < row.length → row.continues (x + 1) = row.isWideAt x
  visible : ∀ cell ∈ row, ∀ c ∈ cell.char?, Unicode.width c ≠ 0

variable {row next : Row} {x y : Nat} {cell : Cell}

theorem continues_of_le (outside : row.length ≤ x) : row.continues x = false := by
  simp [continues, outside]

theorem isWideAt_of_le (outside : row.length ≤ x) : row.isWideAt x = false := by
  simp [isWideAt, outside]

/-- A continuation shows nothing. -/
theorem isWideAt_of_continues (second : row.continues x = true) : row.isWideAt x = false := by
  unfold continues isWideAt at *
  cases here : row[x]? with
  | none => rfl
  | some cell =>
      obtain ⟨char?, attr⟩ := cell
      rw [here] at second
      cases char? with
      | none => rfl
      | some c => contradiction

section Put

theorem lt_of_continues (second : row.continues x = true) : x < row.length := by
  by_contra outside
  rw [continues_of_le (Nat.le_of_not_lt outside)] at second
  contradiction

/-- The first half of a character becomes a space when its second half is about to be written over. -/
def breakLeft (row : Row) (x : Nat) : Row :=
  if 0 < x && row.continues x then row.modify (x - 1) fun cell => { cell with char? := some ' ' } else row

theorem breakWide_eq (row : Row) (x : Nat) :
    row.breakWide x =
      if (row.breakLeft x).continues (x + 1) then (row.breakLeft x).set (x + 1) .blank
      else row.breakLeft x := rfl

theorem getElem?_breakLeft (row : Row) (x y : Nat) :
    (row.breakLeft x)[y]? =
      if y + 1 = x ∧ row.continues x = true then
        row[y]?.map fun cell => { cell with char? := some ' ' }
      else row[y]? := by
  unfold breakLeft
  by_cases second : row.continues x = true
  · by_cases first : 0 < x
    · have same : x - 1 = y ↔ y + 1 = x := by omega
      simp only [first, second, decide_true, Bool.and_self, if_true, and_true, List.getElem?_modify, same]
      split <;> simp
    · simp [first, show ¬ y + 1 = x by omega]
  · simp [second]

theorem continues_breakLeft (row : Row) (x : Nat) :
    (row.breakLeft x).continues (x + 1) = row.continues (x + 1) := by
  unfold continues
  rw [getElem?_breakLeft, if_neg (by omega)]

/-- Writing a cell turns the halves that it leaves alone into spaces. -/
theorem getElem?_put (inside : x < row.length) (cell : Cell) (y : Nat) :
    (row.put x cell)[y]? =
      if y = x then some cell
      else if y + 1 = x ∧ row.continues x = true then
        row[y]?.map fun cell => { cell with char? := some ' ' }
      else if y = x + 1 ∧ row.continues (x + 1) = true then some .blank
      else row[y]? := by
  unfold put
  rw [if_pos inside, List.getElem?_set]
  by_cases here : y = x
  · simp [here, inside]
  · rw [if_neg (Ne.symm here), if_neg here, breakWide_eq, continues_breakLeft]
    by_cases second : row.continues (x + 1) = true
    · rw [if_pos second, List.getElem?_set]
      by_cases right : x + 1 = y
      · subst right
        have within := lt_of_continues second
        have length : (row.breakLeft x).length = row.length := by
          unfold breakLeft
          split <;> simp
        simp [second, length, within, show ¬ x + 1 + 1 = x by omega]
      · rw [if_neg right, getElem?_breakLeft, if_neg (show ¬ (y = x + 1 ∧ _) from fun h => right h.1.symm)]
    · rw [if_neg second, getElem?_breakLeft, if_neg (show ¬ (y = x + 1 ∧ _) from fun h => second h.2)]

theorem continues_put (inside : x < row.length) (cell : Cell) (y : Nat) :
    (row.put x cell).continues y =
      if y = x then cell.isContinuation
      else if y = x + 1 ∨ y + 1 = x ∧ row.continues x = true then false
      else row.continues y := by
  rw [continues, getElem?_put inside]
  by_cases here : y = x
  · rw [if_pos here, if_pos here]
    rfl
  rw [if_neg here, if_neg here]
  by_cases left : y + 1 = x ∧ row.continues x = true
  · rw [if_pos left, if_pos (.inr left)]
    cases row[y]? <;> rfl
  rw [if_neg left]
  by_cases right : y = x + 1
  · subst right
    rw [if_pos (show x + 1 = x + 1 ∨ _ from .inl rfl)]
    by_cases second : row.continues (x + 1) = true
    · rw [if_pos ⟨rfl, second⟩]
      rfl
    · rw [if_neg fun halves => second halves.2]
      exact eq_false_of_ne_true second
  · rw [if_neg fun halves => right halves.1, if_neg (not_or.2 ⟨right, left⟩)]
    rfl

theorem isWideAt_put (inside : x < row.length) (cell : Cell) (y : Nat) :
    (row.put x cell).isWideAt y =
      if y = x then cell.isWide
      else if y + 1 = x ∧ row.continues x = true ∨ y = x + 1 ∧ row.continues (x + 1) = true then false
      else row.isWideAt y := by
  have space : (Unicode.width ' ' == 2) = false := by decide
  rw [isWideAt, getElem?_put inside]
  by_cases here : y = x
  · rw [if_pos here, if_pos here]
    rfl
  rw [if_neg here, if_neg here]
  by_cases left : y + 1 = x ∧ row.continues x = true
  · rw [if_pos left, if_pos (.inl left)]
    cases row[y]?
    · rfl
    · exact space
  rw [if_neg left]
  by_cases right : y = x + 1 ∧ row.continues (x + 1) = true
  · rw [if_pos right, if_pos (.inr right)]
    exact space
  · rw [if_neg right, if_neg (not_or.2 ⟨left, right⟩)]
    rfl

/-- What holds of a space, of the new cell and of everything that the row shows holds of all it shows then. -/
theorem shown_put {P : Char → Prop} (space : P ' ') (shown : ∀ cell ∈ row, ∀ c ∈ cell.char?, P c)
    (new : ∀ c ∈ cell.char?, P c) (x : Nat) : ∀ other ∈ row.put x cell, ∀ c ∈ other.char?, P c := by
  by_cases inside : x < row.length
  · intro other mem c char
    obtain ⟨y, here⟩ := List.mem_iff_getElem?.1 mem
    rw [getElem?_put inside] at here
    split at here
    · obtain rfl := Option.some.inj here
      exact new c char
    · split at here
      · obtain ⟨_, -, rfl⟩ := Option.map_eq_some_iff.1 here
        obtain rfl := Option.some.inj char
        exact space
      · split at here
        · obtain rfl := Option.some.inj here
          obtain rfl := Option.some.inj char
          exact space
        · exact shown other (List.mem_of_getElem? here) c char
  · rw [put, if_neg inside]
    exact shown

end Put

section Paints

/-- Strokes that paint a row, each of them one or two cells from a column on. -/
inductive Paints (ok : Nat → Nat → Prop) (row : Row) : Row → Prop where
  | refl : Paints ok row row
  | single {next : Row} (before : Paints ok row next) {x : Nat} {c : Char} {attr : Attr}
      (takes : Unicode.width c ≠ 0) (narrow : Unicode.width c ≠ 2) (inside : ok x 1) :
      Paints ok row (next.put x (.styled c attr))
  | double {next : Row} (before : Paints ok row next) {x : Nat} {c : Char} {attr : Attr}
      (wide : Unicode.width c = 2) (inside : ok x 2) :
      Paints ok row ((next.put x (.styled c attr)).put (x + 1) (.continuation attr))

variable {ok : Nat → Nat → Prop} {last : Row}

theorem Paints.trans (first : row.Paints ok next) (second : next.Paints ok last) : row.Paints ok last := by
  induction second with
  | refl => exact first
  | single _ takes narrow inside ih => exact .single ih takes narrow inside
  | double _ wide inside ih => exact .double ih wide inside

theorem Paints.mono {ok' : Nat → Nat → Prop} (paints : row.Paints ok next)
    (more : ∀ x n, ok x n → ok' x n) : row.Paints ok' next := by
  induction paints with
  | refl => exact .refl
  | single _ takes narrow inside ih => exact .single ih takes narrow (more _ _ inside)
  | double _ wide inside ih => exact .double ih wide (more _ _ inside)

theorem Paints.length (paints : row.Paints ok next) : next.length = row.length := by
  induction paints with
  | refl => rfl
  | single _ _ _ _ ih => rw [length_put, ih]
  | double _ _ _ ih => rw [length_put, length_put, ih]

/-- Without strokes nothing changes. -/
theorem Paints.eq_self (paints : row.Paints ok next) (none : ∀ x n, ¬ ok x n) : next = row := by
  cases paints with
  | refl => rfl
  | single _ _ _ inside => exact absurd inside (none _ _)
  | double _ _ inside => exact absurd inside (none _ _)

/-- A character may be written alone if it takes one cell, or if the row ends behind its first half. -/
theorem Sound.put (sound : row.Sound) {c : Char} (takes : Unicode.width c ≠ 0)
    (alone : Unicode.width c = 2 → row.length ≤ x + 1) (attr : Attr) :
    (row.put x (.styled c attr)).Sound := by
  by_cases inside : x < row.length
  · have half : (Cell.styled c attr).isContinuation = false := rfl
    have wide : (Cell.styled c attr).isWide = (Unicode.width c == 2) := rfl
    obtain ⟨first, pairs, visible⟩ := sound
    constructor
    · rw [continues_put inside]
      split_ifs <;> trivial
    · intro y within
      rw [length_put] at within
      have pair := pairs y within
      have whole : ∀ y, row.continues y = true → row.isWideAt y = false := fun y =>
        isWideAt_of_continues
      have beyond : y + 2 < row.length → row.continues (y + 2) = row.isWideAt (y + 1) := pairs (y + 1)
      rw [continues_put inside, isWideAt_put inside]
      grind
    · refine shown_put (by decide) visible (fun d shown => ?_) x
      obtain rfl := Option.some.inj shown
      exact takes
  · rw [Row.put, if_neg inside]
    exact sound

theorem Sound.double (sound : row.Sound) {c : Char} (wide : Unicode.width c = 2) (x : Nat) (attr : Attr) :
    ((row.put x (.styled c attr)).put (x + 1) (.continuation attr)).Sound := by
  by_cases last : x + 1 < row.length
  · have inside : x < row.length := by omega
    have last' : x + 1 < (row.put x (.styled c attr)).length := by rwa [length_put]
    have half : (Cell.styled c attr).isContinuation = false := rfl
    have broad : (Cell.styled c attr).isWide = true := by simp [Cell.isWide, Cell.styled, wide]
    have second : (Cell.continuation attr).isContinuation = true := rfl
    have empty : (Cell.continuation attr).isWide = false := rfl
    obtain ⟨first, pairs, visible⟩ := sound
    constructor
    · rw [continues_put last', continues_put inside, continues_put inside]
      grind
    · intro y within
      rw [length_put, length_put] at within
      have pair := pairs y within
      have whole : ∀ y, row.continues y = true → row.isWideAt y = false := fun y =>
        isWideAt_of_continues
      have beyond : y + 2 < row.length → row.continues (y + 2) = row.isWideAt (y + 1) := pairs (y + 1)
      rw [continues_put last', isWideAt_put last', continues_put inside, continues_put inside,
        continues_put inside, isWideAt_put inside]
      grind
    · refine shown_put (by decide) (shown_put (by decide) visible (fun d shown => ?_) x) (by rintro d ⟨⟩) (x + 1)
      obtain rfl := Option.some.inj shown
      omega
  · have outside : ¬ x + 1 < (row.put x (.styled c attr)).length := by rwa [length_put]
    rw [Row.put, if_neg outside]
    exact sound.put (by omega) (fun _ => by omega) attr

theorem Paints.sound (paints : row.Paints ok next) (sound : row.Sound) : next.Sound := by
  induction paints with
  | refl => exact sound
  | single _ takes narrow _ ih => exact ih.put takes (fun wide => absurd wide narrow) _
  | double _ wide _ ih => exact ih.double wide _ _

/-- Only a double-width character that starts in the last column leaves half a character there. -/
theorem Paints.isWideAt_last (paints : row.Paints ok next) (ends : ∀ x, ok x 2 → x + 1 ≠ row.length)
    (last : x + 1 = row.length) (before : row.isWideAt x = false) : next.isWideAt x = false := by
  induction paints with
  | refl => exact before
  | @single next paints at' c attr takes narrow inside ih =>
      by_cases within : at' < next.length
      · rw [isWideAt_put within]
        split_ifs
        · simpa [Cell.isWide, Cell.styled] using narrow
        · rfl
        · exact ih
      · rwa [Row.put, if_neg within]
  | @double next paints at' c attr wide inside ih =>
      have length := paints.length
      have apart := ends at' inside
      by_cases within : at' + 1 < next.length
      · have within' : at' + 1 < (next.put at' (.styled c attr)).length := by rwa [length_put]
        rw [isWideAt_put within', isWideAt_put (Nat.lt_of_succ_lt within)]
        split_ifs
        · rfl
        · rfl
        · omega
        · rfl
        · exact ih
      · have outside : ¬ at' < next.length := by omega
        have outside' : ¬ at' + 1 < (next.put at' (.styled c attr)).length := by rwa [length_put]
        rwa [Row.put, if_neg outside', Row.put, if_neg outside]

section Sealed

variable {left right : Nat}

/-- Whole characters stand on the cells from `left` on and from `right` on. -/
structure Whole (row : Row) (left right : Nat) : Prop where
  left : row.continues left = false
  right : row.continues right = false

/-- A cell that is written beside whole characters changes none of them. -/
theorem Whole.put (whole : row.Whole left right) (some : left < right) (beside : x < left ∨ right ≤ x)
    (cell : Cell) (starts : x = right → cell.isContinuation = false) :
    (row.put x cell).Whole left right ∧
      ∀ y, left ≤ y → y < right → (row.put x cell)[y]? = row[y]? := by
  by_cases inside : x < row.length
  · obtain ⟨first, behind⟩ := whole
    refine ⟨⟨?_, ?_⟩, fun y from' upTo => ?_⟩
    · rw [continues_put inside, if_neg (by omega)]
      split_ifs
      · rfl
      · exact first
    · rw [continues_put inside]
      split_ifs with here
      · exact starts here.symm
      · rfl
      · exact behind
    · have notLeft : ¬ (y + 1 = x ∧ row.continues x = true) := by
        rintro ⟨next, second⟩
        rw [show x = right by omega, behind] at second
        contradiction
      have notRight : ¬ (y = x + 1 ∧ row.continues (x + 1) = true) := by
        rintro ⟨next, second⟩
        rw [show x + 1 = left by omega, first] at second
        contradiction
      rw [getElem?_put inside, if_neg (by omega), if_neg notLeft, if_neg notRight]
  · rw [Row.put, if_neg inside]
    exact ⟨whole, fun _ _ _ => rfl⟩

/-- Whole characters are not changed by strokes beside them. -/
theorem Paints.whole (paints : row.Paints ok next) (whole : row.Whole left right) (some : left < right)
    (beside : ∀ x n, ok x n → x + n ≤ left ∨ right ≤ x) :
    next.Whole left right ∧ ∀ y, left ≤ y → y < right → next[y]? = row[y]? := by
  induction paints with
  | refl => exact ⟨whole, fun _ _ _ => rfl⟩
  | @single next _ x c attr _ _ inside ih =>
      have apart := beside x 1 inside
      obtain ⟨before, same⟩ := ih
      obtain ⟨after, kept⟩ := before.put some (x := x) (by omega) (.styled c attr) fun _ => rfl
      exact ⟨after, fun y from' upTo => (kept y from' upTo).trans (same y from' upTo)⟩
  | @double next _ x c attr _ inside ih =>
      have apart := beside x 2 inside
      obtain ⟨before, same⟩ := ih
      obtain ⟨middle, kept⟩ := before.put some (x := x) (by omega) (.styled c attr) fun _ => rfl
      obtain ⟨after, still⟩ := middle.put some (x := x + 1) (by omega) (.continuation attr) (by omega)
      exact ⟨after, fun y from' upTo =>
        (still y from' upTo).trans ((kept y from' upTo).trans (same y from' upTo))⟩

end Sealed

end Paints

section Width

/-- The text of a row is as wide as the row where every continuation stands behind a double-width character, but
for a second half in front of it and one behind it. -/
theorem textWidth_text (pairs : ∀ x, x + 1 < row.length → row.continues (x + 1) = row.isWideAt x)
    (visible : ∀ cell ∈ row, ∀ c ∈ cell.char?, Unicode.width c = 1 ∨ Unicode.width c = 2) :
    textWidth row.text + (row.continues 0).toNat = row.length + (row.isWideAt (row.length - 1)).toNat := by
  induction row with
  | nil => rfl
  | cons cell rest ih =>
      have behind := ih (fun x within => pairs (x + 1) (Nat.succ_lt_succ within))
        fun cell mem => visible cell (List.mem_cons_of_mem _ mem)
      have later : textWidth (text rest) + cell.isWide.toNat =
          rest.length + (Row.isWideAt (cell :: rest) rest.length).toNat := by
        cases rest with
        | nil => rfl
        | cons next rest =>
            rw [← show Row.continues (next :: rest) 0 = cell.isWide from pairs 0 (by simp)]
            exact behind
      obtain ⟨char?, attr⟩ := cell
      change _ = rest.length + 1 + (Row.isWideAt (_ :: rest) rest.length).toNat
      cases char? with
      | none =>
          change textWidth (text rest) + 0 = _ at later
          change textWidth (text rest) + 1 = _
          omega
      | some c =>
          have wide : Cell.isWide ⟨some c, attr⟩ = (Unicode.width c == 2) := rfl
          change Unicode.width c + textWidth (text rest) + 0 = _
          rw [wide] at later
          rcases visible _ List.mem_cons_self c rfl with one | two
          · simp only [one, show (1 == 2) = false from rfl, Bool.toNat_false] at later
            omega
          · simp only [two, show (2 == 2) = true from rfl, Bool.toNat_true] at later
            omega

theorem Sound.textWidth_text (sound : row.Sound) (narrow : ∀ c ∈ row.text, Unicode.width c ≤ 2) :
    textWidth row.text = row.length + (row.isWideAt (row.length - 1)).toNat := by
  have width := Row.textWidth_text sound.pairs fun cell mem c shown => by
    have takes := sound.visible cell mem c shown
    have most := narrow c (List.mem_filterMap.2 ⟨cell, mem, shown⟩)
    omega
  rwa [sound.first] at width

end Width

end Row

end ModalPanes
