import ModalPanes.Proofs.Screen.Painting

/-!
# Grids without halves of characters

A blank grid stays whole however it is written over: by text, by characters of one column, and by marks.  Writing
over one half of a wide character leaves a space for the other one, and a wide character is not begun where only
one column is left.  The invariant is one of rows, and each operation has a lemma that keeps it.
-/

namespace ModalPanes

namespace Row

/-- A row of so many cells in which every character has the columns that it takes, at most two of them. -/
structure Intact (width : Nat) (row : Row) : Prop where
  length : row.length = width
  sound : row.Sound
  uncut : row.isWideAt (width - 1) = false
  narrow : ∀ cell ∈ row, ∀ c ∈ cell.char?, Unicode.width c ≤ 2

variable {row next : Row} {width x : Nat} {c : Char} {text : List Char}

theorem intact_blank (width : Nat) : Intact width (List.replicate width .blank) := by
  obtain ⟨length, sound⟩ := Grid.sound_blank width 1 _ (List.mem_replicate.2 ⟨Nat.one_ne_zero, rfl⟩)
  refine ⟨length, sound, ?_, fun cell mem c shown => ?_⟩
  · unfold isWideAt
    rw [List.getElem?_replicate]
    split <;> decide
  · obtain ⟨-, rfl⟩ := List.mem_replicate.1 mem
    obtain rfl := Option.some.inj shown
    decide

namespace Intact

/-- A cell is a continuation exactly if the cell on its left holds a double-width character. -/
theorem continues_iff (intact : row.Intact width) (x : Nat) :
    row.continues x = true ↔ 0 < x ∧ row.isWideAt (x - 1) = true := by
  cases x with
  | zero => simp [intact.sound.first]
  | succ x =>
      by_cases within : x + 1 < row.length
      · simp [intact.sound.pairs x within]
      · have half : row.isWideAt x = false := by
          by_cases last : x = width - 1
          · exact last ▸ intact.uncut
          · exact isWideAt_of_le (by have length := intact.length; omega)
        simp [continues_of_le (Nat.le_of_not_lt within), half]

theorem textWidth_text (intact : row.Intact width) : textWidth row.text = width := by
  have narrow : ∀ c ∈ row.text, Unicode.width c ≤ 2 := by
    intro c mem
    obtain ⟨cell, inRow, shown⟩ := List.mem_filterMap.1 mem
    exact intact.narrow cell inRow c shown
  rw [intact.sound.textWidth_text narrow, intact.length, intact.uncut]
  rfl

section Writing

/-- Strokes keep a row whole if no double-width character among them is begun in the last column. -/
theorem paints {ok : Nat → Nat → Prop} (intact : row.Intact width) (paints : row.Paints ok next)
    (ends : ∀ x, ok x 2 → x + 2 ≤ width) (narrow : ∀ cell ∈ next, ∀ c ∈ cell.char?, Unicode.width c ≤ 2) :
    next.Intact width := by
  obtain ⟨length, sound, uncut, -⟩ := intact
  refine ⟨paints.length.trans length, paints.sound sound, ?_, narrow⟩
  cases width with
  | zero => exact isWideAt_of_le (Nat.le_of_eq (paints.length.trans length))
  | succ last =>
      refine paints.isWideAt_last (fun x two => ?_) length.symm uncut
      have fits := ends x two
      omega

theorem put (intact : row.Intact width) (single : Unicode.width c = 1) (x : Nat) (attr : Attr) :
    (row.put x (.styled c attr)).Intact width := by
  have stroke : row.Paints (fun _ n => n = 1) (row.put x (.styled c attr)) :=
    .single .refl (by omega) (by omega) rfl
  refine intact.paints stroke (by omega) (shown_put (by decide) intact.narrow (fun d shown => ?_) x)
  obtain rfl := Option.some.inj shown
  omega

theorem double (intact : row.Intact width) (wide : Unicode.width c = 2) (fits : x + 2 ≤ width) (attr : Attr) :
    ((row.put x (.styled c attr)).put (x + 1) (.continuation attr)).Intact width := by
  have stroke : row.Paints (fun col n => col + n ≤ width)
      ((row.put x (.styled c attr)).put (x + 1) (.continuation attr)) :=
    .double .refl wide fits
  refine intact.paints stroke (fun _ fits => fits)
    (shown_put (by decide) (shown_put (by decide) intact.narrow (fun d shown => ?_) x) (by rintro d ⟨⟩) (x + 1))
  obtain rfl := Option.some.inj shown
  omega

theorem fill (intact : row.Intact width) (single : Unicode.width c = 1) (attr : Attr) (x count : Nat) :
    (row.fill (.styled c attr) x count).Intact width := by
  induction count generalizing row x with
  | zero => exact intact
  | succ count ih => exact ih (intact.put single x attr) (x + 1)

theorem putText (intact : row.Intact width) (narrow : ∀ c ∈ text, Unicode.width c ≤ 2) (attr : Attr)
    {limit : Nat} (inside : limit ≤ width) (x : Nat) : (putText attr limit row x text).1.Intact width := by
  induction text generalizing row x with
  | nil => exact intact
  | cons c text ih =>
      obtain ⟨most, others⟩ := List.forall_mem_cons.1 narrow
      unfold Row.putText
      dsimp only
      split_ifs with full none last wide
      · exact intact
      · exact ih intact others x
      · exact intact.put (by decide) x attr
      · exact ih (intact.double wide (by omega) attr) others _
      · exact ih (intact.put (by omega) x attr) others _

end Writing

end Intact

section Marks

theorem continues_eq_chars (row : Row) (x : Nat) :
    row.continues x = ((row.map Cell.char?)[x]?.map Option.isNone).getD false := by
  rw [List.getElem?_map, Option.map_map]
  rfl

theorem isWideAt_eq_chars (row : Row) (x : Nat) :
    row.isWideAt x =
      ((row.map Cell.char?)[x]?.map fun char? => char?.any fun c => Unicode.width c == 2).getD false := by
  rw [List.getElem?_map, Option.map_map]
  rfl

/-- Whether a row is whole is a matter of its characters alone. -/
theorem Intact.of_chars (intact : row.Intact width) (same : next.map Cell.char? = row.map Cell.char?) :
    next.Intact width := by
  obtain ⟨length, ⟨first, pairs, visible⟩, uncut, narrow⟩ := intact
  have long : next.length = row.length := by simpa using congrArg List.length same
  have half : ∀ x, next.continues x = row.continues x := fun x => by
    rw [continues_eq_chars, continues_eq_chars, same]
  have wide : ∀ x, next.isWideAt x = row.isWideAt x := fun x => by
    rw [isWideAt_eq_chars, isWideAt_eq_chars, same]
  have shown : ∀ cell ∈ next, ∀ c ∈ cell.char?, ∃ before ∈ row, c ∈ before.char? := by
    intro cell mem c char
    have inRow : cell.char? ∈ row.map Cell.char? := same ▸ List.mem_map_of_mem mem
    obtain ⟨before, inRow, equal⟩ := List.mem_map.1 inRow
    exact ⟨before, inRow, equal ▸ char⟩
  refine ⟨long.trans length, ⟨(half 0).trans first, fun x within => ?_, fun cell mem c char => ?_⟩,
    (wide _).trans uncut, fun cell mem c char => ?_⟩
  · rw [half, wide]
    exact pairs x (long ▸ within)
  · obtain ⟨before, inRow, char⟩ := shown cell mem c char
    exact visible before inRow c char
  · obtain ⟨before, inRow, char⟩ := shown cell mem c char
    exact narrow before inRow c char

theorem chars_mark (attr : Attr) (row : Row) (x count : Nat) :
    (row.mark attr x count).map Cell.char? = row.map Cell.char? := by
  induction count generalizing row x with
  | zero => rfl
  | succ count ih =>
      refine (ih _ _).trans (List.ext_getElem? fun i => ?_)
      rw [List.getElem?_map, List.getElem?_map, List.getElem?_modify, Option.map_eq_map, Option.map_map]
      congr 1
      funext cell
      dsimp only [Function.comp]
      split <;> rfl

end Marks

/-- Text ends within its limit if no character takes more than two columns. -/
theorem putText_snd_le (narrow : ∀ c ∈ text, Unicode.width c ≤ 2) (attr : Attr) (limit : Nat) (row : Row) (x : Nat) :
    (putText attr limit row x text).2 ≤ max x limit := by
  induction text generalizing row x with
  | nil => exact Nat.le_max_left _ _
  | cons c text ih =>
      obtain ⟨most, others⟩ := List.forall_mem_cons.1 narrow
      unfold putText
      dsimp only
      split_ifs with full none last wide
      · exact Nat.le_max_left _ _
      · exact ih others row x
      · dsimp only
        omega
      · have rest := ih others ((row.put x (.styled c attr)).put (x + 1) (.continuation attr)) (x + Unicode.width c)
        omega
      · have rest := ih others (row.put x (.styled c attr)) (x + Unicode.width c)
        omega

end Row

namespace Grid

variable {grid : Grid} {width height : Nat}

/-- A grid of the given size all of whose rows are whole. -/
structure Intact (width height : Nat) (grid : Grid) : Prop where
  wide : grid.width = width
  high : grid.rows.length = height
  rows : ∀ row ∈ grid.rows, row.Intact width

theorem intact_blank (width height : Nat) : (blank width height).Intact width height := by
  refine ⟨rfl, List.length_replicate .., fun row mem => ?_⟩
  obtain ⟨-, rfl⟩ := List.mem_replicate.1 mem
  exact Row.intact_blank width

theorem Intact.onRow (intact : grid.Intact width height) {change : Row → Row}
    (kept : ∀ row : Row, row.Intact width → (change row).Intact width) (y : Nat) :
    (grid.onRow y change).Intact width height := by
  refine ⟨intact.wide, (List.length_modify ..).trans intact.high, fun row mem => ?_⟩
  obtain ⟨i, here⟩ := List.mem_iff_getElem?.1 mem
  rw [Grid.onRow, List.getElem?_modify] at here
  obtain ⟨before, start, rfl⟩ := Option.map_eq_some_iff.1 here
  have whole := intact.rows before (List.mem_of_getElem? start)
  split
  · exact kept before whole
  · exact whole

/-- The grids that come of a blank one of the given size by writing text of characters that take two columns at
most, by writing and filling with characters of one column, and by adding marks. -/
inductive Painted (width height : Nat) : Grid → Prop where
  | blank : Painted width height (.blank width height)
  | putText {grid : Grid} (before : Painted width height grid) (x y : Nat) {text : List Char}
      (narrow : ∀ c ∈ text, Unicode.width c ≤ 2) (attr : Attr) (columns : Nat) :
      Painted width height (grid.putText x y text attr columns).1
  | put {grid : Grid} (before : Painted width height grid) (x y : Nat) {c : Char} (single : Unicode.width c = 1)
      (attr : Attr) : Painted width height (grid.put x y (.styled c attr))
  | fill {grid : Grid} (before : Painted width height grid) (x y count : Nat) {c : Char}
      (single : Unicode.width c = 1) (attr : Attr) : Painted width height (grid.fill x y count (.styled c attr))
  | mark {grid : Grid} (before : Painted width height grid) (x y count : Nat) (attr : Attr) :
      Painted width height (grid.mark x y count attr)

theorem Painted.intact (painted : Painted width height grid) : grid.Intact width height := by
  induction painted with
  | blank => exact intact_blank width height
  | putText _ x y narrow attr columns ih =>
      rw [putText_fst]
      exact ih.onRow (fun row whole => whole.putText narrow attr (ih.wide ▸ Nat.min_le_right _ _) x) y
  | put _ x y single attr ih => exact ih.onRow (fun row whole => whole.put single x attr) y
  | fill _ x y count single attr ih => exact ih.onRow (fun row whole => whole.fill single attr x _) y
  | mark _ x y count attr ih =>
      exact ih.onRow (fun row whole => whole.of_chars (Row.chars_mark attr row x _)) y

theorem narrow_of_all {text : List Char} (all : text.all (Unicode.width · ≤ 2) = true) :
    ∀ c ∈ text, Unicode.width c ≤ 2 := fun c mem => of_decide_eq_true (List.all_eq_true.1 all c mem)

/-- No half of a character survives painting: in every row a cell is a continuation exactly if the cell on its left
holds a double-width character, none of these is in the last column, and the text takes as many columns as the grid
has.  Text that is written takes no more columns than it is given, and no more than are left in the row. -/
theorem Painted.leaves_no_half (painted : Painted width height grid) :
    grid.rows.length = height ∧
      (∀ row ∈ grid.rows, row.length = width ∧
        (∀ x, row.continues x = true ↔ 0 < x ∧ row.isWideAt (x - 1) = true) ∧
        row.isWideAt (width - 1) = false ∧ textWidth row.text = width) ∧
      ∀ x y text attr columns, (∀ c ∈ text, Unicode.width c ≤ 2) →
        (grid.putText x y text attr columns).2 ≤ min columns (width - x) := by
  obtain ⟨wide, high, rows⟩ := painted.intact
  refine ⟨high, fun row mem => ?_, fun x y text attr columns narrow => ?_⟩
  · have whole := rows row mem
    exact ⟨whole.length, whole.continues_iff, whole.uncut, whole.textWidth_text⟩
  · unfold Grid.putText
    cases grid.rows[y]? with
    | none => exact Nat.zero_le _
    | some row =>
        have ends := Row.putText_snd_le narrow attr (min (x + columns) grid.width) row x
        dsimp only
        omega

/-- Text that starts in the second half of one character and ends in the first half of another. -/
theorem leaves_no_half_shifted :
    let first := (blank 6 1).putText 0 0 "日本語".toList {} 6
    let second := first.1.putText 1 0 "中".toList { bold := true } 3
    let grid := (second.1.fill 5 0 9 (.styled '.' {})).mark 0 0 3 { search := true }
    let clipped := grid.putText 3 0 "é日".toList {} 2
    [first.1, second.1, grid, clipped.1].map lines =
        [["日本語".toList], [" 中 語".toList], [" 中  .".toList], [" 中é .".toList]] ∧
      clipped.2 ≤ min 2 (6 - 3) ∧ ∀ row ∈ clipped.1.rows, textWidth row.text = 6 := by
  intro first second grid clipped
  have written : Painted 6 1 second.1 :=
    (Painted.blank.putText 0 0 (narrow_of_all (by decide +kernel)) {} 6).putText 1 0
      (narrow_of_all (by decide +kernel)) _ 3
  have painted : Painted 6 1 grid := (written.fill 5 0 9 (by decide) {}).mark 0 0 3 _
  have narrow : ∀ c ∈ "é日".toList, Unicode.width c ≤ 2 := narrow_of_all (by decide +kernel)
  refine ⟨by decide +kernel, painted.leaves_no_half.2.2 3 0 _ {} 2 narrow, fun row mem => ?_⟩
  exact ((painted.putText 3 0 narrow {} 2).leaves_no_half.2.1 row mem).2.2.2

end Grid

end ModalPanes
