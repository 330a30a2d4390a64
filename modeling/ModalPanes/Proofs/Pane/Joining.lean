import ModalPanes.Proofs.Pane.Overtyping
import ModalPanes.Proofs.Text.Rows
import Mathlib.Data.List.TakeWhile

/-!
# Joining lines

A join takes the break between two lines out with the indent behind it and puts the joint in its place, so that the two
lines become one.  The next join finds that line where the first of the two was, and so a run of joins folds the lines
behind the first one onto it, from left to right.  Only blanks and line feeds go and come.
-/

namespace ModalPanes

namespace Pane

variable {pane : Pane} {current next rest front gone back : List Char} {below : List (List Char)}

/-- Two sides that are joined without a space. -/
def Abuts (current rest : List Char) : Prop :=
  current = [] ∨ rest = [] ∨ current.getLast? ∈ [some ' ', some '\t'] ∨ rest.head? = some ')'

/-- A line that ends a sentence. -/
def EndsSentence (current : List Char) : Prop := current.getLast? ∈ [some '.', some '!', some '?']

instance (current rest : List Char) : Decidable (Abuts current rest) :=
  inferInstanceAs (Decidable (_ ∨ _ ∨ _ ∨ _))

instance (current : List Char) : Decidable (EndsSentence current) :=
  inferInstanceAs (Decidable (_ ∈ [some '.', some '!', some '?']))

/-- A line with the next one joined to it. -/
def joinOnto (current next : List Char) : List Char :=
  let rest := next.dropWhile isIndent
  current ++ (if Abuts current rest then [] else if EndsSentence current then [' ', ' '] else [' ']) ++ rest

theorem joint_eq (current rest : List Char) :
    joint current rest = if Abuts current rest then [] else if EndsSentence current then [' ', ' '] else [' '] := by
  have abuts : (current.isEmpty || rest.isEmpty || (current.getLast?.map isIndent).getD false ||
      rest.head? == some ')') = true ↔ Abuts current rest := by
    unfold Abuts
    cases current.getLast? <;> simp [isIndent, or_assoc]
  have ends : (current.getLast? == some '.' || current.getLast? == some '!' || current.getLast? == some '?') = true ↔
      EndsSentence current := by
    unfold EndsSentence
    cases current.getLast? <;> simp [or_assoc]
  unfold joint
  simp only [abuts, ends]

theorem joinOnto_eq (current next : List Char) :
    joinOnto current next = current ++ joint current (next.dropWhile isIndent) ++ next.dropWhile isIndent := by
  rw [joint_eq]
  rfl

theorem eq_space_of_mem_joint {c : Char} (mem : c ∈ joint current rest) : c = ' ' := by
  rw [joint_eq] at mem
  split at mem
  · cases mem
  · split at mem <;> simpa using mem

theorem unbroken_joinOnto (front : Unbroken current) (behind : Unbroken next) : Unbroken (joinOnto current next) := by
  have spaces : Unbroken (joint current (next.dropWhile isIndent)) := fun c mem => by
    rw [eq_space_of_mem_joint mem]
    decide
  rw [joinOnto_eq]
  exact (front.append spaces).append (behind.subset (List.dropWhile_sublist _).subset)

section Solid

/-- A character other than a space, a tab or a line break. -/
def isSolid (c : Char) : Bool := !isIndent c && !Line.isBreak c

/-- Only blanks go and come. -/
theorem solid_joinOnto (current next : List Char) :
    (joinOnto current next).filter isSolid = current.filter isSolid ++ next.filter isSolid := by
  have spaces : (joint current (next.dropWhile isIndent)).filter isSolid = [] := by
    rw [List.filter_eq_nil_iff]
    intro c mem
    rw [eq_space_of_mem_joint mem]
    decide
  have indent : (next.takeWhile isIndent).filter isSolid = [] := by
    rw [List.filter_eq_nil_iff]
    intro c mem
    simp [isSolid, List.mem_takeWhile_imp mem]
  have parts := congrArg (List.filter isSolid) (List.takeWhile_append_dropWhile (p := isIndent) (l := next))
  rw [List.filter_append, indent, List.nil_append] at parts
  rw [joinOnto_eq, List.filter_append, List.filter_append, spaces, List.append_nil, parts]

theorem solid_foldl_joinOnto (nexts : List (List Char)) (current : List Char) :
    (nexts.foldl joinOnto current).filter isSolid =
      current.filter isSolid ++ nexts.flatMap (·.filter isSolid) := by
  induction nexts generalizing current with
  | nil => simp
  | cons next nexts ih =>
      rw [List.foldl_cons, ih, solid_joinOnto, List.append_assoc]
      rfl

end Solid

theorem insertText_eraseRange_cut (plain : Plain pane.buffer.text) (cut : pane.buffer.text = front ++ gone ++ back)
    (put : List Char) :
    ∃ buffer history recorder,
      (pane.eraseRange (.between (Edit.stopOf .zero front) (Edit.stopOf .zero (front ++ gone)))).insertText
          (Edit.stopOf .zero front) put =
        { pane with buffer := buffer, history := history, recorder := recorder } ∧
      buffer.text = front ++ put ++ back := by
  obtain ⟨buffer, history, recorder, erases, erased⟩ := eraseRange_cut plain cut
  have plain : Plain buffer.text := by
    rw [erased]
    exact (cut ▸ plain).without
  obtain ⟨buffer, history, recorder, inserts, inserted⟩ :=
    insertText_cut { pane with buffer := buffer, history := history, recorder := recorder } plain erased put
  exact ⟨buffer, history, recorder, erases ▸ inserts, inserted⟩

/-- One join replaces two lines by one. -/
theorem joinNext_made (made : pane.buffer.MadeOf (above ++ current :: next :: below)) :
    ∃ buffer history recorder,
      pane.joinNext above.length =
        ({ pane with buffer := buffer, history := history, recorder := recorder }, current.length) ∧
      buffer.MadeOf (above ++ joinOnto current next :: below) := by
  have behind : pane.buffer.MadeOf ((above ++ [current]) ++ next :: below) := by simpa using made
  have second := behind.line_at
  rw [List.length_append, List.length_singleton] at second
  obtain ⟨unbrokenAbove, unbroken⟩ := List.forall_mem_append.1 made.unbroken
  obtain ⟨unbrokenCurrent, unbroken⟩ := List.forall_mem_cons.1 unbroken
  obtain ⟨unbrokenNext, unbrokenBelow⟩ := List.forall_mem_cons.1 unbroken
  have parts := List.takeWhile_append_dropWhile (p := isIndent) (l := next)
  have joined := unbroken_joinOnto unbrokenCurrent unbrokenNext
  have spaces := joinOnto_eq current next
  unfold joinNext
  dsimp only
  rw [made.line_at, second]
  generalize next.takeWhile isIndent = indent at parts
  generalize next.dropWhile isIndent = rest at parts spaces ⊢
  subst parts
  have cut : pane.buffer.text =
      ['\n'].intercalate (above ++ [current]) ++ ('\n' :: indent) ++ ['\n'].intercalate (rest :: below) := by
    rw [made.text, Line.intercalate_between, Line.intercalate_head, List.append_assoc, List.cons_append]
  have start : Edit.stopOf .zero (['\n'].intercalate (above ++ [current])) = ⟨above.length, current.length⟩ :=
    Edit.stopOf_intercalate (fun row mem => (unbrokenAbove row mem).inLine) unbrokenCurrent.inLine
  have stop : Edit.stopOf .zero (['\n'].intercalate (above ++ [current]) ++ '\n' :: indent) =
      ⟨above.length + 1, indent.length⟩ := by
    have inIndent : '\n' ∉ indent := fun mem => unbrokenNext.inLine (List.mem_append_left _ mem)
    rw [Edit.stopOf_append, start, Edit.stopOf, if_pos rfl, Edit.stopOf_of_notMem _ inIndent, Nat.zero_add]
  obtain ⟨buffer, history, recorder, rewrites, rewritten⟩ :=
    insertText_eraseRange_cut made.plain cut (joint current rest)
  rw [start, stop] at rewrites
  rw [List.length_append, Nat.add_sub_cancel]
  refine ⟨buffer, history, recorder, Prod.ext rewrites rfl, ?_, ?_, by simp⟩
  · have front := Line.intercalate_part above current (joint current rest) []
    rw [List.intercalate_singleton] at front
    rw [rewritten, spaces, Line.intercalate_part, front]
  · exact List.forall_mem_append.2 ⟨unbrokenAbove, List.forall_mem_cons.2 ⟨joined, unbrokenBelow⟩⟩

/-- The text of a line with some of the lines behind it joined to it in turn. -/
def joinedLine (buf : Buffer) (first joins : Nat) : List Char :=
  ((buf.lines.drop (first + 1)).take joins).foldl joinOnto (buf.line first)

theorem joinTimes_succ (first joins : Nat) (pane : Pane) (col : Nat) :
    joinTimes first (joins + 1) pane col = (joinTimes first joins pane col).1.joinNext first := by
  induction joins generalizing pane col with
  | zero => rfl
  | succ joins ih => exact ih _ _

section Run

variable {first joins : Nat}

theorem joinedLine_succ {buf : Buffer} (inside : first + joins + 1 < buf.lines.length) :
    joinedLine buf first (joins + 1) = joinOnto (joinedLine buf first joins) buf.lines[first + joins + 1] := by
  have next : (buf.lines.drop (first + 1))[joins]? = some buf.lines[first + joins + 1] := by
    rw [List.getElem?_drop, show first + 1 + joins = first + joins + 1 by omega, List.getElem?_eq_getElem inside]
  unfold joinedLine
  rw [List.take_add_one, next, List.foldl_append]
  rfl

/-- A run of joins folds the lines behind the first one onto it, and the others stay. -/
theorem joinTimes_made (plain : Plain pane.buffer.text) (inside : first + joins < pane.buffer.lines.length)
    (col : Nat) :
    ∃ buffer history recorder,
      (joinTimes first joins pane col).1 =
        { pane with buffer := buffer, history := history, recorder := recorder } ∧
      buffer.MadeOf (pane.buffer.lines.take first ++
        joinedLine pane.buffer first joins :: pane.buffer.lines.drop (first + joins + 1)) := by
  induction joins with
  | zero =>
      refine ⟨pane.buffer, pane.history, pane.recorder, rfl, ?_⟩
      have whole := Buffer.madeOf_lines plain
      rw [pane.buffer.lines_eq_parts inside 0] at whole
      exact whole
  | succ joins ih =>
      obtain ⟨buffer, history, recorder, joined, made⟩ := ih (Nat.lt_of_succ_lt inside)
      have length : (pane.buffer.lines.take first).length = first := List.length_take_of_le (by omega)
      have next := List.drop_eq_getElem_cons (l := pane.buffer.lines) (i := first + joins + 1) inside
      rw [next] at made
      let mid : Pane := { pane with buffer := buffer, history := history, recorder := recorder }
      obtain ⟨buffer, history, recorder, joins, made⟩ := mid.joinNext_made made
      rw [length] at joins
      refine ⟨buffer, history, recorder, ?_, ?_⟩
      · rw [joinTimes_succ, joined, joins]
      · rw [joinedLine_succ inside]
        exact made

/-- The last of a run of joins is where the line ended until then. -/
theorem joinTimes_column (plain : Plain pane.buffer.text) (inside : first + joins < pane.buffer.lines.length)
    (col : Nat) : (joinTimes first (joins + 1) pane col).2 = (joinedLine pane.buffer first joins).length := by
  obtain ⟨buffer, history, recorder, joined, made⟩ := joinTimes_made plain inside col
  have length : (pane.buffer.lines.take first).length = first := List.length_take_of_le (by omega)
  have line := made.line_at
  rw [length] at line
  rw [joinTimes_succ, joined]
  exact congrArg List.length line

/-- The characters other than blanks and line breaks stay, in their order. -/
theorem solid_joined {buf after : Buffer} (plain : Plain buf.text) (inside : first + joins < buf.lines.length)
    (made : after.MadeOf (buf.lines.take first ++ joinedLine buf first joins :: buf.lines.drop (first + joins + 1))) :
    after.text.filter isSolid = buf.text.filter isSolid := by
  have feed : isSolid '\n' = false := by decide
  have parts := buf.lines_eq_parts (Nat.lt_of_le_of_lt (Nat.le_add_right first joins) inside) joins
  rw [made.text, (Buffer.madeOf_lines plain).text, Line.filter_intercalate feed, Line.filter_intercalate feed]
  conv_rhs => rw [parts]
  unfold joinedLine
  simp only [List.flatMap_append, List.flatMap_cons, solid_foldl_joinOnto, List.append_assoc]

/-- Lines are joined, and the cursor goes where the last of them was. -/
theorem joinLines_made (plain : Plain pane.buffer.text) (more : first < pane.buffer.lastLine)
    (count : Nat) :
    let joins := min (max count 2 - 1) (pane.buffer.lastLine - first)
    let after := pane.joinLines first count
    after.buffer.MadeOf (pane.buffer.lines.take first ++
        joinedLine pane.buffer first joins :: pane.buffer.lines.drop (first + joins + 1)) ∧
      after.cursor.pos =
        ⟨first, min (joinedLine pane.buffer first (joins - 1)).length ((joinedLine pane.buffer first joins).length - 1)⟩ := by
  intro joins after
  have last : pane.buffer.lastLine + 1 = pane.buffer.lines.length := pane.buffer.lastLine_add_one
  have length : first + joins < pane.buffer.lines.length := by omega
  have start : (pane.buffer.lines.take first).length = first :=
    List.length_take_of_le (show first ≤ pane.buffer.lines.length by omega)
  obtain ⟨n, joins_eq⟩ : ∃ n, joins = n + 1 := Nat.exists_eq_succ_of_ne_zero (show joins ≠ 0 by omega)
  obtain ⟨buffer, history, recorder, ran, made⟩ := joinTimes_made plain length 0
  have column := joinTimes_column plain (show first + n < pane.buffer.lines.length by omega) 0
  rw [← joins_eq] at column
  have jumps : after = ({ pane with buffer := buffer, history := history, recorder := recorder } : Pane).jump false
      ⟨first, (joinedLine pane.buffer first n).length⟩ := by
    unfold after joinLines
    dsimp only
    rw [if_neg (Nat.not_le.2 more), ran, column]
  have nearest := made.nearest_at (joinedLine pane.buffer first n).length
  rw [start] at nearest
  rw [jumps, joins_eq, Nat.add_sub_cancel, ← joins_eq]
  exact ⟨made, nearest⟩

end Run

/-- Joining loses no text. A line and the ones to be joined to it become one line, each of them with its joint and
without its indent; the other lines stay, and so do all characters other than spaces, tabs and line breaks. The cursor
is put where the last of them was joined, or on the last character. -/
theorem joinLines_folds (plain : Plain pane.buffer.text) (first count : Nat) :
    let lines := pane.buffer.lines
    let joins := min (max count 2 - 1) (pane.buffer.lastLine - first)
    let joined := joinedLine pane.buffer first
    let after := pane.joinLines first count
    (first ≤ pane.buffer.lastLine →
        after.buffer.lines = lines.take first ++ joined joins :: lines.drop (first + joins + 1)) ∧
      after.buffer.text.filter isSolid = pane.buffer.text.filter isSolid ∧
      (first < pane.buffer.lastLine →
        after.cursor.pos = ⟨first, min (joined (joins - 1)).length ((joined joins).length - 1)⟩) ∧
      (pane.buffer.lastLine ≤ first → after = pane) := by
  intro lines joins joined after
  have last : pane.buffer.lastLine + 1 = pane.buffer.lines.length := pane.buffer.lastLine_add_one
  rcases Nat.lt_or_ge first pane.buffer.lastLine with more | beyond
  · obtain ⟨made, cursor⟩ := joinLines_made plain more count
    have inside : first + joins < pane.buffer.lines.length := by omega
    exact ⟨fun _ => made.lines_eq, solid_joined plain inside made, fun _ => cursor, fun beyond => by omega⟩
  · have same : after = pane := if_pos beyond
    have none : joins = 0 := by omega
    rw [same, none]
    refine ⟨fun le => ?_, rfl, fun more => absurd more (Nat.not_lt.2 beyond), fun _ => rfl⟩
    exact pane.buffer.lines_eq_parts (by omega) 0

/-- The end of a sentence, an empty line, an indent and a closing parenthesis; the last joint is pulled back. -/
theorem joinLines_folds_mixed :
    let text := "a.\n\n \tb\n)\n  \nc".toList
    let pane := (Pane.showing (.ofText text) {} 40 12).joinLines 0 5
    pane.buffer.lines = ["a.  b)".toList, "c".toList] ∧ pane.buffer.text.filter isSolid = "a.b)c".toList ∧
      pane.cursor.pos = ⟨0, 5⟩ := by
  intro text pane
  have plain : Plain (Pane.showing (.ofText text) {} 40 12).buffer.text := by decide
  obtain ⟨lines, solid, cursor, -⟩ := joinLines_folds plain 0 5
  exact ⟨(lines (by decide)).trans (by decide), solid.trans (by decide),
    (cursor (by decide)).trans (by decide)⟩

end Pane

end ModalPanes
