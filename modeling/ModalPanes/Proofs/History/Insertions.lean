import ModalPanes.History
import ModalPanes.Pane.Keys
import ModalPanes.Proofs.Text.Coordinates
import ModalPanes.Proofs.Text.Cuts

/-!
# Where an insertion stops

An edit knows the text put in and where it starts, and takes its stop from these two alone: a line feed goes down a line,
any other character goes on by a column.  The buffer has more line breaks than that, and a carriage return is one of them
or not, by what is behind it.  So the count is right for the texts in which, the last character apart, only line feeds and
the carriage returns in front of them break lines, put in where they do not come between a carriage return and a line feed
or make such a pair with the text in front.  For any other text the count stops too early, or starts too late, and undo
does not lead back.
-/

namespace ModalPanes

namespace Line

variable {c d : Char} {text : List Char}

/-- Each character of a text but the last is a line feed or goes on with its line. -/
def Counted : List Char → Prop
  | c :: d :: text => (c ≠ '\n' → Joins c (d :: text)) ∧ Counted (d :: text)
  | _ => True

instance decidableCounted : (text : List Char) → Decidable (Counted text)
  | c :: d :: text =>
      have := decidableCounted (d :: text)
      inferInstanceAs (Decidable ((c ≠ '\n' → Joins c (d :: text)) ∧ Counted (d :: text)))
  | [] => .isTrue trivial
  | [_] => .isTrue trivial

theorem counted_cons : Counted (c :: d :: text) ↔ (c ≠ '\n' → Joins c (d :: text)) ∧ Counted (d :: text) := Iff.rfl

theorem counted_singleton (c : Char) : Counted [c] := trivial

/-- Where the line feed is the only break, all of it is counted. -/
theorem counted_of_plain (plain : Plain text) : Counted text := by
  induction text with
  | nil => trivial
  | cons c text ih =>
      obtain ⟨plainChar, plain⟩ := Plain.cons_iff.1 plain
      cases text with
      | nil => trivial
      | cons d text => exact ⟨fun other breaks => absurd (plainChar breaks) other, ih plain⟩

end Line

/-- A text that is counted in lines as the buffer does, put in between a front part and a rest. -/
structure CountsAlike (front text rest : List Char) : Prop where
  breaks : Line.Counted text
  seam : front.getLast? = some '\r' → ((text ++ rest).head? = some '\n' ↔ rest.head? = some '\n')

/-- Plain text behind plain text is counted alike, whatever is behind it. -/
theorem CountsAlike.of_plain {front text : List Char} (plainFront : Plain front) (plain : Plain text)
    (rest : List Char) : CountsAlike front text rest where
  breaks := Line.counted_of_plain plain
  seam ends := absurd (plainFront '\r' (List.mem_of_getLast? ends) rfl) (by decide)

instance (front text rest : List Char) : Decidable (CountsAlike front text rest) :=
  decidable_of_iff
    (Line.Counted text ∧
      (front.getLast? = some '\r' → ((text ++ rest).head? = some '\n' ↔ rest.head? = some '\n')))
    ⟨fun both => ⟨both.1, both.2⟩, fun alike => ⟨alike.breaks, alike.seam⟩⟩

namespace Edit

theorem stopOf_one {c : Char} (other : c ≠ '\n') (start : Position) : stopOf start [c] = ⟨start.line, start.col + 1⟩ := by
  simp [stopOf, other]

theorem stopOf_newline_one (start : Position) : stopOf start ['\n'] = ⟨start.line + 1, 0⟩ := rfl

theorem stopOf_cons (start : Position) (c : Char) (text : List Char) :
    stopOf start (c :: text) = stopOf (stopOf start [c]) text := rfl

end Edit

namespace Buffer

variable {buf buf' : Buffer} {front text rest rest' : List Char} {c : Char} {pos : Position}

theorem index_next (cut : buf.text = front ++ c :: rest) :
    buf.index (Edit.stopOf (buf.positionOf front.length) [c]) = front.length + 1 := by
  have inside : front.length + 1 ≤ buf.length := by simp [length, cut]
  by_cases feed : c = '\n'
  · subst feed
    have next := positionOf_next cut
    rw [if_neg (Line.not_joins_newline rest)] at next
    rw [Edit.stopOf_newline_one, ← next, index_positionOf inside]
  · have here : buf.charAt? (buf.positionOf front.length) = some c := charAt?_positionOf (by simp [cut]) feed
    rw [Edit.stopOf_one feed, index_behind here, index_positionOf (Nat.le_of_succ_le inside)]

/-- A character that is counted as the buffer does leads to the position behind it. -/
theorem positionOf_counted (cut : buf.text = front ++ (c :: text) ++ rest)
    (counted : c ≠ '\n' → Line.Joins c (text ++ rest)) :
    buf.positionOf (front.length + 1) = Edit.stopOf (buf.positionOf front.length) [c] := by
  rw [List.append_assoc, List.cons_append] at cut
  rw [positionOf_next cut]
  by_cases feed : c = '\n'
  · rw [feed, if_neg (Line.not_joins_newline _), Edit.stopOf_newline_one]
  · rw [if_pos (counted feed), Edit.stopOf_one feed]

/-- The buffer goes down a line at least where the count does. -/
theorem line_add_count_le (cut : buf.text = front ++ c :: rest) :
    (buf.positionOf front.length).line + [c].count '\n' ≤ (buf.positionOf (front.length + 1)).line := by
  rw [positionOf_next cut]
  split
  · rename_i joins
    have other : c ≠ '\n' := by
      rintro rfl
      exact Line.not_joins_newline rest joins
    simp [other]
  · exact Nat.add_le_add_left (List.count_le_length ..) _

/-- A count that starts on the right place stops behind the text, if all its characters are counted. -/
theorem index_stopOf_counted (cut : buf.text = front ++ (c :: text) ++ rest) (counted : Line.Counted (c :: text)) :
    buf.index (Edit.stopOf (buf.positionOf front.length) (c :: text)) = front.length + text.length + 1 := by
  induction text generalizing front c with
  | nil => exact index_next (by simpa using cut)
  | cons d text ih =>
      obtain ⟨here, later⟩ := Line.counted_cons.1 counted
      have next := positionOf_counted cut here
      have behind : buf.text = (front ++ [c]) ++ (d :: text) ++ rest := by simpa using cut
      have stop := ih behind later
      rw [List.length_append, List.length_singleton, next] at stop
      rw [Edit.stopOf_cons, stop, List.length_cons]
      omega

/-- A count that is on a line further up than it should be does not reach the end of the text. -/
theorem index_stopOf_lt_of_above (cut : buf.text = front ++ (c :: text) ++ rest)
    (above : pos.line < (buf.positionOf front.length).line) :
    buf.index (Edit.stopOf pos (c :: text)) < front.length + text.length + 1 := by
  induction text generalizing front c pos with
  | nil =>
      have inside : front.length ≤ buf.length := by simp [length, cut]
      have le : Edit.stopOf pos [c] ≤ buf.positionOf front.length := by
        by_cases feed : c = '\n'
        · rw [feed, Edit.stopOf_newline_one, Position.le_def]
          exact Nat.lt_or_eq_of_le above |>.imp_right fun same => ⟨same, Nat.zero_le _⟩
        · rw [Edit.stopOf_one feed]
          exact .inl above
      have index : buf.index _ ≤ buf.index _ := index_mono le
      rw [index_positionOf inside] at index
      exact Nat.lt_succ_of_le index
  | cons d text ih =>
      have behind : buf.text = (front ++ [c]) ++ (d :: text) ++ rest := by simpa using cut
      have still : (Edit.stopOf pos [c]).line < (buf.positionOf (front ++ [c]).length).line := by
        rw [List.append_assoc, List.cons_append] at cut
        have down := line_add_count_le cut
        rw [Edit.stopOf_line, List.length_append, List.length_singleton]
        omega
      have stop := ih behind still
      rw [List.length_append, List.length_singleton] at stop
      rw [Edit.stopOf_cons, List.length_cons]
      omega

/-- A count falls behind at the first break that is no line feed. -/
theorem index_stopOf_lt (cut : buf.text = front ++ (c :: text) ++ rest) (uncounted : ¬ Line.Counted (c :: text)) :
    buf.index (Edit.stopOf (buf.positionOf front.length) (c :: text)) < front.length + text.length + 1 := by
  induction text generalizing front c with
  | nil => exact absurd (Line.counted_singleton c) uncounted
  | cons d text ih =>
      have cut' : buf.text = (front ++ [c]) ++ (d :: text) ++ rest := by simpa using cut
      have stop : buf.index (Edit.stopOf (Edit.stopOf (buf.positionOf front.length) [c]) (d :: text)) <
          (front ++ [c]).length + text.length + 1 := by
        by_cases here : c ≠ '\n' → Line.Joins c (d :: text)
        · rw [← positionOf_counted cut here]
          have := ih cut' fun later => uncounted (Line.counted_cons.2 ⟨here, later⟩)
          simpa using this
        · obtain ⟨feed, breaks⟩ := Classical.not_imp.1 here
          apply index_stopOf_lt_of_above cut'
          rw [List.append_assoc, List.cons_append] at cut
          have next := positionOf_next cut
          rw [if_neg (show ¬ Line.Joins c (d :: text ++ rest) from breaks)] at next
          rw [Edit.stopOf_one feed, List.length_append, List.length_singleton, next]
          exact Nat.lt_succ_self _
      rw [List.length_append, List.length_singleton] at stop
      rw [Edit.stopOf_cons, List.length_cons]
      omega

/-- Taking out what an edit put in takes out what is between its start and its stop. -/
theorem text_erase_rangeOf (buf : Buffer) (pos : Position) (text : List Char) :
    (buf.erase (Edit.rangeOf pos text)).text =
      buf.text.take (buf.index pos) ++ buf.text.drop (buf.index (Edit.stopOf pos text)) := by
  have le : buf.index pos ≤ buf.index (Edit.stopOf pos text) := index_mono (Edit.le_stopOf pos text)
  simp only [erase, Edit.rangeOf_eq]
  split
  · rename_i back
    rw [Nat.le_antisymm back le, List.take_append_drop]
  · rfl

/-- What is taken out from the right start on is the text put in, if the count stops behind it. -/
theorem text_erase_eq_iff (cut : buf.text = front ++ text ++ rest) (start : buf.index pos = front.length) :
    (buf.erase (Edit.rangeOf pos text)).text = front ++ rest ↔
      buf.index (Edit.stopOf pos text) = front.length + text.length := by
  have le := buf.index_le_length (Edit.stopOf pos text)
  have back : front.length ≤ buf.index (Edit.stopOf pos text) := start ▸ index_mono (Edit.le_stopOf pos text)
  have all : buf.length = front.length + text.length + rest.length := by simp [length, cut, Nat.add_assoc]
  rw [text_erase_rangeOf, start]
  constructor
  · intro same
    have lengths := congrArg List.length same
    rw [List.length_append, List.length_append, List.length_take, List.length_drop, ← length] at lengths
    omega
  · intro stop
    rw [stop, cut, List.append_assoc, List.take_left, ← List.append_assoc, ← List.length_append, List.drop_left]

/-- What is taken out from behind the first character put in on leaves that character there. -/
theorem text_erase_ne (cut : buf.text = front ++ text ++ rest) (start : buf.index pos = front.length + 1)
    (feed : text.head? = some c) (other : rest.head? ≠ some c) :
    (buf.erase (Edit.rangeOf pos text)).text ≠ front ++ rest := by
  intro same
  obtain ⟨text, rfl⟩ := List.head?_eq_some_iff.1 feed
  have left : buf.text.take (front.length + 1) = front ++ [c] := by
    rw [cut, List.append_assoc, List.take_length_add_append, List.cons_append, List.take_succ_cons, List.take_zero]
  rw [text_erase_rangeOf, start, left, List.append_assoc, List.singleton_append] at same
  have tails := List.append_cancel_left same
  exact other (by rw [← tails, List.head?_cons])

/-- A count that starts in front of the text put in stops behind it where the text is counted as the buffer does. -/
theorem index_stopOf_iff (cut : buf.text = front ++ text ++ rest) :
    buf.index (Edit.stopOf (buf.positionOf front.length) text) = front.length + text.length ↔ Line.Counted text := by
  cases text with
  | nil =>
      have inside : front.length ≤ buf.length := by simp [length, cut]
      exact ⟨fun _ => trivial, fun _ => index_positionOf inside⟩
  | cons c text =>
      constructor
      · intro stop
        by_contra uncounted
        exact absurd stop (Nat.ne_of_lt (index_stopOf_lt cut uncounted))
      · exact index_stopOf_counted cut

/-- A line feed put in behind a carriage return takes the start of the next line away from it. -/
theorem index_start_paired (cut : buf.text = front ++ '\r' :: rest) (cut' : buf'.text = front ++ '\r' :: '\n' :: rest')
    (single : rest.head? ≠ some '\n') : buf'.index (buf.positionOf (front.length + 1)) = front.length + 2 := by
  have same : buf.positionOf front.length = buf'.positionOf front.length := positionOf_congr cut cut' fun _ => Iff.rfl
  have start := positionOf_next cut
  rw [if_neg (Line.joins_return.not.2 single), same] at start
  have joined := positionOf_next cut'
  rw [if_pos (Line.joins_return.2 rfl)] at joined
  have cutFeed : buf'.text = (front ++ ['\r']) ++ '\n' :: rest' := by simpa using cut'
  have feed := positionOf_next cutFeed
  rw [if_neg (Line.not_joins_newline _), List.length_append, List.length_singleton, joined] at feed
  have inside : front.length + 2 ≤ buf'.length := by simp [length, cut']
  rw [start, ← feed, index_positionOf inside]

/-- A text put in between a carriage return and a line feed starts a line of its own there, and its count does not. -/
theorem index_start_parted (cut : buf.text = front ++ '\r' :: '\n' :: rest) (cut' : buf'.text = front ++ '\r' :: rest')
    (single : rest'.head? ≠ some '\n') :
    buf'.index (buf.positionOf (front.length + 1)) = front.length + 1 ∧
      (buf.positionOf (front.length + 1)).line < (buf'.positionOf (front.length + 1)).line := by
  have same : buf.positionOf front.length = buf'.positionOf front.length := positionOf_congr cut cut' fun _ => Iff.rfl
  have start := positionOf_next cut
  rw [if_pos (Line.joins_return.2 rfl), same] at start
  have behind := positionOf_next cut'
  rw [if_neg (Line.joins_return.not.2 single)] at behind
  have index := index_next cut'
  rw [Edit.stopOf_one (by decide), ← start] at index
  refine ⟨index, ?_⟩
  rw [start, behind]
  exact Nat.lt_succ_self _

theorem text_insert_positionOf {i : Nat} (le : i ≤ buf.length) (text : List Char) :
    (buf.insert (buf.positionOf i) text).text = buf.text.take i ++ text ++ buf.text.drop i := by
  unfold insert
  split
  · rename_i empty
    rw [List.isEmpty_iff.1 empty, List.append_nil, List.take_append_drop]
  · rw [index_positionOf le]

section Insertion

variable (cut : buf.text = front ++ rest) (cut' : buf'.text = front ++ text ++ rest)
include cut cut'

/-- A text put in where it neither makes nor parts a pair of carriage return and line feed is between its start and its
stop just where it is counted as the buffer does. -/
theorem counts_alike_of_seam
    (seam : front.getLast? = some '\r' → ((text ++ rest).head? = some '\n' ↔ rest.head? = some '\n')) :
    buf'.index (buf.positionOf front.length) = front.length ∧
      (buf'.index (Edit.stopOf (buf.positionOf front.length) text) = front.length + text.length ↔
        CountsAlike front text rest) := by
  have same : buf'.positionOf front.length = buf.positionOf front.length :=
    positionOf_congr (by rw [cut', List.append_assoc]) cut seam
  have inside : front.length ≤ buf'.length := by simp [length, cut']
  rw [← same]
  refine ⟨index_positionOf inside, ?_⟩
  rw [index_stopOf_iff cut']
  exact ⟨fun breaks => ⟨breaks, seam⟩, CountsAlike.breaks⟩

/-- A text put in where it makes such a pair starts too late, one where it parts a pair stops too early. -/
theorem counts_off_of_not_seam
    (broken : ¬ (front.getLast? = some '\r' → ((text ++ rest).head? = some '\n' ↔ rest.head? = some '\n'))) :
    (buf'.index (buf.positionOf front.length) = front.length + 1 ∧ text.head? = some '\n' ∧ rest.head? ≠ some '\n') ∨
      (buf'.index (buf.positionOf front.length) = front.length ∧
        buf'.index (Edit.stopOf (buf.positionOf front.length) text) < front.length + text.length) := by
  obtain ⟨ends, heads⟩ := Classical.not_imp.1 broken
  obtain ⟨front, rfl⟩ := List.getLast?_eq_some_iff.1 ends
  cases text with
  | nil => exact absurd Iff.rfl heads
  | cons c text =>
      have cutReturn : buf'.text = front ++ '\r' :: (c :: text ++ rest) := by simpa using cut'
      rw [List.append_assoc, List.singleton_append] at cut
      rw [List.length_append, List.length_singleton]
      by_cases pair : rest.head? = some '\n'
      · obtain ⟨behind, rfl⟩ := List.head?_eq_some_iff.1 pair
        have single : (c :: text ++ '\n' :: behind).head? ≠ some '\n' := fun feed => heads ⟨fun _ => pair, fun _ => feed⟩
        obtain ⟨start, above⟩ := index_start_parted cut cutReturn single
        have stop : buf'.index (Edit.stopOf (buf.positionOf (front.length + 1)) _) < _ :=
          index_stopOf_lt_of_above cut' (by simpa using above)
        rw [List.length_append, List.length_singleton] at stop
        exact .inr ⟨start, stop⟩
      · obtain rfl : c = '\n' := by
          by_contra other
          exact heads ⟨fun feed => absurd (Option.some.inj feed) other, fun feed => absurd feed pair⟩
        exact .inl ⟨index_start_paired cut cutReturn pair, rfl, pair⟩

end Insertion

/-- The history's end of an insertion is the buffer's just where the text put in is counted as the buffer does: only then
does the range of the edit denote the text put in, and only then does taking the edit back restore the text. -/
theorem insertion_stops_iff (buf : Buffer) (i : Nat) (le : i ≤ buf.length) (text : List Char) :
    let start := buf.positionOf i
    let after := (Edit.insert start text).apply buf
    (after.index start = i ∧ after.index (Edit.stopOf start text) = i + text.length ↔
        CountsAlike (buf.text.take i) text (buf.text.drop i)) ∧
      (((Edit.insert start text).inverse.apply after).text = buf.text ↔
        CountsAlike (buf.text.take i) text (buf.text.drop i)) := by
  intro start after
  have cut : buf.text = buf.text.take i ++ buf.text.drop i := (List.take_append_drop i buf.text).symm
  have cut' : after.text = buf.text.take i ++ text ++ buf.text.drop i := text_insert_positionOf le text
  have front : (buf.text.take i).length = i := List.length_take_of_le le
  by_cases seam : (buf.text.take i).getLast? = some '\r' →
      ((text ++ buf.text.drop i).head? = some '\n' ↔ (buf.text.drop i).head? = some '\n')
  · obtain ⟨first, last⟩ := counts_alike_of_seam cut cut' seam
    have restores := text_erase_eq_iff cut' first
    rw [last, ← cut] at restores
    rw [front] at first last restores
    exact ⟨⟨fun both => last.1 both.2, fun alike => ⟨first, last.2 alike⟩⟩, restores⟩
  · have off : ¬ CountsAlike (buf.text.take i) text (buf.text.drop i) := fun alike => seam alike.seam
    rcases counts_off_of_not_seam cut cut' seam with ⟨first, feed, single⟩ | ⟨first, last⟩
    · have stays := text_erase_ne cut' first feed single
      rw [← cut] at stays
      rw [front] at first stays
      exact ⟨iff_of_false (fun both => Nat.succ_ne_self i (first.symm.trans both.1)) off, iff_of_false stays off⟩
    · have restores := text_erase_eq_iff cut' first
      rw [← cut] at restores
      have short := Nat.ne_of_lt last
      rw [front] at first short restores
      exact ⟨iff_of_false (fun both => short both.2) off, iff_of_false (fun same => short (restores.1 same)) off⟩

/-- Two lines put in behind a carriage return. -/
theorem insertion_stops_behind_return :
    let buf : Buffer := { text := "a\rb".toList }
    let edit := Edit.insert (buf.positionOf 2) "x\r\ny\n".toList
    2 ≤ buf.length ∧ CountsAlike "a\r".toList "x\r\ny\n".toList ['b'] ∧
      (edit.apply buf).text = "a\rx\r\ny\nb".toList ∧
      (edit.apply buf).index (Edit.stopOf (buf.positionOf 2) "x\r\ny\n".toList) = 7 ∧
      (edit.inverse.apply (edit.apply buf)).text = buf.text := by
  intro buf edit
  obtain ⟨stops, restores⟩ := insertion_stops_iff buf 2 (by decide) "x\r\ny\n".toList
  have alike : CountsAlike "a\r".toList "x\r\ny\n".toList ['b'] := by decide
  exact ⟨by decide, alike, by decide, (stops.2 alike).2, restores.2 alike⟩

end Buffer

namespace Pane

/-- A line that ends in a carriage return is put in front of itself, with the character behind it: the edit stops a line
too early, and undo leaves that character, in a text that counts as unchanged. -/
theorem undo_leaves_character :
    let text := "a\rb".toList
    let put := (Pane.showing (.ofText text) {} 40 12).handleKeys [.char 'v', .char 'j', .char 'y', .char 'P']
    let undone := put.handleKeys [.char 'u']
    put.buffer.text = "a\rba\rb".toList ∧ put.buffer.index (Edit.stopOf .zero text) = 2 ∧
      undone.buffer.text = "ba\rb".toList ∧ undone.isDirty = false := by
  decide +kernel

end Pane

end ModalPanes
