import ModalPanes.Motion
import ModalPanes.Proofs.Text.Characters
import ModalPanes.Proofs.Text.ObjectSpans

/-!
# Where motions lead

A motion leads to a place between the characters of a line, and one that has a direction does not lead back.
Word motions go by indices: a position that a cursor can stand on is the one of its index, so that a later index
is a later position.  The others go by lines and columns.
-/

namespace ModalPanes

namespace Direction

/-- Going this way from the first position can lead to the second. -/
def allows : Direction → Position → Position → Prop
  | forward, pos, target => pos ≤ target
  | backward, pos, target => target ≤ pos

variable {way : Direction} {a b c : Position}

theorem allows_refl (way : Direction) (pos : Position) : way.allows pos pos := by
  cases way <;> simp [allows, Position.le_def]

theorem allows_trans (first : way.allows a b) (second : way.allows b c) : way.allows a c := by
  cases way <;> simp only [allows, Position.le_def] at * <;> omega

end Direction

def WordStep.way : WordStep → Direction
  | forward | endForward => .forward
  | backward | endBackward => .backward

/-- The way that a motion goes, if it has one.  A repeated search for a character goes the way of the last one,
or the other way. -/
def MotionContext.way? (context : MotionContext) : Motion → Option Direction
  | .right | .down | .lineEnd | .nextLineStart => some .forward
  | .left | .up | .lineStart | .previousLineStart => some .backward
  | .word step _ => some step.way
  | .paragraph way => some way
  | .find find _ => some find.direction
  | .repeatFind reversed =>
      context.lastFind.map fun found => if reversed then found.1.direction.opposite else found.1.direction
  | _ => none

namespace Line

/-- Only the last line of a text can have no character at all. -/
theorem last_of_nil {text : List Char} {n : Nat} (found : (pieces text)[n]? = some []) :
    n + 1 = (pieces text).length := by
  induction text generalizing n with
  | nil =>
      have inside := (List.getElem?_eq_some_iff.1 found).1
      simpa using inside
  | cons c text ih =>
      obtain ⟨piece, rest, cut⟩ := List.exists_cons_of_ne_nil (pieces_ne_nil text)
      rw [cut] at ih
      rw [pieces_cons, cut, consPieces] at found ⊢
      cases n with
      | zero => split at found <;> simp at found
      | succ n =>
          split at found <;> rename_i joins
          · rw [if_pos joins]
            exact congrArg (· + 1) (ih found)
          · rw [if_neg joins]
            exact ih (n := n + 1) found

end Line

namespace Word

variable (class_ : Char → CharClass)

theorem previousStart_le (before : List Char) : previousStart class_ before ≤ before.length := by
  induction before with
  | nil => exact Nat.le_refl 0
  | cons c rest ih =>
      have run := (rest.dropWhile_suffix (class_ · == class_ c)).length_le
      unfold previousStart
      rw [List.length_cons]
      split_ifs <;> omega

theorem lastEnd_le (before : List Char) : lastEnd class_ before ≤ before.length := by
  induction before with
  | nil => exact Nat.le_refl 0
  | cons c rest ih =>
      unfold lastEnd
      rw [List.length_cons]
      split_ifs <;> omega

theorem previousEnd_le (first : CharClass) (before : List Char) :
    previousEnd class_ first before ≤ before.length := by
  unfold previousEnd
  split
  · exact Nat.le_trans (lastEnd_le class_ _) (before.dropWhile_suffix _).length_le
  · exact lastEnd_le class_ before

end Word

namespace Buffer

variable {buf : Buffer} {pos target : Position}

theorem firstNonBlank_le (buf : Buffer) (line : Nat) : buf.firstNonBlank line ≤ buf.lineLength line :=
  (List.takeWhile_sublist _).length_le

theorem lastColumn_le (buf : Buffer) (line : Nat) : buf.lastColumn false line ≤ buf.lineLength line :=
  Nat.sub_le _ 1

theorem lastLine_lt (buf : Buffer) : buf.lastLine < buf.lineCount := Nat.sub_one_lt_of_lt buf.lineCount_pos

/-- A target on a line of the text, not behind its end, and on the side to which a motion goes, if it has one. -/
structure LeadsTo (buf : Buffer) (pos : Position) (way? : Option Direction) (target : Position) : Prop where
  line_lt : target.line < buf.lineCount
  col_le : target.col ≤ buf.lineLength target.line
  side : ∀ way ∈ way?, way.allows pos target

namespace LeadsTo

variable {way : Direction} {line col : Nat}

theorem along (admits : buf.Admits true target) (side : way.allows pos target) : buf.LeadsTo pos (some way) target :=
  ⟨admits.1, admits.2, by rintro other ⟨⟩; exact side⟩

theorem aside (admits : buf.Admits true target) : buf.LeadsTo pos none target :=
  ⟨admits.1, admits.2, by rintro other ⟨⟩⟩

theorem onLine (inside : pos.line < buf.lineCount) (short : col ≤ buf.lineLength pos.line) (onward : pos.col ≤ col) :
    buf.LeadsTo pos (some .forward) (pos.withCol col) :=
  along ⟨inside, short⟩ (.inr ⟨rfl, onward⟩)

theorem backOnLine (admits : buf.Admits true pos) (back : col ≤ pos.col) :
    buf.LeadsTo pos (some .backward) (pos.withCol col) :=
  along ⟨admits.1, Nat.le_trans back admits.2⟩ (.inr ⟨rfl, back⟩)

theorem below (inside : line ≤ buf.lastLine) (short : col ≤ buf.lineLength line) (later : pos.line < line) :
    buf.LeadsTo pos (some .forward) ⟨line, col⟩ :=
  along ⟨Nat.lt_of_le_of_lt inside buf.lastLine_lt, short⟩ (.inl later)

theorem above (inside : pos.line < buf.lineCount) (short : col ≤ buf.lineLength line) (earlier : line < pos.line) :
    buf.LeadsTo pos (some .backward) ⟨line, col⟩ :=
  along ⟨Nat.lt_trans earlier inside, short⟩ (.inl earlier)

end LeadsTo

section Words

/-- The position is the one of its index. -/
def Exact (buf : Buffer) (pos : Position) : Prop := buf.positionOf (buf.index pos) = pos

theorem exact_positionOf (buf : Buffer) (i : Nat) : buf.Exact (buf.positionOf i) := by
  unfold Exact
  rw [← buf.positionOf_min i, index_positionOf (Nat.min_le_right _ _)]

theorem Exact.admits (exact : buf.Exact pos) : buf.Admits true pos := exact ▸ buf.admits_positionOf _

/-- A cursor on a character, or on an empty line, stands at the position of its index. -/
theorem Admits.exact (admits : buf.Admits false pos) : buf.Exact pos := by
  obtain ⟨piece, found, -⟩ := admits_true.1 (admits.widen true)
  have short : pos.col ≤ buf.lineLength pos.line - 1 := admits.2
  have length := lineLength_of_piece found
  have trimmed := Line.length_trimBreak_le piece
  have index := index_of_admits (admits.widen true)
  have le := buf.index_le_length pos
  have inside : pos.col < piece.length ∨ pos.line + 1 = buf.pieces.length := by
    rcases Nat.lt_or_ge pos.col piece.length with inside | ge
    · exact .inl inside
    · obtain rfl : piece = [] := List.length_eq_zero_iff.1 (by omega)
      exact .inr (Line.last_of_nil found)
  unfold Exact
  rw [positionOf, Nat.min_eq_left le, index, lineStart, locate_of_piece found inside 0, Nat.zero_add]

/-- A later index is a later place. -/
theorem Exact.le_positionOf {i : Nat} (exact : buf.Exact pos) (le : buf.index pos ≤ i) : pos ≤ buf.positionOf i := by
  have later : buf.positionOf (buf.index pos) ≤ buf.positionOf i := positionOf_mono le
  rwa [exact] at later

theorem Exact.positionOf_le {i : Nat} (exact : buf.Exact pos) (le : i ≤ buf.index pos) : buf.positionOf i ≤ pos := by
  have earlier : buf.positionOf i ≤ buf.positionOf (buf.index pos) := positionOf_mono le
  rwa [exact] at earlier

theorem length_before_le (buf : Buffer) (i : Nat) : (buf.before i).length ≤ i := by
  rw [before, List.length_reverse]
  exact List.length_take_le i buf.text

theorem Exact.wordStep (exact : buf.Exact pos) (step : WordStep) (big : Bool) :
    buf.Exact (buf.wordStep step big pos) ∧ step.way.allows pos (buf.wordStep step big pos) := by
  have front := buf.length_before_le (buf.index pos)
  cases step with
  | forward => exact ⟨buf.exact_positionOf _, exact.le_positionOf (Nat.le_add_right _ _)⟩
  | backward =>
      have start := Word.previousStart_le (classifier big) (buf.before (buf.index pos))
      exact ⟨buf.exact_positionOf _, exact.positionOf_le (Nat.le_trans start front)⟩
  | endForward => exact ⟨buf.exact_positionOf _, exact.le_positionOf (Nat.le_add_right _ _)⟩
  | endBackward =>
      have stop := Word.previousEnd_le (classifier big)
        (Word.frontClass (classifier big) (buf.after (buf.index pos))) (buf.before (buf.index pos))
      exact ⟨buf.exact_positionOf _, exact.positionOf_le (Nat.le_trans stop front)⟩

theorem Exact.leadsTo_wordSteps (exact : buf.Exact pos) (step : WordStep) (big : Bool) (count : Nat) :
    buf.LeadsTo pos (some step.way) (Nat.repeat (buf.wordStep step big) count pos) := by
  have steps : buf.Exact (Nat.repeat (buf.wordStep step big) count pos) ∧
      step.way.allows pos (Nat.repeat (buf.wordStep step big) count pos) := by
    induction count with
    | zero => exact ⟨exact, step.way.allows_refl pos⟩
    | succ count ih =>
        obtain ⟨reached, onward⟩ := ih
        obtain ⟨next, further⟩ := reached.wordStep step big
        exact ⟨next, Direction.allows_trans onward further⟩
  exact .along steps.1.admits steps.2

/-- For an operator the last step may stop at the end of a line, which is not in front of where it began. -/
theorem Exact.leadsTo_wordsForward (exact : buf.Exact pos) (operator big : Bool) (count : Nat) :
    buf.LeadsTo pos (some .forward) (buf.wordsForward operator big count pos) := by
  induction count generalizing pos with
  | zero => exact .along exact.admits (Direction.allows_refl .forward pos)
  | succ count ih =>
      obtain ⟨next, onward⟩ := exact.wordStep .forward big
      unfold Buffer.wordsForward
      dsimp only
      split
      · obtain ⟨inside, short⟩ := exact.admits
        exact .onLine inside (Nat.le_refl _) short
      · have later := ih next
        exact .along ⟨later.line_lt, later.col_le⟩ (Direction.allows_trans onward (later.side _ rfl))

end Words

section Paragraphs

variable {line count : Nat}

theorem downWhile_bounds (buf : Buffer) (empty : Bool) (room line : Nat) :
    line ≤ buf.downWhile empty room line ∧ buf.downWhile empty room line ≤ line + room := by
  induction room generalizing line with
  | zero => exact ⟨Nat.le_refl _, Nat.le_refl _⟩
  | succ room ih =>
      have later := ih (line + 1)
      unfold downWhile
      split <;> omega

theorem lt_downWhile {empty : Bool} {room : Nat} (starts : buf.isEmptyLine line = empty) (more : 0 < room) :
    line < buf.downWhile empty room line := by
  obtain ⟨room, rfl⟩ := Nat.exists_eq_succ_of_ne_zero (Nat.ne_of_gt more)
  unfold downWhile
  rw [if_pos starts]
  exact (buf.downWhile_bounds empty room (line + 1)).1

theorem paragraphDown_bounds (inside : line ≤ buf.lastLine) :
    line ≤ buf.paragraphDown line ∧ buf.paragraphDown line ≤ buf.lastLine := by
  have empty := buf.downWhile_bounds true (buf.lastLine - line) line
  have filled := buf.downWhile_bounds false
    (buf.lastLine - buf.downWhile true (buf.lastLine - line) line)
    (buf.downWhile true (buf.lastLine - line) line)
  unfold paragraphDown
  dsimp only
  omega

/-- The first line is passed over as an empty one or as one that is not. -/
theorem lt_paragraphDown (more : line < buf.lastLine) : line < buf.paragraphDown line := by
  have filled := buf.downWhile_bounds false
    (buf.lastLine - buf.downWhile true (buf.lastLine - line) line)
    (buf.downWhile true (buf.lastLine - line) line)
  unfold paragraphDown
  dsimp only
  cases starts : buf.isEmptyLine line with
  | true =>
      have passed := lt_downWhile starts (Nat.sub_pos_of_lt more)
      omega
  | false =>
      have stays : buf.downWhile true (buf.lastLine - line) line = line := by
        cases buf.lastLine - line with
        | zero => rfl
        | succ room => simp [downWhile, starts]
      rw [stays]
      exact lt_downWhile starts (Nat.sub_pos_of_lt more)

theorem repeat_paragraphDown (inside : line ≤ buf.lastLine) (count : Nat) :
    line ≤ Nat.repeat buf.paragraphDown count line ∧
      Nat.repeat buf.paragraphDown count line ≤ buf.lastLine := by
  induction count with
  | zero => exact ⟨Nat.le_refl _, inside⟩
  | succ count ih =>
      have next := paragraphDown_bounds ih.2
      exact ⟨Nat.le_trans ih.1 next.1, next.2⟩

/-- Down by paragraphs leads to a line below, or to the end of the last one. -/
theorem leadsTo_paragraphForward (admits : buf.Admits true pos) (moves : 0 < count) :
    buf.LeadsTo pos (some .forward) (buf.paragraphForward pos count) := by
  obtain ⟨count, rfl⟩ := Nat.exists_eq_succ_of_ne_zero (Nat.ne_of_gt moves)
  obtain ⟨inside, short⟩ := admits
  have above : pos.line ≤ buf.lastLine := Nat.le_sub_one_of_lt inside
  have before := repeat_paragraphDown above count
  have after := paragraphDown_bounds before.2
  unfold paragraphForward
  rw [Nat.succ_eq_add_one, Nat.repeat]
  dsimp only
  split
  · rename_i ends
    rw [ends]
    rcases Nat.lt_or_eq_of_le above with above | same
    · exact .below (Nat.le_refl _) (Nat.le_refl _) above
    · rw [← same]
      exact .onLine inside (Nat.le_refl _) short
  · rename_i earlier
    have passed : Nat.repeat buf.paragraphDown count pos.line < buf.lastLine := by
      apply Nat.lt_of_le_of_ne before.2
      intro ends
      rw [ends] at after earlier
      exact earlier (Nat.le_antisymm after.2 after.1)
    have onward := lt_paragraphDown passed
    exact .below after.2 (Nat.zero_le _) (Nat.lt_of_le_of_lt before.1 onward)

theorem upWhile_le (buf : Buffer) (empty : Bool) (line : Nat) : buf.upWhile empty line ≤ line := by
  induction line with
  | zero => exact Nat.le_refl 0
  | succ line ih =>
      unfold upWhile
      split <;> omega

theorem paragraphUp_le (buf : Buffer) (line : Nat) : buf.paragraphUp line ≤ line :=
  Nat.le_trans (buf.upWhile_le false _) (buf.upWhile_le true line)

/-- Up by paragraphs leads to the start of a line that is not below. -/
theorem leadsTo_paragraphBackward (admits : buf.Admits true pos) (count : Nat) :
    buf.LeadsTo pos (some .backward) (buf.paragraphBackward pos count) := by
  have above : Nat.repeat buf.paragraphUp count pos.line ≤ pos.line := by
    induction count with
    | zero => exact Nat.le_refl _
    | succ count ih => exact Nat.le_trans (buf.paragraphUp_le _) ih
  unfold paragraphBackward
  rcases Nat.lt_or_eq_of_le above with higher | same
  · exact .above admits.1 (Nat.zero_le _) higher
  · rw [same]
    exact .backOnLine admits (Nat.zero_le _)

end Paragraphs

section Finds

variable {c : Char} {count col : Nat}

theorem findForward?_bounds (found : buf.findForward? pos c count = some col) :
    pos.col < col ∧ col < buf.lineLength pos.line := by
  have bounds := columnsOf_bounds (List.mem_of_getElem? found)
  rw [List.length_drop] at bounds
  unfold lineLength
  omega

theorem findBackward?_lt (found : buf.findBackward? pos c count = some col) : col < pos.col := by
  have bounds := columnsOf_bounds (List.mem_reverse.1 (List.mem_of_getElem? found))
  rw [List.length_take] at bounds
  omega

/-- A character is found on the line, and stopping short of it does not lead back. -/
theorem leadsTo_findTarget? {find : Find} {repeated : Bool} {target : Target} (admits : buf.Admits true pos)
    (found : buf.findTarget? pos find c count repeated = some target) :
    buf.LeadsTo pos (some find.direction) target.pos := by
  obtain ⟨way, till⟩ := find
  unfold findTarget? at found
  cases way with
  | forward =>
      obtain ⟨col, here, rfl⟩ := Option.map_eq_some_iff.1 found
      obtain ⟨behind, within⟩ := findForward?_bounds here
      dsimp only [Position.withCol] at behind within
      exact .onLine admits.1 (by split <;> omega) (by split <;> omega)
  | backward =>
      obtain ⟨col, here, rfl⟩ := Option.map_eq_some_iff.1 found
      have front := findBackward?_lt here
      dsimp only [Position.withCol] at front
      exact .backOnLine admits (by split <;> omega)

end Finds

theorem admits_lineStartOf (buf : Buffer) (line : Nat) : buf.Admits true (buf.lineStartOf line) :=
  ⟨Nat.lt_of_le_of_lt (Nat.min_le_right _ _) buf.lastLine_lt, buf.firstNonBlank_le _⟩

theorem percent_lt {percent : Nat} (part : percent ≤ 100) : (percent * buf.lineCount + 99) / 100 - 1 < buf.lineCount := by
  have some := buf.lineCount_pos
  have most := Nat.mul_le_mul_right buf.lineCount part
  omega

theorem admits_matchingBracket? (found : buf.matchingBracket? pos = some target) : buf.Admits true target := by
  unfold matchingBracket? at found
  dsimp only at found
  split at found
  · cases found
  · obtain ⟨i, -, rfl⟩ := Option.map_eq_some_iff.1 found
    exact buf.admits_positionOf i

end Buffer

namespace MotionContext

variable {context : MotionContext} {motion : Motion} {target : Target}

theorem times_pos (context : MotionContext) : 0 < context.times := Nat.lt_of_lt_of_le Nat.one_pos (Nat.le_max_right _ 1)

/-- The wanted column is within each line that vertical movement comes to. -/
theorem sticky_within_le (context : MotionContext) (line : Nat) :
    context.cursor.sticky.within (context.buf.lastColumn false line) ≤ context.buf.lineLength line :=
  Nat.le_trans (context.cursor.sticky.within_le _) (context.buf.lastColumn_le line)

section Landing

variable (standing : context.buf.Admits false context.cursor.pos)
include standing

theorem lands_along_line
    (along : motion = .left ∨ motion = .right ∨ motion = .lineStart ∨ motion = .firstNonBlank ∨ motion = .column)
    (resolved : context.resolve motion = some target) :
    context.buf.LeadsTo context.cursor.pos (context.way? motion) target.pos := by
  have between := standing.widen true
  have short : context.cursor.pos.col ≤ context.buf.lineLength context.cursor.pos.line := between.2
  obtain rfl | rfl | rfl | rfl | rfl := along
  · obtain ⟨moves, aimed⟩ := Option.ite_none_left_eq_some.1 resolved
    obtain rfl := Option.some.inj aimed
    exact .backOnLine between (by omega)
  · obtain rfl := Option.some.inj resolved
    exact .onLine between.1 (Nat.min_le_right _ _) (Nat.le_min.2 ⟨Nat.le_add_right _ _, short⟩)
  · obtain rfl := Option.some.inj resolved
    exact .backOnLine between (Nat.zero_le _)
  · obtain rfl := Option.some.inj resolved
    exact .aside ⟨between.1, context.buf.firstNonBlank_le _⟩
  · obtain rfl := Option.some.inj resolved
    exact .aside ⟨between.1, Nat.le_trans (Nat.min_le_right _ _) (context.buf.lastColumn_le _)⟩

theorem lands_across_lines
    (across : motion = .up ∨ motion = .down ∨ motion = .nextLineStart ∨ motion = .previousLineStart)
    (resolved : context.resolve motion = some target) :
    context.buf.LeadsTo context.cursor.pos (context.way? motion) target.pos := by
  have between := standing.widen true
  have inside : context.cursor.pos.line ≤ context.buf.lastLine := Nat.le_sub_one_of_lt standing.1
  have times := context.times_pos
  obtain rfl | rfl | rfl | rfl := across
  all_goals
    obtain ⟨moves, aimed⟩ := Option.ite_none_left_eq_some.1 resolved
    obtain rfl := Option.some.inj aimed
  · exact .above between.1 (context.sticky_within_le _) (by omega)
  · exact .below (Nat.min_le_right _ _) (context.sticky_within_le _) (by omega)
  · exact .below (Nat.min_le_right _ _) (context.buf.firstNonBlank_le _) (by omega)
  · exact .above between.1 (context.buf.firstNonBlank_le _) (by omega)

theorem lands_on_line_end (resolved : context.resolve .lineEnd = some target) :
    context.buf.LeadsTo context.cursor.pos (context.way? .lineEnd) target.pos := by
  have onChar : context.cursor.pos.col ≤ context.buf.lastColumn false context.cursor.pos.line := standing.2
  have inside : context.cursor.pos.line ≤ context.buf.lastLine := Nat.le_sub_one_of_lt standing.1
  have times := context.times_pos
  obtain rfl := Option.some.inj resolved
  dsimp only
  rcases Nat.lt_or_ge context.cursor.pos.line
    (min (context.cursor.pos.line + context.times - 1) context.buf.lastLine) with below | same
  · exact .below (Nat.min_le_right _ _) (context.buf.lastColumn_le _) below
  · have here : min (context.cursor.pos.line + context.times - 1) context.buf.lastLine =
        context.cursor.pos.line := by omega
    rw [here]
    exact .onLine standing.1 (context.buf.lastColumn_le _) onChar

theorem lands_by_words {step : WordStep} {big : Bool} (resolved : context.resolve (.word step big) = some target) :
    context.buf.LeadsTo context.cursor.pos (context.way? (.word step big)) target.pos := by
  have exact := standing.exact
  cases step with
  | forward =>
      obtain rfl := Option.some.inj resolved
      exact exact.leadsTo_wordsForward context.operator big context.times
  | backward =>
      obtain rfl := Option.some.inj resolved
      exact exact.leadsTo_wordSteps .backward big _
  | endForward =>
      obtain rfl := Option.some.inj resolved
      exact exact.leadsTo_wordSteps .endForward big _
  | endBackward =>
      obtain rfl := Option.some.inj resolved
      exact exact.leadsTo_wordSteps .endBackward big _

theorem lands_by_paragraphs {way : Direction} (resolved : context.resolve (.paragraph way) = some target) :
    context.buf.LeadsTo context.cursor.pos (context.way? (.paragraph way)) target.pos := by
  have between := standing.widen true
  cases way with
  | forward =>
      obtain rfl := Option.some.inj resolved
      exact Buffer.leadsTo_paragraphForward between context.times_pos
  | backward =>
      obtain rfl := Option.some.inj resolved
      exact Buffer.leadsTo_paragraphBackward between context.times

theorem lands_on_found {reversed : Bool} (resolved : context.resolve (.repeatFind reversed) = some target) :
    context.buf.LeadsTo context.cursor.pos (context.way? (.repeatFind reversed)) target.pos := by
  obtain ⟨found, again, resolved⟩ := Option.bind_eq_some_iff.1 resolved
  have leads := Buffer.leadsTo_findTarget? (standing.widen true) resolved
  simp only [way?, again, Option.map_some]
  cases reversed <;> exact leads

omit standing in
theorem lands_on_match (resolved : context.resolve .matchBracket = some target) :
    context.buf.LeadsTo context.cursor.pos (context.way? .matchBracket) target.pos := by
  unfold resolve at resolved
  dsimp only at resolved
  split at resolved
  · split at resolved
    · obtain rfl := Option.some.inj resolved
      exact .aside ⟨Buffer.percent_lt ‹_›, context.buf.firstNonBlank_le _⟩
    · contradiction
  · obtain ⟨pos, found, aimed⟩ := Option.bind_eq_some_iff.1 resolved
    obtain rfl := Option.some.inj aimed
    exact .aside (Buffer.admits_matchingBracket? found)

omit standing in
theorem lands_on_line_start
    (starts : motion = .firstLine ∨ motion = .lastLine ∨ motion = .screenTop ∨ motion = .screenMiddle ∨
      motion = .screenBottom)
    (resolved : context.resolve motion = some target) :
    context.buf.LeadsTo context.cursor.pos (context.way? motion) target.pos := by
  obtain rfl | rfl | rfl | rfl | rfl := starts
  all_goals
    obtain rfl := Option.some.inj resolved
    exact .aside (context.buf.admits_lineStartOf _)

/-- Wherever a motion leads, there is a line, and a column that is not behind its end; and a motion that has a
direction does not lead to the other side of the cursor. -/
theorem resolve_lands (resolved : context.resolve motion = some target) :
    context.buf.LeadsTo context.cursor.pos (context.way? motion) target.pos := by
  cases motion with
  | left | right | lineStart | firstNonBlank | column => exact lands_along_line standing (by simp) resolved
  | up | down | nextLineStart | previousLineStart => exact lands_across_lines standing (by simp) resolved
  | lineEnd => exact lands_on_line_end standing resolved
  | word step big => exact lands_by_words standing resolved
  | firstLine | lastLine | screenTop | screenMiddle | screenBottom => exact lands_on_line_start (by simp) resolved
  | find find c => exact Buffer.leadsTo_findTarget? (standing.widen true) resolved
  | repeatFind reversed => exact lands_on_found standing resolved
  | paragraph way => exact lands_by_paragraphs standing resolved
  | matchBracket => exact lands_on_match resolved
  | search motion => contradiction

end Landing

/-- The last search stopped short of a comma to the left, so the other way is to the right, and past the comma
under the cursor. -/
theorem resolve_lands_reversed :
    let context : MotionContext :=
      { buf := .ofText "one, two, three".toList
        cursor := .ofPosition ⟨0, 3⟩
        lastFind := some (⟨.backward, true⟩, ',') }
    context.buf.Admits false context.cursor.pos ∧
      context.resolve (.repeatFind true) = some ⟨⟨0, 7⟩, .inclusive, .reset⟩ ∧
        7 ≤ context.buf.lineLength 0 ∧ context.cursor.pos ≤ ⟨0, 7⟩ := by
  intro context
  have standing : context.buf.Admits false context.cursor.pos := by decide
  have resolved : context.resolve (.repeatFind true) = some ⟨⟨0, 7⟩, .inclusive, .reset⟩ := rfl
  have leads := resolve_lands standing resolved
  exact ⟨standing, resolved, leads.col_le, leads.side .forward rfl⟩

end MotionContext

end ModalPanes
