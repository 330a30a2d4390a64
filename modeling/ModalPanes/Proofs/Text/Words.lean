import ModalPanes.Proofs.Text.Place
import ModalPanes.Text.Word
import Mathlib.Order.Bounds.Defs

/-!
# Where words start and end

A word starts where the class of the characters changes to one of text, and ends where it changes from one.
The motions over words come to the next such place, or the previous one, and empty lines are such places
too, except for the end of the next word.  Each motion goes over the text one character at a time, and
stops at the first place where it may.
-/

namespace ModalPanes

/-- The least index behind another one with a property, or the end. -/
def IsNext (p : Nat → Prop) (i stop j : Nat) : Prop :=
  IsLeast {k | i < k ∧ k < stop ∧ p k} j ∨ (∀ k, i < k → k < stop → ¬ p k) ∧ j = stop

/-- The greatest index in front of another one with a property, or the start. -/
def IsPrevious (p : Nat → Prop) (i j : Nat) : Prop :=
  IsGreatest {k | k < i ∧ p k} j ∨ (∀ k < i, ¬ p k) ∧ j = 0

section Search

variable {p q : Nat → Prop} {i stop j : Nat}

theorem IsNext.congr (same : ∀ k < stop, p k ↔ q k) (next : IsNext p i stop j) : IsNext q i stop j := by
  rcases next with ⟨⟨behind, inside, here⟩, least⟩ | ⟨none, eq⟩
  · refine .inl ⟨⟨behind, inside, (same j inside).1 here⟩, ?_⟩
    rintro k ⟨behind, inside, here⟩
    exact least ⟨behind, inside, (same k inside).2 here⟩
  · exact .inr ⟨fun k behind inside here => none k behind inside ((same k inside).2 here), eq⟩

theorem IsPrevious.congr (same : ∀ k < i, p k ↔ q k) (previous : IsPrevious p i j) : IsPrevious q i j := by
  rcases previous with ⟨⟨inside, here⟩, greatest⟩ | ⟨none, eq⟩
  · refine .inl ⟨⟨inside, (same j inside).1 here⟩, ?_⟩
    rintro k ⟨inside, here⟩
    exact greatest ⟨inside, (same k inside).2 here⟩
  · exact .inr ⟨fun k inside here => none k inside ((same k inside).2 here), eq⟩

theorem IsNext.pass (other : ¬ p (i + 1)) (next : IsNext p (i + 1) stop j) : IsNext p i stop j := by
  have onward : ∀ k, i < k → p k → i + 1 < k := by
    intro k behind here
    rcases Nat.lt_or_eq_of_le behind with lt | rfl
    · exact lt
    · exact absurd here other
  rcases next with ⟨⟨behind, inside, here⟩, least⟩ | ⟨none, eq⟩
  · refine .inl ⟨⟨Nat.lt_of_succ_lt behind, inside, here⟩, ?_⟩
    rintro k ⟨behind, inside, here⟩
    exact least ⟨onward k behind here, inside, here⟩
  · exact .inr ⟨fun k behind inside here => none k (onward k behind here) inside here, eq⟩

theorem IsPrevious.pass (other : ¬ p i) (previous : IsPrevious p i j) : IsPrevious p (i + 1) j := by
  have back : ∀ k, k < i + 1 → p k → k < i := by
    intro k inside here
    rcases Nat.lt_or_eq_of_le (Nat.le_of_lt_succ inside) with lt | rfl
    · exact lt
    · exact absurd here other
  rcases previous with ⟨⟨inside, here⟩, greatest⟩ | ⟨none, eq⟩
  · refine .inl ⟨⟨Nat.lt_succ_of_lt inside, here⟩, ?_⟩
    rintro k ⟨inside, here⟩
    exact greatest ⟨back k inside here, here⟩
  · exact .inr ⟨fun k inside here => none k (back k inside here) here, eq⟩

/-- A property of the place between the characters in front, given in reverse, and those behind, as one of
the index. -/
def Splits (here : List Char → List Char → Bool) (text : List Char) (k : Nat) : Prop :=
  here (text.take k).reverse (text.drop k) = true

theorem splits_or {here there : List Char → List Char → Bool} {text : List Char} {k : Nat} :
    Splits (fun before after => here before after || there before after) text k ↔
      Splits here text k ∨ Splits there text k := by
  simp [Splits]

theorem splits_length {here : List Char → List Char → Bool} {before after : List Char} :
    Splits here (before.reverse ++ after) before.length ↔ here before after = true := by
  unfold Splits
  rw [List.take_left' (List.length_reverse ..), List.drop_left' (List.length_reverse ..), List.reverse_reverse]

/-- What counts the characters up to the next place of a kind answers that place. -/
theorem isNext_of_step {here : List Char → List Char → Bool} {count : List Char → Nat}
    (atEnd : count [] = 0) (inside : ∀ before, here before [] = false)
    (step : ∀ before c rest, Plain (c :: rest) →
      count (c :: rest) = if here (c :: before) rest then 1 else count rest + 1)
    (before : List Char) {after : List Char} (plain : Plain after) :
    IsNext (Splits here (before.reverse ++ after)) before.length (before.reverse ++ after).length
      (before.length + count after) := by
  induction after generalizing before with
  | nil =>
      refine .inr ⟨fun k behind inside => ?_, ?_⟩
      · simp at inside
        omega
      · simp [atEnd]
  | cons c rest ih =>
      have same : before.reverse ++ c :: rest = (c :: before).reverse ++ rest := by simp
      have split := @splits_length here (c :: before) rest
      rw [step before c rest plain, same]
      cases stops : here (c :: before) rest with
      | true =>
          have more : rest ≠ [] := by
            rintro rfl
            rw [inside] at stops
            contradiction
          refine .inl ⟨⟨Nat.lt_succ_self _, ?_, split.2 stops⟩, fun k mem => mem.1⟩
          have positive := List.length_pos_iff.2 more
          simp
          omega
      | false =>
          have other : ¬ Splits here ((c :: before).reverse ++ rest) (before.length + 1) := by
            rw [← List.length_cons (a := c), split, stops]
            exact Bool.false_ne_true
          have next := (ih (c :: before) (Plain.cons_iff.1 plain).2).pass other
          rwa [List.length_cons, Nat.add_right_comm, Nat.add_assoc] at next

/-- What finds the index of the last place of a kind answers that place. -/
theorem isPrevious_of_step {here : List Char → List Char → Bool} {find : List Char → List Char → Nat}
    (atStart : ∀ after, find [] after = 0)
    (step : ∀ c rest after, Plain (c :: rest) →
      find (c :: rest) after = if here rest (c :: after) then rest.length else find rest (c :: after))
    {before : List Char} (after : List Char) (plain : Plain before) :
    IsPrevious (Splits here (before.reverse ++ after)) before.length (find before after) := by
  induction before generalizing after with
  | nil => exact .inr ⟨fun k inside => absurd inside (Nat.not_lt_zero k), atStart after⟩
  | cons c rest ih =>
      have same : (c :: rest).reverse ++ after = rest.reverse ++ c :: after := by simp
      have split := @splits_length here rest (c :: after)
      rw [step c rest after plain, same]
      cases stops : here rest (c :: after) with
      | true => exact .inl ⟨⟨Nat.lt_succ_self _, split.2 stops⟩, fun k mem => Nat.le_of_lt_succ mem.1⟩
      | false =>
          refine IsPrevious.pass ?_ (ih (c :: after) (Plain.cons_iff.1 plain).2)
          rw [split, stops]
          exact Bool.false_ne_true

end Search

namespace Word

variable (class_ : Char → CharClass)

/-- A word starts at an index: a character of text, in front of which there is none of its class. -/
def StartsAt (text : List Char) (i : Nat) : Prop :=
  ∃ c, text[i]? = some c ∧ (class_ c).isText = true ∧
    ∀ d, 0 < i → text[i - 1]? = some d → class_ d ≠ class_ c

/-- A word ends at an index: a character of text, behind which there is none of its class. -/
def EndsAt (text : List Char) (i : Nat) : Prop :=
  ∃ c, text[i]? = some c ∧ (class_ c).isText = true ∧ ∀ d, text[i + 1]? = some d → class_ d ≠ class_ c

/-- A word starts behind these characters, given in reverse. -/
def startsHere (before : List Char) : List Char → Bool
  | [] => false
  | c :: _ => (class_ c).isText && before.head?.all fun d => class_ d != class_ c

/-- The first of these characters ends a word. -/
def endsHere : List Char → Bool
  | [] => false
  | c :: rest => (class_ c).isText && rest.head?.all fun d => class_ d != class_ c

/-- The place behind these characters, given in reverse, is an empty line. -/
def emptyHere (before : List Char) : List Char → Bool
  | [] => false
  | c :: _ => c == '\n' && before.head?.all (· == '\n')

theorem head?_reverse_take {text : List Char} {k : Nat} (inside : k < text.length) (d : Char) :
    (text.take k).reverse.head? = some d ↔ 0 < k ∧ text[k - 1]? = some d := by
  rw [List.head?_reverse, List.getLast?_eq_getElem?, List.length_take, Nat.min_eq_left (Nat.le_of_lt inside),
    List.getElem?_take]
  cases k with
  | zero => simp
  | succ k => simp

variable {class_} {text : List Char} {k : Nat}

theorem splits_startsHere (inside : k < text.length) :
    Splits (startsHere class_) text k ↔ StartsAt class_ text k := by
  unfold Splits StartsAt
  rw [List.drop_eq_getElem_cons inside, List.getElem?_eq_getElem inside]
  have front := head?_reverse_take inside
  simp only [startsHere, Bool.and_eq_true, Option.all_eq_true, bne_iff_ne, front]
  simp

theorem splits_endsHere (inside : k < text.length) :
    Splits (fun _ => endsHere class_) text k ↔ EndsAt class_ text k := by
  unfold Splits EndsAt
  rw [List.drop_eq_getElem_cons inside, List.getElem?_eq_getElem inside]
  simp only [endsHere, Bool.and_eq_true, Option.all_eq_true, bne_iff_ne, List.head?_drop]
  simp

theorem splits_emptyHere (inside : k < text.length) :
    Splits emptyHere text k ↔ text[k]? = some '\n' ∧ ∀ d, 0 < k → text[k - 1]? = some d → d = '\n' := by
  unfold Splits
  rw [List.drop_eq_getElem_cons inside, List.getElem?_eq_getElem inside]
  have front := head?_reverse_take inside
  simp only [emptyHere, Bool.and_eq_true, Option.all_eq_true, beq_iff_eq, front]
  simp

section Steps

variable {before after rest : List Char} {c d : Char} {first : CharClass}

@[simp] theorem toNextStart_nil : toNextStart class_ [] = 0 := rfl

theorem toNextStart_of_text (isText : (class_ c).isText = true) :
    toNextStart class_ (c :: rest) = (rest.takeWhile (class_ · == class_ c)).length +
      gapLength class_ (rest.drop (rest.takeWhile (class_ · == class_ c)).length) + 1 := by
  simp only [toNextStart, frontClass, isText, if_true, List.takeWhile_cons, beq_self_eq_true, List.length_cons,
    List.drop_succ_cons]
  omega

theorem toNextStart_of_gap (isGap : (class_ c).isText = false) :
    toNextStart class_ (c :: rest) = gapLength class_ (c :: rest) := by
  simp [toNextStart, frontClass, isGap]

theorem gapLength_of_text (isText : (class_ c).isText = true) : gapLength class_ (c :: rest) = 0 := by
  unfold gapLength
  cases here : class_ c <;> simp_all [CharClass.isText]

theorem previousEnd_of_ne (other : first.isText = true → class_ c ≠ first) :
    previousEnd class_ first (c :: rest) = lastEnd class_ (c :: rest) := by
  unfold previousEnd
  split
  · rename_i isText
    rw [List.dropWhile_cons_of_neg (by simpa using other isText)]
  · rfl

theorem previousEnd_of_eq (isText : (class_ c).isText = true) :
    previousEnd class_ (class_ c) (c :: rest) = previousEnd class_ (class_ c) rest := by
  simp [previousEnd, isText]

theorem startsLine_iff (plain : Plain rest) : startsLine rest = rest.head?.all (· == '\n') := by
  cases rest with
  | nil => rfl
  | cons d rest =>
      have plainChar := (Plain.cons_iff.1 plain).1
      simp only [startsLine, List.head?_cons, Option.all_some]
      by_cases breaks : Line.isBreak d = true
      · rw [plainChar breaks]
        rfl
      · have other := Line.ne_newline_of_isBreak (Bool.eq_false_iff.2 breaks)
        simp [breaks, other]

theorem toNextEnd_of_text (isText : (class_ d).isText = true) :
    toNextEnd class_ (c :: d :: rest) = (rest.takeWhile (class_ · == class_ d)).length + 1 := by
  simp [toNextEnd, isText, Nat.add_comm]

theorem toNextEnd_of_gap (isGap : (class_ d).isText = false) :
    toNextEnd class_ (c :: d :: rest) = toNextEnd class_ (d :: rest) + 1 := by
  simp only [toNextEnd, List.drop_succ_cons, List.drop_zero, List.takeWhile_cons, isGap, Bool.not_false, if_true,
    List.length_cons]
  cases rest.drop (rest.takeWhile fun e => !(class_ e).isText).length with
  | nil => rfl
  | cons e rest => dsimp only; omega

/-- From one character on to the next, the next end of a word stays, unless it is reached. -/
theorem toNextEnd_cons :
    toNextEnd class_ (c :: rest) = if endsHere class_ rest then 1 else toNextEnd class_ rest + 1 := by
  cases rest with
  | nil => simp [toNextEnd, endsHere]
  | cons d rest =>
      cases isText : (class_ d).isText with
      | false => simp [toNextEnd_of_gap isText, endsHere, isText]
      | true =>
          rw [toNextEnd_of_text isText]
          cases rest with
          | nil => simp [endsHere, isText]
          | cons e rest =>
              by_cases same : class_ e = class_ d
              · rw [toNextEnd_of_text (same ▸ isText)]
                simp [endsHere, same]
              · simp [endsHere, isText, same]

/-- Only a line feed is of the class of line feeds. -/
def KnowsNewline (class_ : Char → CharClass) : Prop := ∀ c, class_ c = .newline ↔ c = '\n'

variable (knows : KnowsNewline class_)
include knows

theorem ne_newline_of_text (isText : (class_ c).isText = true) : c ≠ '\n' := by
  intro eq
  rw [(knows c).2 eq] at isText
  contradiction

theorem emptyHere_of_text (isText : (class_ c).isText = true) : emptyHere (c :: before) after = false := by
  cases after <;> simp [emptyHere, ne_newline_of_text knows isText]

theorem gapLength_of_gap (before : List Char) (isGap : (class_ c).isText = false) :
    gapLength class_ (c :: rest) = if emptyHere (c :: before) rest then 1 else gapLength class_ rest + 1 := by
  have newline := knows c
  rw [gapLength]
  cases here : class_ c with
  | word => simp [here, CharClass.isText] at isGap
  | punctuation => simp [here, CharClass.isText] at isGap
  | blank =>
      have other : c ≠ '\n' := by simpa [here] using newline
      cases rest <;> simp [emptyHere, other]
  | newline =>
      obtain rfl := newline.1 here
      cases rest <;> simp [emptyHere]

/-- From one character on to the next, the next start of a word or empty line stays, unless it is reached. -/
theorem toNextStart_cons :
    toNextStart class_ (c :: rest) =
      if startsHere class_ (c :: before) rest || emptyHere (c :: before) rest then 1
      else toNextStart class_ rest + 1 := by
  cases isText : (class_ c).isText with
  | true =>
      rw [toNextStart_of_text isText, emptyHere_of_text knows isText, Bool.or_false]
      cases rest with
      | nil => simp [startsHere, gapLength]
      | cons d rest =>
          by_cases same : class_ d = class_ c
          · rw [toNextStart_of_text (same ▸ isText)]
            simp [startsHere, same, Nat.add_right_comm]
          · have other : (class_ d == class_ c) = false := beq_eq_false_iff_ne.2 same
            cases dText : (class_ d).isText with
            | true => simp [startsHere, dText, other, Ne.symm same, gapLength_of_text dText]
            | false => simp [startsHere, dText, other, toNextStart_of_gap dText]
  | false =>
      rw [toNextStart_of_gap isText, gapLength_of_gap knows before isText]
      cases rest with
      | nil => simp [startsHere, emptyHere, gapLength]
      | cons d rest =>
          cases dText : (class_ d).isText with
          | true =>
              have other : class_ c ≠ class_ d := fun same => by simp [same, dText] at isText
              simp [startsHere, dText, other, gapLength_of_text dText]
          | false => simp [startsHere, dText, toNextStart_of_gap dText]

/-- From one character back to the one in front, the last start of a word or empty line stays, unless it is
left. -/
theorem previousStart_cons (plain : Plain (c :: rest)) :
    previousStart class_ (c :: rest) =
      if startsHere class_ rest (c :: after) || emptyHere rest (c :: after) then rest.length
      else previousStart class_ rest := by
  have starts := startsLine_iff (Plain.cons_iff.1 plain).2
  cases isText : (class_ c).isText with
  | true =>
      have other := ne_newline_of_text knows isText
      cases rest with
      | nil => simp [startsHere, previousStart, isText]
      | cons d rest =>
          by_cases same : class_ d = class_ c
          · simp [previousStart, startsHere, emptyHere, isText, same, other]
          · simp [previousStart, startsHere, isText, same]
  | false => simp [previousStart, startsHere, emptyHere, isText, starts, knows c]

theorem lastEnd_cons (after : List Char) (plain : Plain (c :: rest)) :
    lastEnd class_ (c :: rest) =
      if (class_ c).isText || emptyHere rest (c :: after) then rest.length else lastEnd class_ rest := by
  have starts := startsLine_iff (Plain.cons_iff.1 plain).2
  cases isText : (class_ c).isText with
  | true => simp [lastEnd, isText]
  | false => simp [lastEnd, isText, emptyHere, starts, knows c]

/-- From one character back to the one in front, the last end of a word or empty line stays, unless it is
left. -/
theorem previousEnd_cons (plain : Plain (c :: rest)) :
    previousEnd class_ (frontClass class_ after) (c :: rest) =
      if endsHere class_ (c :: after) || emptyHere rest (c :: after) then rest.length
      else previousEnd class_ (frontClass class_ (c :: after)) rest := by
  by_cases inside : (class_ c).isText = true ∧ class_ c = frontClass class_ after
  · obtain ⟨isText, same⟩ := inside
    have stays : endsHere class_ (c :: after) = false := by
      cases after with
      | nil => rw [same] at isText; contradiction
      | cons d after => simp [endsHere, same, frontClass]
    have other : emptyHere rest (c :: after) = false := by
      simp [emptyHere, ne_newline_of_text knows isText]
    rw [← same, previousEnd_of_eq isText, stays, other]
    rfl
  · have other : (frontClass class_ after).isText = true → class_ c ≠ frontClass class_ after := by
      intro isText same
      exact inside ⟨same ▸ isText, same⟩
    rw [previousEnd_of_ne other, lastEnd_cons knows after plain]
    cases isText : (class_ c).isText with
    | true =>
        have ends : endsHere class_ (c :: after) = true := by
          cases after with
          | nil => simp [endsHere, isText]
          | cons d after =>
              have other : class_ d ≠ class_ c := fun same => inside ⟨isText, same.symm⟩
              simp [endsHere, isText, other]
        simp [ends]
    | false => simp [endsHere, previousEnd, frontClass, isText]

end Steps

theorem knowsNewline_classify : KnowsNewline classify := by
  intro c
  unfold classify
  split
  · simp [*]
  · split_ifs <;> simp [*]

theorem knowsNewline_classifyBig : KnowsNewline classifyBig := by
  intro c
  rw [← knowsNewline_classify c]
  unfold classifyBig
  cases classify c <;> simp

end Word

namespace Buffer

variable {buf : Buffer} {class_ : Char → CharClass} {text rest : List Char}

/-- An index lies on an empty line. -/
def OnEmptyLine (buf : Buffer) (i : Nat) : Prop := buf.lineLength (buf.positionOf i).line = 0

instance (buf : Buffer) (i : Nat) : Decidable (buf.OnEmptyLine i) :=
  inferInstanceAs (Decidable (buf.lineLength (buf.positionOf i).line = 0))

theorem lineLength_newline_zero (cut : buf.text = '\n' :: rest) : buf.lineLength 0 = 0 := by
  simp only [lineLength, line, line?, pieces, cut, Line.pieces_newline]
  rfl

/-- What is behind a line feed lies on the lines that are there without it. -/
theorem onEmptyLine_newline (cut : buf.text = '\n' :: rest) {i : Nat} (le : i ≤ rest.length) :
    buf.OnEmptyLine (i + 1) ↔ ({ text := rest } : Buffer).OnEmptyLine i := by
  rw [OnEmptyLine, positionOf_down cut (Line.not_joins_newline rest) le, Position.down, lineLength_newline cut]
  rfl

/-- What is behind another character lies on its line, which is not empty, or on one of the lines below. -/
theorem onEmptyLine_char {c : Char} (cut : buf.text = c :: rest) (other : Line.isBreak c = false) {i : Nat}
    (le : i ≤ rest.length) :
    buf.OnEmptyLine (i + 1) ↔ 0 < i ∧ ({ text := rest } : Buffer).OnEmptyLine i := by
  rw [OnEmptyLine, OnEmptyLine, positionOf_onward cut (.of_char other rest) le]
  have back : ({ text := rest } : Buffer).index (({ text := rest } : Buffer).positionOf i) = i :=
    index_positionOf le
  cases place : ({ text := rest } : Buffer).positionOf i with
  | mk line col =>
      cases line with
      | zero =>
          have first : i = min col (({ text := rest } : Buffer).lineLength 0) := by
            rw [← back, place, index_of_lt (lineCount_pos _)]
            exact Nat.zero_add _
          simp only [Position.onward, if_true, lineLength_char_zero cut other]
          omega
      | succ line =>
          have behind : 0 < i := by
            rcases Nat.eq_zero_or_pos i with rfl | behind
            · rw [positionOf_zero] at place
              cases place
            · exact behind
          simp [Position.onward, lineLength_char_succ cut other, behind]

/-- The empty lines of a plain text are the line feeds at its start and behind other line feeds. -/
theorem onEmptyLine_iff (plain : Plain buf.text) {k : Nat} (inside : k < buf.length) :
    buf.OnEmptyLine k ↔
      buf.text[k]? = some '\n' ∧ ∀ d, 0 < k → buf.text[k - 1]? = some d → d = '\n' := by
  induction k generalizing buf with
  | zero =>
      obtain ⟨c, rest, cut⟩ := List.exists_cons_of_length_pos inside
      rw [cut] at plain ⊢
      rw [OnEmptyLine, positionOf_zero]
      cases breaks : Line.isBreak c with
      | true =>
          obtain rfl := (Plain.cons_iff.1 plain).1 breaks
          simp [Position.zero, lineLength_newline_zero cut]
      | false =>
          simp [Position.zero, lineLength_char_zero cut breaks, Line.ne_newline_of_isBreak breaks]
  | succ k ih =>
      obtain ⟨c, rest, cut⟩ := List.exists_cons_of_length_pos (Nat.zero_lt_of_lt inside)
      rw [cut] at plain ⊢
      obtain ⟨plainChar, plainRest⟩ := Plain.cons_iff.1 plain
      have inside : k < rest.length := by simpa [length, cut] using inside
      have earlier := @ih { text := rest } plainRest inside
      cases breaks : Line.isBreak c with
      | true =>
          obtain rfl := plainChar breaks
          rw [onEmptyLine_newline cut (Nat.le_of_lt inside), earlier]
          cases k <;> simp
      | false =>
          rw [onEmptyLine_char cut breaks (Nat.le_of_lt inside), earlier]
          have other := Line.ne_newline_of_isBreak breaks
          cases k <;> simp [other]

theorem splits_emptyHere (plain : Plain buf.text) {k : Nat} (inside : k < buf.length) :
    Splits Word.emptyHere buf.text k ↔ buf.OnEmptyLine k := by
  rw [onEmptyLine_iff plain inside]
  exact Word.splits_emptyHere inside

theorem before_append_after (buf : Buffer) (i : Nat) : (buf.before i).reverse ++ buf.after i = buf.text := by
  simp [before, after]

theorem length_before (buf : Buffer) (pos : Position) : (buf.before (buf.index pos)).length = buf.index pos := by
  have le : buf.index pos ≤ buf.text.length := buf.index_le_length pos
  simp [before, le]

section Motions

variable (plain : Plain buf.text) (pos : Position)
include plain

theorem isNext_after (here : List Char → List Char → Bool) (count : List Char → Nat)
    (atEnd : count [] = 0) (inside : ∀ before, here before [] = false)
    (step : ∀ before c rest, Plain (c :: rest) →
      count (c :: rest) = if here (c :: before) rest then 1 else count rest + 1) :
    IsNext (Splits here buf.text) (buf.index pos) buf.length
      (buf.index pos + count (buf.after (buf.index pos))) := by
  have next := isNext_of_step atEnd inside step (buf.before (buf.index pos)) (plain.drop (buf.index pos))
  rwa [← after, before_append_after, length_before] at next

theorem isPrevious_before (here : List Char → List Char → Bool) (find : List Char → List Char → Nat)
    (atStart : ∀ after, find [] after = 0)
    (step : ∀ c rest after, Plain (c :: rest) →
      find (c :: rest) after = if here rest (c :: after) then rest.length else find rest (c :: after)) :
    IsPrevious (Splits here buf.text) (buf.index pos)
      (find (buf.before (buf.index pos)) (buf.after (buf.index pos))) := by
  have front : Plain (buf.before (buf.index pos)) := fun c mem => plain.take _ c (List.mem_reverse.1 mem)
  have previous := isPrevious_of_step atStart step (buf.after (buf.index pos)) front
  rwa [before_append_after, length_before] at previous

variable (knows : Word.KnowsNewline class_)
include knows

theorem isNext_wordStart :
    IsNext (fun k => Word.StartsAt class_ buf.text k ∨ buf.OnEmptyLine k) (buf.index pos) buf.length
      (buf.index pos + Word.toNextStart class_ (buf.after (buf.index pos))) := by
  have next := isNext_after plain pos
    (fun before after => Word.startsHere class_ before after || Word.emptyHere before after)
    (Word.toNextStart class_) rfl (fun _ => rfl) fun before c rest _ => Word.toNextStart_cons knows
  refine next.congr fun k inside => ?_
  rw [splits_or, Word.splits_startsHere inside, splits_emptyHere plain inside]

theorem isPrevious_wordStart :
    IsPrevious (fun k => Word.StartsAt class_ buf.text k ∨ buf.OnEmptyLine k) (buf.index pos)
      (Word.previousStart class_ (buf.before (buf.index pos))) := by
  have previous := isPrevious_before plain pos
    (fun before after => Word.startsHere class_ before after || Word.emptyHere before after)
    (fun before _ => Word.previousStart class_ before) (fun _ => rfl)
    fun c rest after => Word.previousStart_cons knows
  refine previous.congr fun k inside => ?_
  have inside := Nat.lt_of_lt_of_le inside (buf.index_le_length pos)
  rw [splits_or, Word.splits_startsHere inside, splits_emptyHere plain inside]

omit knows in
theorem isNext_wordEnd :
    IsNext (Word.EndsAt class_ buf.text) (buf.index pos) buf.length
      (buf.index pos + Word.toNextEnd class_ (buf.after (buf.index pos))) := by
  have next := isNext_after plain pos (fun _ => Word.endsHere class_) (Word.toNextEnd class_) rfl (fun _ => rfl)
    fun before c rest _ => Word.toNextEnd_cons
  refine next.congr fun k inside => ?_
  rw [Word.splits_endsHere inside]

theorem isPrevious_wordEnd :
    IsPrevious (fun k => Word.EndsAt class_ buf.text k ∨ buf.OnEmptyLine k) (buf.index pos)
      (Word.previousEnd class_ (Word.frontClass class_ (buf.after (buf.index pos)))
        (buf.before (buf.index pos))) := by
  have previous := isPrevious_before plain pos
    (fun before after => Word.endsHere class_ after || Word.emptyHere before after)
    (fun before after => Word.previousEnd class_ (Word.frontClass class_ after) before)
    (fun after => by simp [Word.previousEnd, Word.lastEnd]) fun c rest after => Word.previousEnd_cons knows
  refine previous.congr fun k inside => ?_
  have inside := Nat.lt_of_lt_of_le inside (buf.index_le_length pos)
  rw [splits_or, Word.splits_endsHere inside, splits_emptyHere plain inside]

end Motions

/-- Each motion over words comes to the next place of its kind, or the previous one, or to the end of the text
or its start. -/
theorem word_motions_reach (plain : Plain buf.text) (pos : Position)
    (either : class_ = classify ∨ class_ = classifyBig) :
    let i := buf.index pos
    let starts := fun k => Word.StartsAt class_ buf.text k ∨ buf.OnEmptyLine k
    let ends := fun k => Word.EndsAt class_ buf.text k
    (∃ j, IsNext starts i buf.length j ∧ buf.wordForward class_ pos = buf.positionOf j) ∧
    (∃ j, IsPrevious starts i j ∧ buf.wordBackward class_ pos = buf.positionOf j) ∧
    (∃ j, IsNext ends i buf.length j ∧ buf.wordEndForward class_ pos = buf.positionOf j) ∧
    ∃ j, IsPrevious (fun k => ends k ∨ buf.OnEmptyLine k) i j ∧
      buf.wordEndBackward class_ pos = buf.positionOf j := by
  have knows : Word.KnowsNewline class_ := by
    rcases either with rfl | rfl
    · exact Word.knowsNewline_classify
    · exact Word.knowsNewline_classifyBig
  refine ⟨⟨_, isNext_wordStart plain pos knows, rfl⟩, ⟨_, isPrevious_wordStart plain pos knows, rfl⟩,
    ⟨_, isNext_wordEnd plain pos, rfl⟩, ⟨_, isPrevious_wordEnd plain pos knows, rfl⟩⟩

/-- From the line feed behind a word, in front of an empty line. -/
theorem word_motions_reach_empty_line :
    let buf : Buffer := { text := "ab,\n\n c".toList }
    Plain buf.text ∧
      ∃ j, IsNext (fun k => Word.StartsAt classify buf.text k ∨ buf.OnEmptyLine k) 3 7 j ∧
        buf.wordForward classify ⟨0, 3⟩ = buf.positionOf j := by
  have plain : Plain ({ text := "ab,\n\n c".toList } : Buffer).text := by decide
  exact ⟨plain, (word_motions_reach plain ⟨0, 3⟩ (.inl rfl)).1⟩

end Buffer

end ModalPanes
