import ModalPanes.Proofs.Pane.CountedTyping
import ModalPanes.Proofs.Pane.PuttingBack
import ModalPanes.Proofs.Text.Characters
import Mathlib.Data.List.Infix

/-!
# Typing over a text and taking it back

In Replace mode a character takes the place of the one under the cursor; behind the end of the line, or if it is a
line feed, it takes the place of none.  What was replaced is kept on a stack, and an erasing key looks at its top: it
takes the last character back, joining two lines if that was a line feed, and puts in again what the character had
replaced.  Both keys follow one step each of the same machine on texts, and there one undoes the other.
-/

namespace ModalPanes

/-- Text typed over a text: what was typed, the characters that it replaced, the latest first, and what is left
behind it. -/
structure Overtyped where
  typed : List Char
  replaced : List (Option Char)
  rest : List Char

namespace Overtyped

/-- Typing over a text starts in front of it. -/
def start (rest : List Char) : Overtyped := ⟨[], [], rest⟩

/-- A character is typed over the next one of the line; a line feed is typed over nothing. -/
def write (tape : Overtyped) (c : Char) : Overtyped :=
  let old := if c = '\n' then none else (restOfLine tape.rest).head?
  ⟨tape.typed ++ [c], old :: tape.replaced, tape.rest.drop old.toList.length⟩

@[simp] theorem typed_write (tape : Overtyped) (c : Char) : (tape.write c).typed = tape.typed ++ [c] := rfl

theorem write_newline (tape : Overtyped) :
    tape.write '\n' = ⟨tape.typed ++ ['\n'], none :: tape.replaced, tape.rest⟩ := rfl

variable {c d : Char} {tape : Overtyped} {rest : List Char}

theorem write_end (ends : restOfLine tape.rest = []) (c : Char) :
    tape.write c = ⟨tape.typed ++ [c], none :: tape.replaced, tape.rest⟩ := by
  unfold write
  rw [ends, List.head?_nil, ite_self]
  rfl

theorem write_char (other : c ≠ '\n') (here : tape.rest = d :: rest) (inLine : d ≠ '\n') :
    tape.write c = ⟨tape.typed ++ [c], some d :: tape.replaced, rest⟩ := by
  unfold write
  rw [if_neg other, here, restOfLine_char inLine]
  rfl

/-- A character either breaks the line or goes in front of its end, or it replaces another one. -/
theorem write_cases (tape : Overtyped) (c : Char) :
    (c = '\n' ∨ restOfLine tape.rest = []) ∧
        tape.write c = ⟨tape.typed ++ [c], none :: tape.replaced, tape.rest⟩ ∨
      ∃ d rest, tape.rest = d :: rest ∧ c ≠ '\n' ∧ d ≠ '\n' ∧
        tape.write c = ⟨tape.typed ++ [c], some d :: tape.replaced, rest⟩ := by
  by_cases breaks : c = '\n'
  · exact .inl ⟨.inl breaks, breaks ▸ write_newline tape⟩
  · by_cases ends : restOfLine tape.rest = []
    · exact .inl ⟨.inr ends, write_end ends c⟩
    · cases here : tape.rest with
      | nil => exact absurd (here ▸ restOfLine_nil) ends
      | cons d rest =>
          have inLine : d ≠ '\n' := by
            rintro rfl
            exact ends (here ▸ restOfLine_newline rest)
          exact .inr ⟨d, rest, rfl, breaks, inLine, write_char breaks here inLine⟩

/-- The top of the stack, in front of what is left, is what was there before. -/
theorem write_eq (tape : Overtyped) (c : Char) :
    ∃ old later, tape.write c = ⟨tape.typed ++ [c], old :: tape.replaced, later⟩ ∧ tape.rest = old.toList ++ later ∧
      (c = '\n' → old = none) := by
  rcases tape.write_cases c with ⟨-, written⟩ | ⟨d, later, here, other, -, written⟩
  · exact ⟨none, tape.rest, written, rfl, fun _ => rfl⟩
  · exact ⟨some d, later, written, here, fun breaks => absurd breaks other⟩

def writes (tape : Overtyped) (text : List Char) : Overtyped := text.foldl write tape

theorem writes_concat (tape : Overtyped) (text : List Char) (c : Char) :
    tape.writes (text ++ [c]) = (tape.writes text).write c := List.foldl_concat ..

theorem typed_writes (tape : Overtyped) (text : List Char) : (tape.writes text).typed = tape.typed ++ text := by
  induction text generalizing tape with
  | nil => exact (List.append_nil _).symm
  | cons c text ih =>
      change ((tape.write c).writes text).typed = _
      rw [ih, typed_write, List.append_assoc]
      rfl

theorem plain_rest_write (plain : Plain tape.rest) (c : Char) : Plain (tape.write c).rest := plain.drop _

theorem plain_rest_writes (plain : Plain tape.rest) (text : List Char) : Plain (tape.writes text).rest := by
  induction text generalizing tape with
  | nil => exact plain
  | cons c text ih => exact ih (plain_rest_write plain c)

end Overtyped

/-- What a key does to typed text: it writes a character, or erases the last one. -/
inductive Stroke where
  | write (c : Char)
  | erase
deriving DecidableEq

namespace Stroke

variable {c : Char} {stroke : Stroke} {strokes : List Stroke} {text : List Char}

/-- Text behind which a stroke is made. -/
def survive (text : List Char) : Stroke → List Char
  | write c => text ++ [c]
  | erase => text.dropLast

/-- The characters that are left when each erasing stroke cancels the last one. -/
def survivors (strokes : List Stroke) : List Char := strokes.foldl survive []

/-- The number of characters that are written. -/
def written : List Stroke → Nat
  | [] => 0
  | write _ :: strokes => written strokes + 1
  | erase :: strokes => written strokes

/-- The number of erasing strokes. -/
def erased : List Stroke → Nat
  | [] => 0
  | write _ :: strokes => erased strokes
  | erase :: strokes => erased strokes + 1

/-- Behind some characters, no first strokes erase more than there are. -/
def Covered (n : Nat) (strokes : List Stroke) : Prop :=
  ∀ part, part <+: strokes → erased part ≤ n + written part

instance (n : Nat) (strokes : List Stroke) : Decidable (Covered n strokes) :=
  decidable_of_iff (∀ part ∈ strokes.inits, erased part ≤ n + written part)
    (forall_congr' fun _ => by rw [List.mem_inits])

/-- Only behind a character one is erased. -/
theorem Covered.ne_nil (covered : Covered text.length (erase :: strokes)) : text ≠ [] := by
  have one : 1 ≤ text.length := covered [erase] ((List.prefix_cons_inj _).2 List.nil_prefix)
  exact List.ne_nil_of_length_pos one

theorem Covered.next (covered : Covered text.length (stroke :: strokes)) :
    Covered (survive text stroke).length strokes := by
  intro part front
  have first := covered _ ((List.prefix_cons_inj stroke).2 front)
  cases stroke with
  | write c =>
      simp only [written, erased, survive, List.length_append, List.length_singleton] at first ⊢
      omega
  | erase =>
      simp only [written, erased, survive, List.length_dropLast] at first ⊢
      omega

/-- Every stroke counts for the number of characters. -/
theorem length_survive (covered : Covered text.length strokes) :
    (strokes.foldl survive text).length + erased strokes = text.length + written strokes := by
  induction strokes generalizing text with
  | nil => rfl
  | cons stroke strokes ih =>
      have rest := ih covered.next
      rw [List.foldl_cons]
      cases stroke with
      | write c =>
          simp only [written, erased, survive, List.length_append, List.length_singleton] at rest ⊢
          omega
      | erase =>
          have some := List.length_pos_of_ne_nil covered.ne_nil
          simp only [written, erased, survive, List.length_dropLast] at rest ⊢
          omega

theorem mem_survive (mem : c ∈ strokes.foldl survive text) : c ∈ text ∨ write c ∈ strokes := by
  induction strokes generalizing text with
  | nil => exact .inl mem
  | cons stroke strokes ih =>
      rcases ih mem with earlier | later
      · cases stroke with
        | write d =>
            rcases List.mem_append.1 earlier with earlier | new
            · exact .inl earlier
            · obtain rfl := List.mem_singleton.1 new
              exact .inr List.mem_cons_self
        | erase => exact .inl ((List.dropLast_subset _ earlier))
      · exact .inr (List.mem_cons_of_mem _ later)

end Stroke

namespace Pane

variable {pane next : Pane} {key : Key} {keys others : List Key} {c : Char} {front gone back text : List Char}
  {tape : Overtyped} {count : Nat} {start : Position}

section Edits

theorem eraseRange_cut (plain : Plain pane.buffer.text) (cut : pane.buffer.text = front ++ gone ++ back) :
    ∃ buffer history recorder,
      pane.eraseRange (.between (Edit.stopOf .zero front) (Edit.stopOf .zero (front ++ gone))) =
        { pane with buffer := buffer, history := history, recorder := recorder } ∧ buffer.text = front ++ back := by
  obtain ⟨history, recorder, eq⟩ :=
    eraseRange_eq pane (.between (Edit.stopOf .zero front) (Edit.stopOf .zero (front ++ gone)))
  refine ⟨_, history, recorder, eq, ?_⟩
  rw [Edit.stopOf_append]
  exact Buffer.text_erase plain cut

theorem insertText_cut (pane : Pane) (plain : Plain pane.buffer.text) (cut : pane.buffer.text = front ++ back)
    (text : List Char) :
    ∃ buffer history recorder, pane.insertText (Edit.stopOf .zero front) text =
        { pane with buffer := buffer, history := history, recorder := recorder } ∧
      buffer.text = front ++ text ++ back := by
  obtain ⟨history, recorder, eq⟩ := insertText_eq pane (Edit.stopOf .zero front) text
  exact ⟨_, history, recorder, eq, Buffer.text_insert plain cut text⟩

/-- Behind a line feed, the line is joined to the one above. -/
theorem joinWithPrevious_cut (plain : Plain pane.buffer.text) (cut : pane.buffer.text = front ++ ['\n'] ++ back)
    (pos : pane.cursor.pos = Edit.stopOf .zero (front ++ ['\n'])) :
    ∃ buffer history recorder, pane.joinWithPrevious =
        ({ pane with buffer := buffer, history := history, recorder := recorder } : Pane).jump true
          (Edit.stopOf .zero front) ∧
      buffer.text = front ++ back := by
  obtain ⟨buffer, history, recorder, eq, erased⟩ := eraseRange_cut plain cut
  refine ⟨buffer, history, recorder, ?_, erased⟩
  have length := Buffer.lineLength_stopOf plain (cut.trans (List.append_assoc ..))
  have place := pos
  rw [Edit.stopOf_newline_end] at place
  unfold joinWithPrevious
  dsimp only
  rw [place]
  dsimp only
  rw [if_neg (Nat.succ_ne_zero _), Nat.add_sub_cancel, length, ← Edit.stopOf_newline_end]
  exact congrArg (·.jump true (Edit.stopOf .zero front)) eq

end Edits

/-- Replace mode behind a front part of the text, with text typed over what followed it. -/
structure Replaces (count : Nat) (start : Position) (front : List Char) (tape : Overtyped) (pane : Pane) : Prop where
  mode : pane.mode = .replace
  prompt : pane.prompt = none
  insert : pane.insert = some ⟨.plain, count, start, tape.typed, tape.replaced⟩
  text : pane.buffer.text = front ++ tape.typed ++ tape.rest
  plain : Plain pane.buffer.text
  pos : pane.cursor.pos = Edit.stopOf .zero (front ++ tape.typed)

namespace Replaces

theorem of_alike (replaces : Replaces count start front tape next) (alike : pane.Alike next) :
    Replaces count start front tape pane where
  mode := (alike.same (·.mode) fun _ => rfl).trans replaces.mode
  prompt := (alike.same (·.prompt) fun _ => rfl).trans replaces.prompt
  insert := (alike.same (·.insert) fun _ => rfl).trans replaces.insert
  text := (alike.same (·.buffer.text) fun _ => rfl).trans replaces.text
  plain := by
    rw [show pane.buffer.text = next.buffer.text from alike.same (·.buffer.text) fun _ => rfl]
    exact replaces.plain
  pos := (alike.same (·.cursor.pos) fun _ => rfl).trans replaces.pos

end Replaces

/-- A character is put in at the place behind what was typed so far, and the one that it replaced is remembered. -/
theorem replaces_typed (pane : Pane) {typed rest : List Char} {replaced : List (Option Char)}
    (mode : pane.mode = .replace) (prompt : pane.prompt = none) (insert : pane.insert = some ⟨.plain, count, start, typed, replaced⟩)
    (text : pane.buffer.text = front ++ typed ++ rest) (plain : Plain pane.buffer.text) (plainChar : IsPlain c)
    (old : Option Char) :
    let jumped := (pane.insertText (Edit.stopOf .zero (front ++ typed)) [c]).jump true
      (Edit.stopOf .zero (front ++ (typed ++ [c])))
    Replaces count start front ⟨typed ++ [c], old :: replaced, rest⟩
      (jumped.revise fun session =>
        { session with
          typed := session.typed ++ [c]
          replaced := if jumped.mode = .replace then old :: session.replaced else session.replaced }) := by
  obtain ⟨buffer, history, recorder, eq, inserted⟩ := insertText_cut pane plain text [c]
  rw [List.append_assoc front] at inserted
  have still : Plain buffer.text := by
    have plainText : Plain [c] := Plain.cons_iff.2 ⟨plainChar, nofun⟩
    rw [inserted, ← List.append_assoc front]
    exact (text ▸ plain).between plainText
  rw [eq]
  exact
    { mode := mode
      prompt := prompt
      insert := by
        change pane.insert.map _ = _
        rw [insert, Option.map_some]
        exact congrArg some (congrArg (InsertSession.mk _ _ _ _) (if_pos mode))
      text := inserted
      plain := still
      pos := Buffer.nearest_stopOf still inserted }

theorem Replaces.typeChar (replaces : Replaces count start front tape pane) (plainChar : IsPlain c) :
    Replaces count start front (tape.write c) (pane.typeChar c) := by
  obtain ⟨mode, prompt, insert, text, plain, pos⟩ := replaces
  obtain ⟨typed, replaced, rest⟩ := tape
  dsimp only at insert text pos
  have stop : (if c = '\n' then ⟨pane.cursor.pos.line + 1, 0⟩
      else pane.cursor.pos.withCol (pane.cursor.pos.col + 1) : Position) =
        Edit.stopOf .zero (front ++ (typed ++ [c])) := by
    rw [← List.append_assoc, Edit.stopOf_append, ← pos]
    rfl
  have length := Buffer.lineLength_stopOf plain text
  rw [← pos] at length
  unfold Pane.typeChar
  dsimp only
  rw [stop]
  rcases Overtyped.write_cases ⟨typed, replaced, rest⟩ c with
    ⟨ends, written⟩ | ⟨d, later, here, other, inLine, written⟩
  · have keeps : (pane.mode == .replace && c != '\n' &&
        decide (pane.cursor.pos.col < pane.buffer.lineLength pane.cursor.pos.line)) = false := by
      rcases ends with breaks | ends
      · simp [breaks]
      · simp [length, show restOfLine rest = [] from ends]
    rw [keeps, written, pos]
    exact replaces_typed pane mode prompt insert text plain plainChar none
  · obtain rfl : rest = d :: later := here
    have overwrites : (pane.mode == .replace && c != '\n' &&
        decide (pane.cursor.pos.col < pane.buffer.lineLength pane.cursor.pos.line)) = true := by
      simp [mode, other, length, restOfLine_char inLine]
    have found : pane.buffer.charAt? pane.cursor.pos = some d := by
      rw [pos, ← Buffer.positionOf_length plain text]
      exact Buffer.charAt?_positionOf (by rw [text]; simp) inLine
    have next : pane.cursor.pos.withCol (pane.cursor.pos.col + 1) =
        Edit.stopOf .zero (front ++ typed ++ [d]) := by
      rw [Edit.stopOf_char_end _ _ inLine, ← pos]
      rfl
    have cut : pane.buffer.text = front ++ typed ++ [d] ++ later := by
      rw [text]
      simp
    obtain ⟨buffer, history, recorder, eq, erased⟩ := eraseRange_cut plain cut
    have still : Plain buffer.text := erased ▸ (cut ▸ plain).without
    simp only [overwrites, if_true]
    rw [written, found, next, pos, eq]
    exact replaces_typed { pane with buffer := buffer, history := history, recorder := recorder } mode prompt insert
      erased still plainChar (some d)

/-- The last character is taken out, and what it replaced is put in again. -/
theorem replaces_untyped (pane : Pane) {typed later : List Char} {replaced : List (Option Char)} {old : Option Char}
    (mode : pane.mode = .replace) (prompt : pane.prompt = none)
    (insert : pane.insert = some ⟨.plain, count, start, typed, replaced⟩)
    (text : pane.buffer.text = front ++ typed ++ [c] ++ later) (plain : Plain pane.buffer.text)
    (pos : pane.cursor.pos = Edit.stopOf .zero (front ++ typed ++ [c])) (plainOld : Plain old.toList)
    (breaks : c = '\n' → old = none) :
    let spot := pane.cursor.pos.withCol (pane.cursor.pos.col - 1)
    Replaces count start front ⟨typed, replaced, old.toList ++ later⟩
      (if pane.cursor.pos.col = 0 then pane.joinWithPrevious
        else ((pane.eraseRange (.between spot pane.cursor.pos)).insertText spot old.toList).jump true spot) := by
  dsimp only
  have still : Plain (front ++ typed ++ later) := (text ▸ plain).without
  by_cases newline : c = '\n'
  · obtain rfl := breaks newline
    obtain rfl := newline
    obtain ⟨buffer, history, recorder, eq, joined⟩ := joinWithPrevious_cut plain text pos
    have first : pane.cursor.pos.col = 0 := by
      rw [pos, Edit.stopOf_newline_end]
    rw [if_pos first, eq]
    exact ⟨mode, prompt, insert, joined, joined ▸ still, Buffer.nearest_stopOf (joined ▸ still) joined⟩
  · have behind : pane.cursor.pos.col ≠ 0 := by
      rw [pos, Edit.stopOf_char_end _ _ newline]
      exact Nat.succ_ne_zero _
    have spot : pane.cursor.pos.withCol (pane.cursor.pos.col - 1) = Edit.stopOf .zero (front ++ typed) := by
      rw [pos, Edit.stopOf_char_end _ _ newline]
      rfl
    obtain ⟨buffer, history, recorder, eq, erased⟩ := eraseRange_cut plain text
    rw [if_neg behind, spot, pos, eq]
    obtain ⟨buffer, history, recorder, eq, restored⟩ := insertText_cut
      { pane with buffer := buffer, history := history, recorder := recorder } (erased ▸ still) erased old.toList
    have plainRestored : Plain buffer.text := restored ▸ still.between plainOld
    rw [List.append_assoc] at restored
    rw [eq]
    exact ⟨mode, prompt, insert, restored, plainRestored, Buffer.nearest_stopOf plainRestored restored⟩

/-- An erasing key takes the last character back. -/
theorem Replaces.backspace (replaces : Replaces count start front (tape.write c) pane)
    (plainRest : Plain tape.rest) : Replaces count start front tape pane.backspace := by
  obtain ⟨mode, prompt, insert, text, plain, pos⟩ := replaces
  obtain ⟨typed, replaced, rest⟩ := tape
  obtain ⟨old, later, written, here, breaks⟩ := Overtyped.write_eq ⟨typed, replaced, rest⟩ c
  obtain rfl : rest = old.toList ++ later := here
  rw [written] at insert text pos
  dsimp only at insert text pos
  rw [← List.append_assoc front] at text pos
  have untyped : (typed ++ [c]).dropLast = typed := List.dropLast_concat
  unfold Pane.backspace backspaceReplace untype revise
  rw [if_pos mode, insert]
  dsimp only [Option.map_some]
  rw [untyped]
  exact replaces_untyped { pane with insert := some ⟨.plain, count, start, typed, replaced⟩ } mode prompt rfl text
    plain pos (Plain.append_iff.1 plainRest).1 breaks

def Makes (key : Key) : Stroke → Prop
  | .write c => Types key c ∧ IsPlain c
  | .erase => key.code = .backspace ∨ key.isCtrl 'h' = true

theorem isPlain_of_makes {strokes : List Stroke} (makes : List.Forall₂ Makes keys strokes) :
    ∀ c, .write c ∈ strokes → IsPlain c := by
  induction makes with
  | nil => nofun
  | cons makes rest ih =>
      intro c mem
      rcases List.mem_cons.1 mem with rfl | later
      · exact makes.2
      · exact ih c later

theorem handleTyping_of_erases (erases : Makes key .erase) (pane : Pane) :
    pane.handleTyping key = pane.backspace := by
  unfold Pane.handleTyping
  rcases erases with code | control
  · have other : ∀ d, key.isCtrl d = false := by
      intro d
      rw [← Bool.not_eq_true]
      intro control
      obtain rfl : key = .ctrl d := by simpa [Key.isCtrl] using control
      contradiction
    rw [other, other, other, other, other, code]
    rfl
  · obtain rfl : key = .ctrl 'h' := by simpa [Key.isCtrl] using control
    rfl

section Keys

variable {text : List Char} {stroke : Stroke} {strokes : List Stroke} {base : Overtyped}

theorem Replaces.handles (replaces : Replaces count start front tape pane) (key : Key) :
    ∃ acting next : Pane, acting.Alike pane ∧ Handles pane [key] next ∧ next.Alike (acting.handleTyping key) := by
  have typing : pane.mode.isTyping = true := by
    rw [replaces.mode]
    rfl
  exact ⟨_, _, Alike.record key pane, handles_typing replaces.prompt typing key, Alike.settle _⟩

/-- Each stroke is one of typing, or takes one back. -/
theorem Replaces.handles_stroke (plain : Plain base.rest) (makes : Makes key stroke)
    (covered : Stroke.Covered text.length (stroke :: strokes))
    (replaces : Replaces count start front (base.writes text) pane) :
    ∃ next, Handles pane [key] next ∧
      Replaces count start front (base.writes (Stroke.survive text stroke)) next := by
  obtain ⟨acting, next, same, handles, alike⟩ := replaces.handles key
  refine ⟨next, handles, .of_alike ?_ alike⟩
  replace replaces := replaces.of_alike same
  cases stroke with
  | write c =>
      rw [(makes.1.handleTyping acting).2, Stroke.survive, Overtyped.writes_concat]
      exact replaces.typeChar makes.2
  | erase =>
      obtain ⟨earlier, c, rfl⟩ := (List.eq_nil_or_concat' text).resolve_left covered.ne_nil
      rw [handleTyping_of_erases makes, Stroke.survive, List.dropLast_concat]
      rw [Overtyped.writes_concat] at replaces
      exact replaces.backspace (Overtyped.plain_rest_writes plain earlier)

/-- All strokes leave what their survivors leave. -/
theorem Replaces.handles_strokes (plain : Plain base.rest) (makes : List.Forall₂ Makes keys strokes)
    (covered : Stroke.Covered text.length strokes)
    (replaces : Replaces count start front (base.writes text) pane) :
    ∃ next, Handles pane keys next ∧
      Replaces count start front (base.writes (strokes.foldl Stroke.survive text)) next := by
  induction makes generalizing pane text with
  | nil => exact ⟨pane, .nil pane, replaces⟩
  | @cons key stroke keys strokes makes rest ih =>
      obtain ⟨middle, first, replaced⟩ := replaces.handles_stroke plain makes covered
      obtain ⟨next, others, replaced⟩ := ih covered.next replaced
      exact ⟨next, first.append others, replaced⟩

theorem Replaces.handles_text (types : List.Forall₂ Types keys text) (plainText : Plain text)
    (replaces : Replaces count start front base pane) :
    ∃ next, Handles pane keys next ∧ Replaces count start front (base.writes text) next := by
  have starts : Replaces count start front (base.writes []) pane := replaces
  refine handles_types (fun typed pane => Replaces count start front (base.writes typed) pane) ?_ types plainText
    starts
  intro key c typed pane types plainChar replaces
  obtain ⟨acting, next, same, handles, alike⟩ := replaces.handles key
  have written := (replaces.of_alike same).typeChar plainChar
  rw [← (types.handleTyping acting).2, ← Overtyped.writes_concat] at written
  exact ⟨next, handles, written.of_alike alike⟩

/-- Replace mode starts with nothing typed over the text behind the cursor. -/
theorem handles_replaceMode (takes : pane.TakesCommands) (rests : pane.pending = none)
    (found : Keymap.findOrMotion? Keymap.normal key = some .replaceMode) (plain : Plain pane.buffer.text)
    (cut : pane.buffer.text = front ++ back) (stop : Edit.stopOf .zero front = pane.cursor.pos) :
    ∃ count start next, Handles pane [key] next ∧ Replaces count start front (.start back) next := by
  have digit := Keymap.countDigit?_of_findOrMotion? found nofun
  have handed := dispatchWith_command (takes.record key) rests (digit _) found nofun
  have starts : Replaces (max (pane.count.getD 1) 1) pane.cursor.pos front (.start back)
      ((pane.record key).runNormal .replaceMode) :=
    { mode := rfl
      prompt := takes.prompt
      insert := rfl
      text := by
        change pane.buffer.text = front ++ [] ++ back
        rw [List.append_nil, cut]
      plain := plain
      pos := by
        change pane.cursor.pos = Edit.stopOf .zero (front ++ [])
        rw [List.append_nil, stop] }
  exact ⟨_, _, _, .one handed, starts.of_alike (Alike.settle _)⟩

/-- Backspace undoes typing over a text: keys that write characters and erase them again, never more than there are,
leave the text, the cursor and all that is remembered of the typing as the characters do that are left, typed alone.
If as many are erased as written, the text and the cursor are as they were. -/
theorem erasing_inverts_overtyping (takes : pane.TakesCommands) (rests : pane.pending = none)
    (found : Keymap.findOrMotion? Keymap.normal key = some .replaceMode) (plain : Plain pane.buffer.text)
    (admits : pane.buffer.Admits false pane.cursor.pos) (makes : List.Forall₂ Makes keys strokes)
    (covered : Stroke.Covered 0 strokes) (types : List.Forall₂ Types others (Stroke.survivors strokes)) :
    ∃ final typed session, Handles pane (key :: keys) final ∧ Handles pane (key :: others) typed ∧
      final.buffer.text = typed.buffer.text ∧ final.cursor.pos = typed.cursor.pos ∧
      final.insert = some session ∧ typed.insert = some session ∧ session.typed = Stroke.survivors strokes ∧
      (Stroke.erased strokes = Stroke.written strokes →
        final.buffer.text = pane.buffer.text ∧ final.cursor.pos = pane.cursor.pos) := by
  obtain ⟨front, back, cut, stop⟩ := Buffer.exists_cut plain (admits.widen true)
  obtain ⟨count, start, replacing, enters, starts⟩ := handles_replaceMode takes rests found plain cut stop
  have plainBack : Plain back := (Plain.append_iff.1 (cut ▸ plain)).2
  have plainText : Plain (Stroke.survivors strokes) := by
    intro c mem
    exact isPlain_of_makes makes c ((Stroke.mem_survive mem).resolve_left List.not_mem_nil)
  have covered : Stroke.Covered ([] : List Char).length strokes := covered
  obtain ⟨final, erases, left⟩ := starts.handles_strokes plainBack makes covered
  obtain ⟨typed, writes, alone⟩ := starts.handles_text types plainText
  have isTyped : ((Overtyped.start back).writes (Stroke.survivors strokes)).typed = Stroke.survivors strokes :=
    Overtyped.typed_writes _ _
  refine ⟨final, typed, _, enters.append erases, enters.append writes, left.text.trans alone.text.symm,
    left.pos.trans alone.pos.symm, left.insert, alone.insert, isTyped, fun same => ?_⟩
  have length := Stroke.length_survive covered
  have none : strokes.foldl Stroke.survive [] = [] := by
    rw [same, Nat.add_right_cancel_iff] at length
    exact List.eq_nil_of_length_eq_zero length
  rw [none] at left
  have text := left.text
  have pos := left.pos
  change _ = front ++ [] ++ back at text
  change _ = Edit.stopOf .zero (front ++ []) at pos
  rw [List.append_nil] at text pos
  exact ⟨text.trans cut.symm, pos.trans stop⟩

/-- A character is typed over another, one behind the end of the line and a line feed, and all are taken back. -/
theorem erasing_inverts_overtyping_lines :
    let pane := typedInto "ab\ncd".toList [.char 'l']
    let keys : List Key := [.char 'x', .char 'y', .plain .enter, .plain .backspace, .ctrl 'h', .plain .backspace]
    (pane.handleKeys (.char 'R' :: keys.take 3)).buffer.text = "axy\n\ncd".toList ∧
      ∃ final, Handles pane (.char 'R' :: keys) final ∧ final.buffer.text = "ab\ncd".toList ∧
        final.cursor.pos = ⟨0, 1⟩ := by
  intro pane keys
  have takes : pane.TakesCommands := ⟨by decide +kernel, by decide +kernel⟩
  have found : Keymap.findOrMotion? Keymap.normal (.char 'R') = some .replaceMode := rfl
  have admits : pane.buffer.Admits false pane.cursor.pos := by decide +kernel
  have makes : List.Forall₂ Makes keys [.write 'x', .write 'y', .write '\n', .erase, .erase, .erase] :=
    .cons ⟨rfl, by decide⟩ (.cons ⟨rfl, by decide⟩ (.cons ⟨rfl, by decide⟩
      (.cons (.inl rfl) (.cons (.inr (by decide)) (.cons (.inl rfl) .nil)))))
  obtain ⟨final, typed, session, handles, -, -, -, -, -, -, restores⟩ :=
    erasing_inverts_overtyping takes (by decide +kernel) found (by decide +kernel) admits makes (by decide) .nil
  obtain ⟨text, pos⟩ := restores rfl
  exact ⟨by decide +kernel, final, handles, text.trans (by decide +kernel), pos.trans (by decide +kernel)⟩

end Keys

end Pane

end ModalPanes
