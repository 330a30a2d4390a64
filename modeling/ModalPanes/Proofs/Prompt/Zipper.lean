import ModalPanes.Proofs.Prompt.Offsets

/-!
# The prompt as a zipper

The line of a prompt is a text and a number.  A zipper is the same with no number to keep in step: the characters in
front of the cursor, and those behind it.  Every key does the same to either of them, so a line that is edited is always
that of a zipper, its cursor is never beyond the end of its text, and to edit it by bytes never fails.
-/

namespace ModalPanes

/-- What a key means at a prompt. -/
inductive PromptStep where
  | insert (c : Char)
  | erase
  | delete
  | deleteWord
  | clear
  | left
  | right
  | home
  | toEnd
  | submit
  | cancel
  | ignore
deriving DecidableEq

/-- The meaning of a key: keys that have one of their own, five characters with Ctrl, and characters that are typed. -/
def PromptStep.ofKey (key : Key) : PromptStep :=
  match key.code with
  | .enter => submit
  | .escape => cancel
  | .backspace => erase
  | .delete => delete
  | .left => left
  | .right => right
  | .home => home
  | .endKey => toEnd
  | .tab => insert '\t'
  | .char c =>
      if key.mods = { ctrl := true } then
        if c = 'u' then clear
        else if c = 'w' then deleteWord
        else if c = 'h' then erase
        else if c = 'c' ∨ c = '[' then cancel
        else ignore
      else if key.mods.ctrl ∨ key.mods.alt then ignore
      else insert c
  | _ => ignore

/-- A text parted at a cursor: the characters in front of it, the nearest first, and those behind it. -/
structure Zipper where
  before : List Char
  after : List Char
deriving DecidableEq

namespace Zipper

variable {zipper : Zipper}

/-- A text with the cursor at its end. -/
def atEnd (text : List Char) : Zipper := ⟨text.reverse, []⟩

/-- The whole text. -/
def text (zipper : Zipper) : List Char := zipper.before.reverse ++ zipper.after

/-- The same text with a number for the cursor. -/
def line (zipper : Zipper) : InputLine := ⟨zipper.text, zipper.before.length⟩

/-- One character to the left. -/
def left (zipper : Zipper) : Zipper :=
  match zipper.before with
  | [] => zipper
  | c :: before => ⟨before, c :: zipper.after⟩

/-- One character to the right. -/
def right (zipper : Zipper) : Zipper :=
  match zipper.after with
  | [] => zipper
  | c :: after => ⟨c :: zipper.before, after⟩

/-- One step of editing, and what it comes to. -/
def step (zipper : Zipper) : PromptStep → Zipper × PromptEvent
  | .insert c => (⟨c :: zipper.before, zipper.after⟩, .pending)
  | .erase => if zipper.text = [] then (zipper, .cancel) else (⟨zipper.before.tail, zipper.after⟩, .pending)
  | .delete => (⟨zipper.before, zipper.after.tail⟩, .pending)
  | .deleteWord => (⟨(zipper.before.dropWhile (· == ' ')).dropWhile (· != ' '), zipper.after⟩, .pending)
  | .clear => (⟨[], zipper.after⟩, .pending)
  | .left => (zipper.left, .pending)
  | .right => (zipper.right, .pending)
  | .home => (⟨[], zipper.text⟩, .pending)
  | .toEnd => (atEnd zipper.text, .pending)
  | .submit => (zipper, .submit zipper.text)
  | .cancel => (zipper, .cancel)
  | .ignore => (zipper, .pending)

def handleKey (zipper : Zipper) (key : Key) : Zipper × PromptEvent := zipper.step (.ofKey key)

section Lines

theorem within_line (zipper : Zipper) : zipper.line.Within := by
  unfold InputLine.Within line text
  simp

theorem take_line (zipper : Zipper) : zipper.line.text.take zipper.line.cursor = zipper.before.reverse := by
  unfold line text
  simp

theorem drop_line (zipper : Zipper) : zipper.line.text.drop zipper.line.cursor = zipper.after := by
  unfold line text
  simp

theorem line_insert (zipper : Zipper) (c : Char) : zipper.line.insert c = line ⟨c :: zipper.before, zipper.after⟩ := by
  unfold InputLine.insert
  rw [take_line, drop_line]
  simp [line, text]

/-- To erase back to some of the characters in front of the cursor leaves these. -/
theorem line_eraseFrom {rest : List Char} (left : rest <:+ zipper.before) :
    zipper.line.eraseFrom rest.length = line ⟨rest, zipper.after⟩ := by
  obtain ⟨erased, eq⟩ := left
  unfold InputLine.eraseFrom
  rw [drop_line]
  simp [line, text, ← eq]

theorem line_backspace (zipper : Zipper) : zipper.line.backspace = line ⟨zipper.before.tail, zipper.after⟩ := by
  rw [← line_eraseFrom (List.tail_suffix _), List.length_tail]
  rfl

theorem line_deleteWord (zipper : Zipper) : zipper.line.deleteWord =
    line ⟨(zipper.before.dropWhile (· == ' ')).dropWhile (· != ' '), zipper.after⟩ := by
  unfold InputLine.deleteWord InputLine.wordStart
  rw [take_line, List.reverse_reverse, line_eraseFrom]
  exact (List.dropWhile_suffix _).trans (List.dropWhile_suffix _)

theorem line_clear (zipper : Zipper) : zipper.line.clear = line ⟨[], zipper.after⟩ :=
  line_eraseFrom (List.nil_suffix)

theorem line_delete (zipper : Zipper) : zipper.line.delete = line ⟨zipper.before, zipper.after.tail⟩ := by
  unfold InputLine.delete
  rw [take_line, ← List.drop_drop, drop_line, List.drop_one]
  unfold line text
  rfl

theorem line_left (zipper : Zipper) : zipper.line.left = zipper.left.line := by
  obtain ⟨before, after⟩ := zipper
  cases before <;> simp [InputLine.left, left, line, text]

theorem line_right (zipper : Zipper) : zipper.line.right = zipper.right.line := by
  obtain ⟨before, after⟩ := zipper
  cases after <;> simp [InputLine.right, right, line, text]

theorem line_home (zipper : Zipper) : zipper.line.home = line ⟨[], zipper.text⟩ := rfl

theorem line_atEnd (text : List Char) : (atEnd text).line = ⟨text, text.length⟩ := by
  simp [atEnd, line, Zipper.text]

theorem line_toEnd (zipper : Zipper) : zipper.line.toEnd = (atEnd zipper.text).line := by
  rw [line_atEnd]
  rfl

end Lines

end Zipper

section Keys

variable {α β : Type}

/-- Give keys to a line, up to the first on which it is submitted or given up. -/
def untilDone (step : α → Key → α × PromptEvent) (state : α) : List Key → α × PromptEvent
  | [] => (state, .pending)
  | key :: keys =>
      match step state key with
      | (next, .pending) => untilDone step next keys
      | done => done

/-- Where each key does the same to a line and to its image, so do all keys. -/
theorem untilDone_map (image : α → β) {step : α → Key → α × PromptEvent} {step' : β → Key → β × PromptEvent}
    (same : ∀ state key, step' (image state) key = (image (step state key).1, (step state key).2)) (state : α)
    (keys : List Key) :
    untilDone step' (image state) keys = (image (untilDone step state keys).1, (untilDone step state keys).2) := by
  induction keys generalizing state with
  | nil => rfl
  | cons key keys ih =>
      rw [untilDone, untilDone, same]
      generalize step state key = done
      obtain ⟨next, event⟩ := done
      cases event with
      | pending => exact ih next
      | submit text => rfl
      | cancel => rfl

/-- Where each key that submits hands out the text of the line, this is what is submitted in the end. -/
theorem submits_untilDone (textOf : α → List Char) {step : α → Key → α × PromptEvent}
    (submits : ∀ state key text, (step state key).2 = .submit text → text = textOf (step state key).1) {state : α}
    {keys : List Key} {text : List Char} (submitted : (untilDone step state keys).2 = .submit text) :
    text = textOf (untilDone step state keys).1 := by
  induction keys generalizing state with
  | nil => contradiction
  | cons key keys ih =>
      have here := submits state key
      rw [untilDone] at submitted ⊢
      generalize step state key = done at here submitted ⊢
      obtain ⟨next, event⟩ := done
      cases event with
      | pending => exact ih submitted
      | submit text => exact here _ submitted
      | cancel => contradiction

end Keys

namespace Prompt

theorem backspace_line (kind : PromptKind) (zipper : Zipper) :
    (⟨kind, zipper.line⟩ : Prompt).backspace = (⟨kind, (zipper.step .erase).1.line⟩, (zipper.step .erase).2) := by
  unfold backspace Zipper.step edit
  dsimp only
  rw [Zipper.line_backspace, show zipper.line.text = zipper.text from rfl]
  by_cases empty : zipper.text = []
  · rw [if_pos (List.isEmpty_iff.2 empty), if_pos empty]
  · rw [if_neg (mt List.isEmpty_iff.1 empty), if_neg empty]

theorem handleKey_line (kind : PromptKind) (zipper : Zipper) (key : Key) :
    (⟨kind, zipper.line⟩ : Prompt).handleKey key =
      (⟨kind, (zipper.handleKey key).1.line⟩, (zipper.handleKey key).2) := by
  have edits : ∀ {line next}, line = next →
      (⟨kind, zipper.line⟩ : Prompt).edit line = (⟨kind, next⟩, PromptEvent.pending) := fun same => same ▸ rfl
  obtain ⟨code, mods⟩ := key
  cases code with
  | char c =>
      by_cases ctrl : mods = { ctrl := true }
      · subst ctrl
        by_cases u : c = 'u'
        · subst u
          exact edits zipper.line_clear
        by_cases w : c = 'w'
        · subst w
          exact edits zipper.line_deleteWord
        by_cases h : c = 'h'
        · subst h
          exact backspace_line kind zipper
        by_cases leaves : c = 'c' ∨ c = '['
        · rcases leaves with rfl | rfl <;> rfl
        · rw [not_or] at leaves
          simp [handleKey, Zipper.handleKey, PromptStep.ofKey, Key.isCtrl, Key.ctrl, Key.typed?, u, w, h, leaves,
            Zipper.step]
      · have plain : ∀ d, (⟨.char c, mods⟩ : Key).isCtrl d = false := by
          intro d
          simp [Key.isCtrl, Key.ctrl, ctrl]
        cases command : mods.ctrl || mods.alt with
        | true =>
            rw [Bool.or_eq_true] at command
            simp [handleKey, Zipper.handleKey, PromptStep.ofKey, plain, ctrl, Key.typed?, command, Zipper.step]
        | false =>
            rw [Bool.or_eq_false_iff] at command
            simp [handleKey, Zipper.handleKey, PromptStep.ofKey, plain, ctrl, Key.typed?, command, Zipper.step,
              edits (zipper.line_insert c)]
  | enter => rfl
  | escape => rfl
  | backspace => exact backspace_line kind zipper
  | delete => exact edits zipper.line_delete
  | left => exact edits zipper.line_left
  | right => exact edits zipper.line_right
  | home => exact edits zipper.line_home
  | endKey => exact edits zipper.line_toEnd
  | tab => exact edits (zipper.line_insert '\t')
  | insert => rfl
  | up => rfl
  | down => rfl
  | pageUp => rfl
  | pageDown => rfl

end Prompt

namespace InputLine

/-- One step of editing, carried out by bytes. -/
def stepByBytes (line : InputLine) : PromptStep → Option InputLine × PromptEvent
  | .insert c => (line.insertByBytes? c, .pending)
  | .erase => if line.text = [] then (some line, .cancel) else (line.backspaceByBytes?, .pending)
  | .delete => (line.deleteByBytes?, .pending)
  | .deleteWord => (line.deleteWordByBytes?, .pending)
  | .clear => (line.clearByBytes?, .pending)
  | .left => (some line.left, .pending)
  | .right => (some line.right, .pending)
  | .home => (some line.home, .pending)
  | .toEnd => (some line.toEnd, .pending)
  | .submit => (some line, .submit line.text)
  | .cancel => (some line, .cancel)
  | .ignore => (some line, .pending)

/-- What a key does to a line that is edited by bytes; there is no line any more once an edit has failed. -/
def handleKeyByBytes : Option InputLine → Key → Option InputLine × PromptEvent
  | none, _ => (none, .pending)
  | some line, key => line.stepByBytes (.ofKey key)

/-- A text typed into an empty line. -/
def typedByBytes? (text : List Char) : Option InputLine := text.foldlM insertByBytes? {}

theorem stepByBytes_line (zipper : Zipper) (step : PromptStep) :
    zipper.line.stepByBytes step = (some (zipper.step step).1.line, (zipper.step step).2) := by
  have within := zipper.within_line
  have edits : ∀ {edited : Option InputLine} {line next : InputLine}, edited = some line → line = next →
      (edited, PromptEvent.pending) = (some next, .pending) := by
    rintro _ line _ rfl rfl
    rfl
  cases step with
  | insert c => exact edits (insertByBytes?_eq _ c) (zipper.line_insert c)
  | erase =>
      unfold stepByBytes Zipper.step
      dsimp only
      rw [show zipper.line.text = zipper.text from rfl]
      split
      · rfl
      · exact edits (backspaceByBytes?_eq within) zipper.line_backspace
  | delete => exact edits (deleteByBytes?_eq _) zipper.line_delete
  | deleteWord => exact edits (deleteWordByBytes?_eq within) zipper.line_deleteWord
  | clear => exact edits (clearByBytes?_eq _) zipper.line_clear
  | left => exact edits rfl zipper.line_left
  | right => exact edits rfl zipper.line_right
  | home => exact edits rfl zipper.line_home
  | toEnd => exact edits rfl zipper.line_toEnd
  | submit => rfl
  | cancel => rfl
  | ignore => rfl

theorem typedByBytes?_eq (text : List Char) : typedByBytes? text = some ⟨text, text.length⟩ := by
  have typed : ∀ zipper : Zipper, text.foldlM insertByBytes? zipper.line =
      some (Zipper.line ⟨text.reverse ++ zipper.before, zipper.after⟩) := by
    induction text with
    | nil => exact fun _ => rfl
    | cons c text ih =>
        intro zipper
        rw [List.foldlM_cons, insertByBytes?_eq, Zipper.line_insert, Option.bind_eq_bind, Option.bind_some, ih]
        simp
  have whole := typed ⟨[], []⟩
  rw [List.append_nil] at whole
  rw [← Zipper.line_atEnd]
  exact whole

end InputLine

namespace Zipper

theorem text_of_submit {zipper : Zipper} {key : Key} {text : List Char}
    (submits : (zipper.handleKey key).2 = .submit text) : text = (zipper.handleKey key).1.text := by
  unfold handleKey at submits ⊢
  generalize PromptStep.ofKey key = step at submits ⊢
  cases step with
  | submit => exact (PromptEvent.submit.inj submits).symm
  | erase =>
      unfold Zipper.step at submits
      dsimp only at submits
      split at submits <;> contradiction
  | _ => contradiction

/-- The keys that erase give up just if there is no text. -/
theorem cancels_iff {zipper : Zipper} {key : Key} (erases : key = .ctrl 'h' ∨ key.code = .backspace) :
    (zipper.handleKey key).2 = .cancel ↔ zipper.text = [] := by
  have step : PromptStep.ofKey key = .erase := by
    obtain ⟨code, mods⟩ := key
    rcases erases with ctrl | code
    · rw [ctrl]
      rfl
    · dsimp only at code
      subst code
      rfl
  unfold handleKey
  rw [step, Zipper.step]
  by_cases empty : zipper.text = [] <;> simp [empty]

end Zipper

namespace Prompt

/-- The prompt is a zipper: whatever text it opens with, and whatever keys it is given, its text is that of the zipper
which is given the same keys, and its cursor stands where this is parted.  So the cursor is never beyond the end of the
text, and the line can be edited by bytes, from the typing of its first text on, without ever failing.  What is submitted
is the whole text, and the keys that erase give up just if there is none. -/
theorem edits_as_zipper (kind : PromptKind) (text : List Char) (keys : List Key) :
    let reached := untilDone handleKey (withText kind text) keys
    let zipper := untilDone Zipper.handleKey (.atEnd text) keys
    (reached.1.line.text = zipper.1.before.reverse ++ zipper.1.after ∧
        reached.1.line.cursor = zipper.1.before.length ∧ reached.2 = zipper.2) ∧
      reached.1.line.cursor ≤ reached.1.line.text.length ∧
      untilDone InputLine.handleKeyByBytes (InputLine.typedByBytes? text) keys = (some reached.1.line, reached.2) ∧
      (∀ submitted, reached.2 = .submit submitted → submitted = reached.1.line.text) ∧
      ∀ key, key = .ctrl 'h' ∨ key.code = .backspace →
        ((reached.1.handleKey key).2 = .cancel ↔ reached.1.line.text = []) := by
  intro reached zipper
  have line : reached = (⟨kind, zipper.1.line⟩, zipper.2) := by
    have start : withText kind text = ⟨kind, (Zipper.atEnd text).line⟩ := by
      rw [Zipper.line_atEnd]
      rfl
    unfold reached
    rw [start]
    exact untilDone_map (fun zipper : Zipper => (⟨kind, zipper.line⟩ : Prompt)) (handleKey_line kind) _ keys
  have bytes : untilDone InputLine.handleKeyByBytes (InputLine.typedByBytes? text) keys =
      (some zipper.1.line, zipper.2) := by
    rw [InputLine.typedByBytes?_eq, ← Zipper.line_atEnd]
    have same : ∀ (zipper : Zipper) (key : Key), InputLine.handleKeyByBytes (some zipper.line) key =
        (some (zipper.handleKey key).1.line, (zipper.handleKey key).2) :=
      fun zipper key => InputLine.stepByBytes_line zipper (.ofKey key)
    exact untilDone_map (fun zipper : Zipper => some zipper.line) same _ keys
  rw [line]
  refine ⟨⟨rfl, rfl, rfl⟩, zipper.1.within_line, bytes, fun submitted submits => ?_, fun key erases => ?_⟩
  · exact submits_untilDone Zipper.text (fun _ _ _ => Zipper.text_of_submit) submits
  · rw [handleKey_line]
    exact Zipper.cancels_iff erases

/-- A text with an accent is edited in front, a word of two other scripts is typed and erased, and the rest submitted;
the key behind that is not read any more. -/
theorem edits_as_zipper_scripts :
    let keys := [Key.plain .left, .plain .backspace, .char 'ß', .char '日', .ctrl 'w', .plain .endKey, .char 'ö',
      .plain .enter, .char 'x']
    let reached := untilDone handleKey (withText .command "né".toList) keys
    reached.2 = .submit "éö".toList ∧ reached.1.line = ⟨"éö".toList, 2⟩ ∧
      untilDone InputLine.handleKeyByBytes (InputLine.typedByBytes? "né".toList) keys =
        (some ⟨"éö".toList, 2⟩, .submit "éö".toList) ∧
      (reached.1.handleKey (.ctrl 'h')).2 ≠ .cancel := by
  intro keys reached
  obtain ⟨⟨text, cursor, event⟩, -, bytes, submits, cancels⟩ := edits_as_zipper .command "né".toList keys
  have zipper : untilDone Zipper.handleKey (.atEnd "né".toList) keys =
      (⟨['ö', 'é'], []⟩, .submit "éö".toList) := by decide +kernel
  rw [zipper] at text cursor event
  have line : reached.1.line = ⟨"éö".toList, 2⟩ := by
    rw [← show (⟨reached.1.line.text, reached.1.line.cursor⟩ : InputLine) = reached.1.line from rfl, text, cursor]
    rfl
  refine ⟨event, line, ?_, fun cancel => ?_⟩
  · rw [bytes, line, event]
  · have empty := (cancels (.ctrl 'h') (.inl rfl)).1 cancel
    rw [line] at empty
    contradiction

end Prompt

end ModalPanes
