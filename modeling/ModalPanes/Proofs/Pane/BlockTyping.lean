import ModalPanes.Proofs.Pane.BlockPutting
import ModalPanes.Proofs.Pane.CountedTyping
import ModalPanes.Proofs.Pane.OneStep
import ModalPanes.Proofs.Pane.Prefixes

/-!
# Typing at a side of a block

What is typed at a side of a selected block goes into the first line of the block, which it reaches or is filled up
for.  When typing ends, the text is copied to the lines below.  Each of them is changed as the first one was, so the
whole is one change of the lines of the block; and all of it is a single step of the history.
-/

namespace ModalPanes

namespace Keymap

variable {key : Key} {command : Command}

/-- In Visual mode, the key of a command is neither a digit nor the start of a text object. -/
theorem typed?_of_visual (found : findOrMotion? visual key = some command) (other : command ≠ .motion .lineStart)
    (counting : Bool) :
    key.countDigit? counting = none ∧ ¬(key.typed? = some 'i' ∨ key.typed? = some 'a') := by
  have entries : ∀ counting, ∀ entry ∈ visual ++ motions, entry.2 ≠ .motion .lineStart →
      entry.1.countDigit? counting = none ∧ ¬(entry.1.typed? = some 'i' ∨ entry.1.typed? = some 'a') := by
    decide +kernel
  rw [← countDigit?_foldShift, ← typed?_foldShift]
  exact entries counting _ (mem_of_findOrMotion? found) other

end Keymap

theorem mem_linesBetween {first last n : Nat} : n ∈ linesBetween first last ↔ first ≤ n ∧ n ≤ last := by
  unfold linesBetween
  rw [List.mem_range'_1]
  omega

theorem padRight_of_le {width : Nat} {text : List Char} (le : width ≤ text.length) : padRight width text = text := by
  unfold padRight
  rw [Nat.sub_eq_zero_of_le le, List.replicate_zero, List.append_nil]

namespace Pane

variable {pane next : Pane} {key escape : Key} {keys : List Key} {kind : InsertKind} {block : Block}
  {append toLineEnd : Bool} {text before front typed back : List Char} {top bottom col line : Nat} {c : Char}
  {start : Position} {lines : List Nat} {visual : VisualKind}

/-- A line of a block at which text was typed: behind the end of the line, behind the right side of the block with
spaces up to there, or at the left side if the line reaches it. -/
def typedLine (block : Block) (append toLineEnd : Bool) (text line : List Char) : List Char :=
  match append, toLineEnd with
  | true, true => line ++ text
  | true, false => putInto (block.right + 1) text (padRight (block.right + 1) line)
  | false, _ => if block.left ≤ line.length then putInto block.left text line else line

/-- The column at which text is typed at a side of a block. -/
def sideOf (block : Block) (append : Bool) : Nat := if append then block.right + 1 else block.left

/-- The column at which text is typed on a line of the given length. -/
def spotOn (block : Block) (append toLineEnd : Bool) (length : Nat) : Nat :=
  if append && toLineEnd then length else sideOf block append

/-- What typing at a side of a block is remembered as. -/
def typingAt (block : Block) (append toLineEnd : Bool) : InsertKind :=
  .block block.top block.bottom (sideOf block append) append (append && toLineEnd)

section Lines

theorem typedLine_of_reaches {line : List Char} (reaches : append = true ∨ block.left ≤ line.length)
    (text : List Char) :
    typedLine block append toLineEnd text line =
      putInto (spotOn block append toLineEnd line.length) text
        (padRight (spotOn block append toLineEnd line.length) line) := by
  cases append with
  | true =>
      cases toLineEnd with
      | true =>
          change line ++ text = putInto line.length text (padRight line.length line)
          rw [padRight_of_le (Nat.le_refl _), putInto_of_le (Nat.le_refl _)]
      | false => rfl
  | false =>
      have reached : block.left ≤ line.length := reaches.resolve_left Bool.false_ne_true
      change (if block.left ≤ line.length then _ else line) = putInto block.left text (padRight block.left line)
      rw [if_pos reached, padRight_of_le reached]

theorem typedLine_ne {line : List Char} (reaches : append = true ∨ block.left ≤ line.length) (filled : text ≠ []) :
    typedLine block append toLineEnd text line ≠ line := by
  intro same
  rw [typedLine_of_reaches reaches] at same
  have length := congrArg List.length same
  have longer := List.length_pos_of_ne_nil filled
  unfold putInto padRight at length
  simp only [List.length_append, List.length_take, List.length_drop, List.length_replicate] at length
  omega

theorem buffer_copyToLine (reaches : append = true ∨ block.left ≤ pane.buffer.lineLength line) (text : List Char) :
    (copyToLine text (sideOf block append) append (append && toLineEnd) pane line).buffer =
      let length := pane.buffer.lineLength line
      let spot := spotOn block append toLineEnd length
      (pane.buffer.insert ⟨line, length⟩ (List.replicate (spot - length) ' ')).insert ⟨line, spot⟩ text := by
  have copies : ¬(decide (pane.buffer.lineLength line <
      spotOn block append toLineEnd (pane.buffer.lineLength line)) && !append) = true := by
    cases append with
    | true => simp
    | false => simpa [spotOn, sideOf] using reaches
  unfold copyToLine
  dsimp only
  rw [show (if (append && toLineEnd) = true then pane.buffer.lineLength line else sideOf block append) =
    spotOn block append toLineEnd (pane.buffer.lineLength line) from rfl]
  rw [if_neg copies, buffer_insertText, buffer_insertText]

theorem changesLines_copyToLine (plain : Plain pane.buffer.text) (inside : line < pane.buffer.lineCount)
    (unbroken : Unbroken text) (block : Block) (append toLineEnd : Bool) :
    Buffer.ChangesLines [line] (typedLine block append toLineEnd text) pane.buffer
      (copyToLine text (sideOf block append) append (append && toLineEnd) pane line).buffer := by
  by_cases reaches : append = true ∨ block.left ≤ pane.buffer.lineLength line
  · rw [buffer_copyToLine reaches]
    refine (changesLines_filled plain inside _ unbroken).congr fun n mem => ?_
    obtain rfl := List.mem_singleton.1 mem
    exact (typedLine_of_reaches reaches text).symm
  · obtain ⟨inserts, short⟩ := not_or.1 reaches
    obtain rfl := Bool.eq_false_iff.2 inserts
    have leaves : copyToLine text (sideOf block false) false (false && toLineEnd) pane line = pane := by
      unfold copyToLine
      exact if_pos (by simpa [sideOf] using short)
    rw [leaves]
    refine .refl plain fun n mem => ?_
    obtain rfl := List.mem_singleton.1 mem
    exact if_neg short

theorem changesLines_foldl (plain : Plain pane.buffer.text) (inside : ∀ n ∈ lines, n < pane.buffer.lineCount)
    (apart : lines.Nodup) (unbroken : Unbroken text) (block : Block) (append toLineEnd : Bool) :
    Buffer.ChangesLines lines (typedLine block append toLineEnd text) pane.buffer
      (lines.foldl (copyToLine text (sideOf block append) append (append && toLineEnd)) pane).buffer := by
  induction lines generalizing pane with
  | nil => exact .refl plain nofun
  | cons line lines ih =>
      obtain ⟨lineInside, inside⟩ := List.forall_mem_cons.1 inside
      obtain ⟨other, apart⟩ := List.nodup_cons.1 apart
      have first := changesLines_copyToLine plain lineInside unbroken block append toLineEnd
      have others := ih first.plain (fun n mem => first.lineCount ▸ inside n mem) apart
      refine first.append others fun n mem => ?_
      obtain rfl := List.mem_singleton.1 mem
      exact other

theorem copyToBlock_eq (inside : bottom < pane.buffer.lineCount) (unbroken : Unbroken text) (filled : text ≠ [])
    (top col : Nat) (append toLineEnd : Bool) :
    pane.copyToBlock text top bottom col append toLineEnd =
      (linesBetween (top + 1) bottom).foldl (copyToLine text col append toLineEnd) pane := by
  have last : min bottom pane.buffer.lastLine = bottom := by
    unfold Buffer.lastLine
    omega
  have copies : ¬(text.isEmpty || text.contains '\n') = true := by
    simpa [filled] using unbroken.inLine
  unfold copyToBlock
  rw [if_neg copies, last]

/-- The lines of a block below the first are changed alike. -/
theorem changesLines_copyToBlock (plain : Plain pane.buffer.text) (inside : block.bottom < pane.buffer.lineCount)
    (unbroken : Unbroken text) (filled : text ≠ []) (append toLineEnd : Bool) :
    Buffer.ChangesLines (linesBetween (block.top + 1) block.bottom) (typedLine block append toLineEnd text)
      pane.buffer (pane.copyToBlock text block.top block.bottom (sideOf block append) append
        (append && toLineEnd)).buffer := by
  rw [copyToBlock_eq inside unbroken filled]
  refine changesLines_foldl plain (fun n mem => ?_) List.nodup_range' unbroken block append toLineEnd
  exact Nat.lt_of_le_of_lt (mem_linesBetween.1 mem).2 inside

end Lines

section Steps

variable (alters : pane.Alters before) (plain : Plain text)
include alters plain

theorem Alters.copyToLine (col : Nat) (append toLineEnd : Bool) (line : Nat) :
    (copyToLine text col append toLineEnd pane line).Alters before := by
  have spaces : ∀ count, Plain (List.replicate count ' ') := fun count =>
    (Unbroken.replicate (by decide) count).plain
  unfold Pane.copyToLine
  dsimp only
  generalize (if toLineEnd then pane.buffer.lineLength line else col) = spot
  split
  · exact alters
  · exact (alters.insertText _ (spaces _)).insertText _ plain

/-- Copies of typed text belong to the step. -/
theorem Alters.copyToBlock (top bottom col : Nat) (append toLineEnd : Bool) :
    (pane.copyToBlock text top bottom col append toLineEnd).Alters before := by
  unfold Pane.copyToBlock
  split
  · exact alters
  · generalize linesBetween _ _ = lines
    induction lines generalizing pane with
    | nil => exact alters
    | cons line lines ih => exact ih (alters.copyToLine plain col append toLineEnd line)

end Steps

/-- Insert mode with text typed at a place: where typing started, and the text that its step started from. -/
structure TypesAt (kind : InsertKind) (start : Position) (before front typed back : List Char) (pane : Pane) : Prop
    extends Inserts kind 1 none front typed back pane where
  started : ∀ session ∈ pane.insert, session.start = start
  alters : pane.Alters before

namespace TypesAt

section Typing

variable (typing : TypesAt kind start before front typed back pane)
include typing

theorem record (key : Key) : TypesAt kind start before front typed back (pane.record key) :=
  ⟨typing.of_alike (Alike.record key pane), typing.started, typing.alters.congr rfl rfl⟩

theorem settle : TypesAt kind start before front typed back pane.settle where
  toInserts := typing.of_alike (Alike.settle pane)
  started := (Alike.settle pane).same (·.insert) (fun _ => rfl) ▸ typing.started
  alters := typing.alters.settle (by rw [typing.mode]; rfl)

theorem plain : Plain (front ++ typed ++ back) := typing.text ▸ History.Tracks.plain typing.alters

theorem isTyping : pane.mode.isTyping = true := by
  rw [typing.mode]
  rfl

theorem typeChar (plainChar : IsPlain c) :
    TypesAt kind start before front (typed ++ [c]) back (pane.typeChar c) := by
  refine ⟨typing.toInserts.typeChar typing.plain plainChar, ?_, ?_⟩
  · rw [typeChar_of_insert typing.mode]
    obtain ⟨history, recorder, eq⟩ := insertText_eq pane pane.cursor.pos [c]
    rw [eq]
    rintro session mem
    obtain ⟨earlier, isEarlier, rfl⟩ := Option.map_eq_some_iff.1 mem
    exact typing.started earlier isEarlier
  · rw [typeChar_of_insert typing.mode]
    have plainText : Plain [c] := Plain.cons_iff.2 ⟨plainChar, nofun⟩
    exact (typing.alters.insertText _ plainText).congr rfl rfl

theorem handles (types : Types key c) (plainChar : IsPlain c) :
    ∃ next, Handles pane [key] next ∧ TypesAt kind start before front (typed ++ [c]) back next := by
  refine ⟨_, handles_typing typing.prompt typing.isTyping key, ?_⟩
  rw [(types.handleTyping _).2]
  exact ((typing.record key).typeChar plainChar).settle

end Typing

theorem handles_text (types : List.Forall₂ Types keys text) (plainText : Plain text)
    (typing : TypesAt kind start before front typed back pane) :
    ∃ next, Handles pane keys next ∧ TypesAt kind start before front (typed ++ text) back next :=
  handles_types (fun typed pane => TypesAt kind start before front typed back pane)
    (fun types plainChar typing => typing.handles types plainChar) types plainText typing

end TypesAt

theorem endTyping_of_block {session : InsertSession} (mode : pane.mode = .insert)
    (isSession : pane.insert = some session) (isKind : session.kind = .block top bottom col append toLineEnd)
    (once : session.count = 1) :
    pane.endTyping =
      (copyToBlock { pane with insert := none, mode := .normal } session.typed top bottom col append toLineEnd).jump
        false session.start := by
  have nothing : ∀ pane : Pane, pane.repeatForCount session = pane := by
    intro pane
    unfold repeatForCount
    dsimp only
    rw [once]
    exact if_pos (by simp)
  unfold endTyping
  rw [mode, isSession]
  dsimp only
  rw [isKind, nothing]
  rfl

/-- Leaving Insert mode copies the text to the other lines of the block, and goes back to where typing started. -/
theorem TypesAt.handles_ends (leaves : endsTyping escape = true)
    (typing : TypesAt (.block top bottom col append toLineEnd) start before front typed back pane) :
    ∃ left : Pane, left.TakesCommands ∧ left.pending = none ∧ left.count = none ∧
      left.buffer.text = front ++ typed ++ back ∧ left.Alters before ∧
      Handles pane [escape] ((left.copyToBlock typed top bottom col append toLineEnd).jump false start).settle := by
  have handles := handles_typing typing.prompt typing.isTyping escape
  have recorded := typing.record escape
  obtain ⟨session, isSession, isKind, once, rfl⟩ := recorded.session
  rw [handleTyping_of_ends leaves, endTyping_of_block recorded.mode isSession isKind once,
    recorded.started session isSession] at handles
  exact ⟨{ pane.record escape with insert := none, mode := .normal }, ⟨recorded.prompt, rfl⟩, recorded.pending,
    recorded.counted, recorded.text, recorded.alters.congr rfl rfl, handles⟩

section Selecting

theorem exitVisual_eq (pane : Pane) :
    ∃ lastVisual, pane.exitVisual =
      { pane with
        lastVisual := lastVisual
        mode := .normal
        cursor := pane.cursor.clearAnchor.clamp pane.buffer false } := by
  unfold exitVisual
  dsimp only
  split <;> exact ⟨_, rfl⟩

theorem exists_anchor (selected : pane.selection? = some (.block block toLineEnd)) :
    ∃ anchor, pane.mode = .visual .block ∧ pane.cursor.anchor = some anchor ∧
      pane.blockBetween anchor pane.cursor.pos = (block, toLineEnd) := by
  unfold selection? at selected
  split at selected
  · rename_i kind anchor mode isAnchor
    cases kind with
    | char => simp at selected
    | line => simp at selected
    | block =>
        obtain ⟨isBlock, ends⟩ := by simpa using selected
        exact ⟨anchor, mode, isAnchor, Prod.ext isBlock ends⟩
  · contradiction

/-- Both ends stand in the buffer, so a selected block does, and its first line reaches its left side. -/
theorem Settled.block_inside (settled : pane.Settled) (selected : pane.selection? = some (.block block toLineEnd)) :
    block.top ≤ block.bottom ∧ block.bottom < pane.buffer.lineCount ∧
      block.left ≤ pane.buffer.lineLength block.top := by
  obtain ⟨anchor, mode, isAnchor, between⟩ := exists_anchor selected
  obtain ⟨anchorLine, anchorCol⟩ := settled.anchor anchor isAnchor
  have line := settled.line
  have col := settled.col
  have corners : block.top = min anchor.line pane.cursor.pos.line ∧
      block.bottom = max anchor.line pane.cursor.pos.line ∧ block.left = min anchor.col pane.cursor.pos.col := by
    have isBlock := congrArg Prod.fst between
    unfold blockBetween at isBlock
    dsimp only at isBlock
    split at isBlock <;> exact isBlock ▸ ⟨rfl, rfl, rfl⟩
  obtain ⟨isTop, isBottom, isLeft⟩ := corners
  refine ⟨by omega, by omega, ?_⟩
  rcases Nat.le_total anchor.line pane.cursor.pos.line with le | le
  · rw [isTop, Nat.min_eq_left le]
    omega
  · rw [isTop, Nat.min_eq_right le]
    omega

theorem insertAtSelection_block (selected : pane.selection? = some (.block block toLineEnd))
    (reaches : append = true ∨ block.left ≤ pane.buffer.lineLength block.top) {rests : Pane}
    (isRests : rests = pane.dropCount.exitVisual) (same : rests.buffer = pane.buffer) :
    pane.insertAtSelection append =
      let length := pane.buffer.lineLength block.top
      let spot := spotOn block append toLineEnd length
      ((rests.insertText ⟨block.top, length⟩ (List.replicate (spot - length) ' ')).jump true
        ⟨block.top, spot⟩).startInsert (typingAt block append toLineEnd) 1 := by
  unfold insertAtSelection
  rw [selected]
  dsimp only
  rw [← isRests, ← same]
  cases append with
  | true => rfl
  | false =>
      have reached : block.left ≤ rests.buffer.lineLength block.top :=
        same ▸ reaches.resolve_left Bool.false_ne_true
      have nothing : rests.insertText ⟨block.top, rests.buffer.lineLength block.top⟩
          (List.replicate (spotOn block false toLineEnd (rests.buffer.lineLength block.top) -
            rests.buffer.lineLength block.top) ' ') = rests := by
        rw [show spotOn block false toLineEnd (rests.buffer.lineLength block.top) = block.left from rfl,
          Nat.sub_eq_zero_of_le reached]
        rfl
      rw [nothing]
      rfl

/-- Typing starts on a line that is filled up with spaces, at a place where the text is cut. -/
theorem typesAt_padded (alters : pane.Alters before) (plain : Plain pane.buffer.text)
    (inside : line < pane.buffer.lineCount) (takes : pane.TakesCommands) (waits : pane.pending = none)
    (uncounted : pane.count = none) (free : pane.cursor.anchor = none) (col : Nat) (kind : InsertKind) :
    let length := pane.buffer.lineLength line
    let spaces := List.replicate (col - length) ' '
    ∃ front back, Edit.stopOf .zero front = ⟨line, col⟩ ∧
      (pane.buffer.insert ⟨line, length⟩ spaces).text = front ++ back ∧
      TypesAt kind ⟨line, col⟩ before front [] back
        (((pane.insertText ⟨line, length⟩ spaces).jump true ⟨line, col⟩).startInsert kind 1) := by
  intro length spaces
  have padded := changesLines_padded plain inside col
  have admits := admits_padded plain inside col
  obtain ⟨front, back, cut, stop⟩ := Buffer.exists_cut padded.plain admits
  refine ⟨front, back, stop, cut, ?_⟩
  have plainSpaces : Plain spaces := (Unbroken.replicate (by decide) _).plain
  replace alters := alters.insertText ⟨line, length⟩ plainSpaces
  obtain ⟨history, recorder, eq⟩ := insertText_eq pane ⟨line, length⟩ spaces
  rw [eq] at alters ⊢
  have place := Buffer.nearest_of_admits admits
  refine ⟨?_, ?_, alters.congr rfl rfl⟩
  · show Inserts kind (max 1 1) none front [] back _
    apply Inserts.start
    · exact takes.prompt
    · exact waits
    · exact uncounted
    · exact free
    · exact cut
    · exact place.trans stop.symm
  · rintro session ⟨⟩
    exact place

theorem Settled.rests_in_visual (settled : pane.Settled) (mode : pane.mode = .visual visual) :
    pane.prompt = none ∧ pane.history.isOpen = false := by
  constructor
  · rw [← Option.not_isSome_iff_eq_none, settled.prompt, mode]
    nofun
  · rw [← Bool.not_eq_true]
    intro isOpen
    rcases settled.history isOpen with typing | typing <;> rw [mode] at typing <;> contradiction

/-- Typing starts on the first line of the block, which every text changes as it will change the others. -/
theorem typesAt_insertAtSelection (settled : pane.Settled) (plain : Plain pane.buffer.text)
    (rests : pane.pending = none) (selected : pane.selection? = some (.block block toLineEnd)) (append : Bool) :
    ∃ front back col,
      TypesAt (typingAt block append toLineEnd) ⟨block.top, col⟩ pane.buffer.text front [] back
        (pane.insertAtSelection append) ∧
      ∀ {text : List Char}, Unbroken text → ∀ {next : Buffer}, next.text = front ++ text ++ back →
        Buffer.ChangesLines [block.top] (typedLine block append toLineEnd text) pane.buffer next := by
  obtain ⟨ordered, bottom, left⟩ := settled.block_inside selected
  have inside : block.top < pane.buffer.lineCount := Nat.lt_of_le_of_lt ordered bottom
  have reaches : append = true ∨ block.left ≤ pane.buffer.lineLength block.top := .inr left
  obtain ⟨anchor, mode, -, -⟩ := exists_anchor selected
  obtain ⟨prompt, closed⟩ := settled.rests_in_visual mode
  obtain ⟨lastVisual, eq⟩ := exitVisual_eq pane.dropCount
  have starts := insertAtSelection_block selected reaches eq.symm rfl
  generalize isLeft : ({ pane.dropCount with
    lastVisual := lastVisual
    mode := .normal
    cursor := pane.dropCount.cursor.clearAnchor.clamp pane.dropCount.buffer false } : Pane) = left at starts
  have alters : left.Alters pane.buffer.text := isLeft ▸ (Alters.start closed plain).congr rfl rfl
  subst isLeft
  obtain ⟨front, back, stop, cut, typing⟩ := typesAt_padded alters plain inside ⟨prompt, rfl⟩ rests rfl rfl
    (spotOn block append toLineEnd (pane.buffer.lineLength block.top)) (typingAt block append toLineEnd)
  refine ⟨front, back, _, starts ▸ typing, fun {text} unbroken {next} same => ?_⟩
  have changes := changesLines_copyToLine plain inside unbroken block append toLineEnd
  rw [buffer_copyToLine reaches] at changes
  refine changes.of_text (same.trans ?_)
  have padded := changesLines_padded plain inside (spotOn block append toLineEnd (pane.buffer.lineLength block.top))
  have typed := Buffer.text_insert padded.plain cut text
  rw [stop] at typed
  exact typed.symm

end Selecting

section Keys

theorem dispatchWith_visual (prompt : pane.prompt = none) (mode : pane.mode = .visual visual)
    (waits : pane.pending = none) {command : Command} (found : Keymap.findOrMotion? Keymap.visual key = some command)
    (other : command ≠ .motion .lineStart) (again : Option Nat → Pane → Option Pane) :
    dispatchWith again key pane = some (pane.runVisual visual command) := by
  obtain ⟨digit, letter⟩ := Keymap.typed?_of_visual found other pane.count.isSome
  unfold dispatchWith handleVisual acceptDigit?
  rw [prompt, mode, waits, digit, found]
  dsimp only [Option.map_none]
  rw [if_neg letter]

/-- Normal mode at the first line of a block, with text typed at all of its lines in one step of the history. -/
structure TypedInto (block : Block) (append toLineEnd : Bool) (text : List Char) (pane next : Pane) : Prop extends
    TakesCommands next where
  pending : next.pending = none
  counted : next.count = none
  line : next.cursor.pos.line = block.top
  changes : Buffer.ChangesLines (linesBetween block.top block.bottom) (typedLine block append toLineEnd text)
    pane.buffer next.buffer
  alters : next.Alters pane.buffer.text

/-- Copying what was typed on the first line to the others. -/
theorem typedInto_copyToBlock {left : Pane} (takes : left.TakesCommands) (waits : left.pending = none)
    (uncounted : left.count = none) (alters : left.Alters pane.buffer.text)
    (first : Buffer.ChangesLines [block.top] (typedLine block append toLineEnd text) pane.buffer left.buffer)
    (ordered : block.top ≤ block.bottom) (inside : block.bottom < pane.buffer.lineCount) (unbroken : Unbroken text)
    (filled : text ≠ []) (col : Nat) :
    TypedInto block append toLineEnd text pane
      ((left.copyToBlock text block.top block.bottom (sideOf block append) append (append && toLineEnd)).jump false
        ⟨block.top, col⟩) := by
  have others := changesLines_copyToBlock first.plain (first.lineCount ▸ inside) unbroken filled append toLineEnd
  have apart : ∀ n ∈ [block.top], n ∉ linesBetween (block.top + 1) block.bottom := by
    intro n mem below
    obtain rfl := List.mem_singleton.1 mem
    exact absurd (mem_linesBetween.1 below).1 (Nat.not_succ_le_self _)
  have all : [block.top] ++ linesBetween (block.top + 1) block.bottom = linesBetween block.top block.bottom := by
    unfold linesBetween
    rw [show block.bottom + 1 - block.top = block.bottom + 1 - (block.top + 1) + 1 by omega]
    rfl
  have spelled : Alphabet.every.Spells text := fun _ _ => trivial
  have edits := (Edits.refl left.spelled_every).copyToBlock spelled block.top block.bottom (sideOf block append)
    append (append && toLineEnd)
  have same := prefixes_copyToBlock left text block.top block.bottom (sideOf block append) append
    (append && toLineEnd)
  exact
    { prompt := (congrArg Prefixes.prompt same).trans takes.prompt
      mode := edits.keeps.mode.trans takes.mode
      pending := (congrArg Prefixes.pending same).trans waits
      counted := (congrArg Prefixes.count same).trans uncounted
      line := by
        change min block.top (Buffer.lastLine _) = block.top
        unfold Buffer.lastLine
        rw [others.lineCount, first.lineCount]
        omega
      changes := all ▸ first.append others apart
      alters := (alters.copyToBlock unbroken.plain ..).congr rfl rfl }

section Typed

variable (settled : pane.Settled) (plain : Plain pane.buffer.text) (rests : pane.pending = none)
  (selected : pane.selection? = some (.block block toLineEnd))
  (found : Keymap.findOrMotion? Keymap.visual key = some (if append then .blockAppend else .blockInsert))
include settled plain rests selected found

theorem handles_insertAtSelection :
    ∃ next, Handles pane [key] next ∧ ∃ front back col,
      TypesAt (typingAt block append toLineEnd) ⟨block.top, col⟩ pane.buffer.text front [] back next ∧
      ∀ {text : List Char}, Unbroken text → ∀ {buf : Buffer}, buf.text = front ++ text ++ back →
        Buffer.ChangesLines [block.top] (typedLine block append toLineEnd text) pane.buffer buf := by
  obtain ⟨anchor, mode, -, -⟩ := exists_anchor selected
  have recorded : (pane.record key).Settled := { settled with }
  have mode : (pane.record key).mode = .visual .block := mode
  obtain ⟨prompt, -⟩ := recorded.rests_in_visual mode
  have runs : ∀ pane : Pane, pane.runVisual .block (if append then .blockAppend else .blockInsert) =
      pane.insertAtSelection append := by
    intro pane
    cases append <;> rfl
  have handed : ∀ again, dispatchWith again key (pane.record key) =
      some ((pane.record key).runVisual .block (if append then .blockAppend else .blockInsert)) :=
    dispatchWith_visual prompt mode rests found (by cases append <;> nofun)
  rw [runs] at handed
  obtain ⟨front, back, col, typing, changes⟩ := typesAt_insertAtSelection recorded plain rests selected append
  exact ⟨_, .one handed, front, back, col, typing.settle, changes⟩

end Typed

/-- What is typed at a side of a selected block is typed on each of its lines: on the left on those lines that reach
the left side, on the right on all of them, filled up if they are shorter, and at the ends of lines if the block goes
there.  The other lines are as they were, the cursor comes to the first line of the block, and a single undo restores
the text. -/
theorem block_typing (settled : pane.Settled) (plain : Plain pane.buffer.text) (rests : pane.pending = none)
    (selected : pane.selection? = some (.block block toLineEnd))
    (found : Keymap.findOrMotion? Keymap.visual key = some (if append then .blockAppend else .blockInsert))
    (types : List.Forall₂ Types keys text) (unbroken : Unbroken text) (filled : text ≠ [])
    (leaves : endsTyping escape = true) :
    ∃ final undone, Handles pane (key :: keys ++ [escape]) final ∧
      final.buffer.lineCount = pane.buffer.lineCount ∧
      (∀ n, final.buffer.line n =
        if block.top ≤ n ∧ n ≤ block.bottom then typedLine block append toLineEnd text (pane.buffer.line n)
        else pane.buffer.line n) ∧
      final.cursor.pos.line = block.top ∧
      Handles final [.char 'u'] undone ∧ undone.buffer.text = pane.buffer.text := by
  obtain ⟨ordered, inside, left⟩ := settled.block_inside selected
  obtain ⟨started, enters, front, back, col, typing, changes⟩ :=
    handles_insertAtSelection settled plain rests selected found
  obtain ⟨full, typed, typing⟩ := typing.handles_text types unbroken.plain
  rw [List.nil_append] at typing
  obtain ⟨quit, takes, waits, uncounted, whole, alters, ends⟩ := typing.handles_ends leaves
  have into := typedInto_copyToBlock takes waits uncounted alters (changes unbroken whole) ordered inside unbroken
    filled col
  generalize Pane.jump _ false ⟨block.top, col⟩ = last at into ends
  have changed : last.buffer.text ≠ pane.buffer.text := by
    intro same
    have reaches : append = true ∨ block.left ≤ (pane.buffer.line block.top).length := .inr left
    have typedTop := into.changes.line block.top
    rw [if_pos (mem_linesBetween.2 ⟨Nat.le_refl _, ordered⟩)] at typedTop
    exact typedLine_ne reaches filled (typedTop.symm.trans (Buffer.line_congr same _))
  obtain ⟨undone, undoes, restored⟩ :=
    into.alters.handles_undo into.toTakesCommands into.pending into.counted changed
  have settles := Alike.settle last
  have final := into.changes.of_text (settles.same (·.buffer.text) fun _ => rfl)
  refine ⟨last.settle, undone, enters.append (typed.append ends), final.lineCount, fun n => ?_,
    (settles.same (·.cursor.pos.line) fun _ => rfl).trans into.line, undoes, restored⟩
  rw [final.line]
  simp only [mem_linesBetween]

/-- A block over an empty line, which typing on the left leaves out and typing on the right fills up. -/
theorem block_typing_ragged :
    let pane := typedInto "abcd\n\nab\nef".toList [.char 'l', .ctrl 'v', .char 'j', .char 'j']
    pane.selection? = some (.block ⟨0, 2, 1, 1⟩ false) ∧
      (∃ final undone, Handles pane [.char 'I', .char 'x', .plain .tab, .plain .escape] final ∧
        final.buffer.line 0 = "ax\tbcd".toList ∧ final.buffer.line 1 = [] ∧ final.buffer.line 2 = "ax\tb".toList ∧
        Handles final [.char 'u'] undone ∧ undone.buffer.text = "abcd\n\nab\nef".toList) ∧
      ∃ final undone, Handles pane [.char 'A', .char 'x', .plain .tab, .plain .escape] final ∧
        final.buffer.line 1 = "  x\t".toList ∧ final.buffer.line 3 = "ef".toList ∧
        Handles final [.char 'u'] undone ∧ undone.buffer.text = "abcd\n\nab\nef".toList := by
  intro pane
  have settled : pane.Settled := (reached_typedInto _ _).settled
  have plain : Plain pane.buffer.text := by decide +kernel
  have rests : pane.pending = none := by decide +kernel
  have selected : pane.selection? = some (.block ⟨0, 2, 1, 1⟩ false) := by decide +kernel
  have types : List.Forall₂ Types [.char 'x', .plain .tab] "x\t".toList := .cons rfl (.cons rfl .nil)
  have typing : ∀ append : Bool, Keymap.findOrMotion? Keymap.visual (.char (if append then 'A' else 'I')) =
      some (if append then .blockAppend else .blockInsert) := by decide
  have leaves : endsTyping (.plain .escape) = true := by decide
  obtain ⟨inserted, insertUndone, inserts, -, insertLines, -, insertUndo, insertText⟩ :=
    block_typing settled plain rests selected (typing false) types (by decide) (by decide) leaves
  obtain ⟨appended, appendUndone, appends, -, appendLines, -, appendUndo, appendText⟩ :=
    block_typing settled plain rests selected (typing true) types (by decide) (by decide) leaves
  have text : pane.buffer.text = "abcd\n\nab\nef".toList := by decide +kernel
  refine ⟨selected, ⟨inserted, insertUndone, inserts, ?_, ?_, ?_, insertUndo, insertText.trans text⟩,
    appended, appendUndone, appends, ?_, ?_, appendUndo, appendText.trans text⟩
  · exact (insertLines 0).trans (by decide +kernel)
  · exact (insertLines 1).trans (by decide +kernel)
  · exact (insertLines 2).trans (by decide +kernel)
  · exact (appendLines 1).trans (by decide +kernel)
  · exact (appendLines 3).trans (by decide +kernel)

end Keys

end Pane

end ModalPanes
