import ModalPanes.Proofs.History.Tracking
import ModalPanes.Proofs.Pane.Handling
import ModalPanes.Proofs.Pane.Roaming
import ModalPanes.Proofs.Text.Cuts
import Mathlib.Data.List.Forall2

/-!
# Typing with a count

What is typed between a command that starts typing and Escape goes behind one place of the text, one character
after the other, line feeds included.  A count in front of the command writes the rest of its copies at once, when
typing ends.  Both ways come to the same text, and so to the same cursor, which steps back from the place where
the text stops.
-/

namespace ModalPanes

namespace Pane

variable {pane next : Pane} {key escape : Key} {keys digits : List Key} {command : Command} {c : Char}
  {text front typed back : List Char} {kind : InsertKind} {count times : Nat} {total : Option Nat}
  {anchor : Option Position}

/-- A command with digits in front of it does what it does with their count. -/
theorem handleKeys_command (takes : pane.TakesCommands) (waits : pane.pending = none)
    (spelled : Digits pane.count digits total)
    (found : Keymap.findOrMotion? Keymap.normal key = some command) (ahead : command.looksBack = false)
    (nonzero : command ≠ .motion .lineStart) :
    (pane.handleKeys (digits ++ [key])).Alike ((pane.counting total).runNormal command) := by
  have counted := spelled.handleKeys takes (by simp [TakesCount, waits]) rfl
  rw [handleKeys_append]
  generalize pane.handleKeys digits = middle at counted ⊢
  have takes : middle.TakesCommands := TakesCommands.of_alike (b := pane.counting total)
    ⟨takes.prompt, takes.mode⟩ counted
  have waits : middle.pending = none := (counted.same (·.pending) fun _ => rfl).trans waits
  have ordinary : command ≠ .repeatChange := by
    rintro rfl
    contradiction
  have digit := Keymap.countDigit?_of_findOrMotion? found nonzero
  have handed := dispatchWith_command (takes.record key) waits (digit _) found ordinary
  exact (Alike.handled handed).trans (((Alike.record key middle).trans counted).runNormal ahead)

def Types (key : Key) (c : Char) : Prop := replacement? key = some c

theorem Types.handleTyping (types : Types key c) (pane : Pane) :
    endsTyping key = false ∧ pane.handleTyping key = pane.typeChar c := by
  unfold Types replacement? at types
  have other : ∀ d, key.isCtrl d = false := by
    intro d
    rw [← Bool.not_eq_true]
    intro isControl
    obtain rfl : key = .ctrl d := by simpa [Key.isCtrl] using isControl
    simp [Key.ctrl, Key.typed?] at types
  unfold endsTyping Pane.handleTyping
  rw [other, other, other, other, other]
  split at types
  · rename_i code
    obtain rfl := Option.some.inj types
    simp [code]
  · rename_i code
    obtain rfl := Option.some.inj types
    simp [code]
  · cases code : key.code with
    | char d => simp [types]
    | enter => contradiction
    | tab => contradiction
    | _ => simp [Key.typed?, code] at types

/-- While text is typed, a key goes to the typing. -/
theorem handles_typing (prompt : pane.prompt = none) (typing : pane.mode.isTyping = true) (key : Key) :
    Handles pane [key] ((pane.record key).handleTyping key).settle := by
  have recorded : (pane.record key).prompt = none := prompt
  exact .one fun again => (dispatchWith_typing recorded typing again key).2

theorem handles_types (holds : List Char → Pane → Prop)
    (each : ∀ {key : Key} {c : Char} {typed : List Char} {pane : Pane}, Types key c → IsPlain c → holds typed pane →
      ∃ next, Handles pane [key] next ∧ holds (typed ++ [c]) next)
    (types : List.Forall₂ Types keys text) (plain : Plain text) (start : holds typed pane) :
    ∃ next, Handles pane keys next ∧ holds (typed ++ text) next := by
  induction types generalizing pane typed with
  | nil => exact ⟨pane, .nil pane, by rwa [List.append_nil]⟩
  | @cons key c keys text types rest ih =>
      obtain ⟨plainChar, plain⟩ := Plain.cons_iff.1 plain
      obtain ⟨middle, first, typed⟩ := each types plainChar start
      obtain ⟨next, others, all⟩ := ih plain typed
      rw [List.append_assoc, List.singleton_append] at all
      exact ⟨next, first.append others, all⟩

/-- Insert mode with text typed at a place: what stands in front and behind, and what has been typed so far. -/
structure Inserts (kind : InsertKind) (count : Nat) (anchor : Option Position) (front typed back : List Char)
    (pane : Pane) : Prop where
  mode : pane.mode = .insert
  prompt : pane.prompt = none
  pending : pane.pending = none
  counted : pane.count = none
  session : ∃ session ∈ pane.insert, session.kind = kind ∧ session.count = count ∧ session.typed = typed
  text : pane.buffer.text = front ++ typed ++ back
  pos : pane.cursor.pos = Edit.stopOf .zero (front ++ typed)
  anchor : pane.cursor.anchor = anchor

/-- Where a cursor comes to rest that steps back from the end of a part of a text. -/
def steppedBack (front back : List Char) : Position :=
  let stop := Edit.stopOf .zero front
  ({ text := front ++ back } : Buffer).nearest false ⟨stop.line, stop.col - 1⟩

/-- Normal mode, with the cursor one step back from the end of a part of the text. -/
structure StepsBack (anchor : Option Position) (front back : List Char) (pane : Pane) : Prop extends
    TakesCommands pane where
  pending : pane.pending = none
  counted : pane.count = none
  text : pane.buffer.text = front ++ back
  cursor : pane.cursor = ⟨steppedBack front back, .column (steppedBack front back).col, anchor⟩

theorem Inserts.of_alike (inserts : Inserts kind count anchor front typed back next) (alike : pane.Alike next) :
    Inserts kind count anchor front typed back pane where
  mode := (alike.same (·.mode) fun _ => rfl).trans inserts.mode
  prompt := (alike.same (·.prompt) fun _ => rfl).trans inserts.prompt
  pending := (alike.same (·.pending) fun _ => rfl).trans inserts.pending
  counted := (alike.same (·.count) fun _ => rfl).trans inserts.counted
  session := alike.same (·.insert) (fun _ => rfl) ▸ inserts.session
  text := (alike.same (·.buffer.text) fun _ => rfl).trans inserts.text
  pos := (alike.same (·.cursor.pos) fun _ => rfl).trans inserts.pos
  anchor := (alike.same (·.cursor.anchor) fun _ => rfl).trans inserts.anchor

theorem StepsBack.of_alike (steps : StepsBack anchor front back next) (alike : pane.Alike next) :
    StepsBack anchor front back pane where
  toTakesCommands := steps.toTakesCommands.of_alike alike
  pending := (alike.same (·.pending) fun _ => rfl).trans steps.pending
  counted := (alike.same (·.count) fun _ => rfl).trans steps.counted
  text := (alike.same (·.buffer.text) fun _ => rfl).trans steps.text
  cursor := (alike.same (·.cursor) fun _ => rfl).trans steps.cursor

/-- Text that is put in at a place of a plain text stands between the two parts. -/
theorem text_insertText (plain : Plain pane.buffer.text) (cut : pane.buffer.text = front ++ back)
    (text : List Char) :
    (pane.insertText (Edit.stopOf .zero front) text).buffer.text = front ++ text ++ back := by
  obtain ⟨history, recorder, eq⟩ := insertText_eq pane (Edit.stopOf .zero front) text
  rw [eq]
  exact Buffer.text_insert plain cut text

/-- In Insert mode a typed character goes in front of the cursor, which moves behind it. -/
theorem typeChar_of_insert (mode : pane.mode = .insert) (c : Char) :
    pane.typeChar c =
      ((pane.insertText pane.cursor.pos [c]).jump true (Edit.stopOf pane.cursor.pos [c])).revise
        fun session => { session with typed := session.typed ++ [c] } := by
  have stays : ∀ next, ((pane.insertText pane.cursor.pos [c]).jump true next).mode ≠ .replace := by
    intro next
    obtain ⟨history, recorder, eq⟩ := insertText_eq pane pane.cursor.pos [c]
    rw [eq]
    change pane.mode ≠ .replace
    rw [mode]
    nofun
  unfold Pane.typeChar
  rw [show (pane.mode == .replace) = false by rw [mode]; rfl]
  simp only [Bool.false_and, Bool.false_eq_true, if_false, if_neg (stays _)]
  rfl

section Typing

variable (plain : Plain (front ++ typed ++ back)) (inserts : Inserts kind count anchor front typed back pane)
include plain inserts

theorem Inserts.typeChar (plainChar : IsPlain c) :
    Inserts kind count anchor front (typed ++ [c]) back (pane.typeChar c) := by
  obtain ⟨session, isSession, isKind, isCount, isTyped⟩ := inserts.session
  have inserted := text_insertText (by rwa [inserts.text]) inserts.text [c]
  have stop : Edit.stopOf (Edit.stopOf .zero (front ++ typed)) [c] =
      Edit.stopOf .zero (front ++ (typed ++ [c])) := by
    rw [← Edit.stopOf_append, List.append_assoc]
  rw [← inserts.pos] at inserted stop
  obtain ⟨history, recorder, eq⟩ := insertText_eq pane pane.cursor.pos [c]
  rw [typeChar_of_insert inserts.mode, stop]
  rw [eq, List.append_assoc front] at inserted
  rw [eq]
  have still : Plain (front ++ (typed ++ [c]) ++ back) := by
    have plainTyped : Plain [c] := Plain.cons_iff.2 ⟨plainChar, nofun⟩
    rw [← List.append_assoc]
    exact plain.between plainTyped
  exact
    { mode := inserts.mode
      prompt := inserts.prompt
      pending := inserts.pending
      counted := inserts.counted
      session := ⟨_, Option.mem_map_of_mem _ isSession, isKind, isCount, by rw [isTyped]⟩
      text := inserted
      pos := Buffer.nearest_stopOf (by rwa [inserted]) inserted
      anchor := inserts.anchor }

theorem Inserts.handleKey (types : Types key c) (plainChar : IsPlain c) :
    Inserts kind count anchor front (typed ++ [c]) back (pane.handleKey key) := by
  have typing : (pane.record key).mode.isTyping = true := by
    rw [show (pane.record key).mode = .insert from inserts.mode]
    rfl
  have prompt : (pane.record key).prompt = none := inserts.prompt
  have handed := fun again => (dispatchWith_typing prompt typing again key).2
  have recorded := inserts.of_alike (Alike.record key pane)
  rw [(types.handleTyping _).2] at handed
  exact (recorded.typeChar plain plainChar).of_alike (Alike.handled handed)

end Typing

theorem Inserts.handleKeys (types : List.Forall₂ Types keys text) (plainText : Plain text)
    (plain : Plain (front ++ typed ++ back)) (inserts : Inserts kind count anchor front typed back pane) :
    Inserts kind count anchor front (typed ++ text) back (pane.handleKeys keys) := by
  induction types generalizing pane typed with
  | nil => rwa [List.append_nil]
  | @cons key c keys text types rest ih =>
      obtain ⟨plainChar, plainText⟩ := Plain.cons_iff.1 plainText
      have first := inserts.handleKey plain types plainChar
      have plainChar : Plain [c] := Plain.cons_iff.2 ⟨plainChar, nofun⟩
      have all := ih plainText (by rw [← List.append_assoc]; exact plain.between plainChar) first
      rw [List.append_assoc, List.singleton_append] at all
      exact all

/-- What is written for each further copy of typed text. -/
def copyOf (kind : InsertKind) (typed : List Char) : List Char :=
  if kind = .openLine then '\n' :: typed else typed

section Repeating

variable {session : InsertSession} (plain : Plain (front ++ back)) (plainTyped : Plain session.typed)
  (cut : pane.buffer.text = front ++ back) (pos : pane.cursor.pos = Edit.stopOf .zero front)
  (ends : session.kind = .openLine → restOfLine back = [])
include plain plainTyped cut pos ends

/-- At the place where a part of the text stops, all further copies go behind that part. -/
theorem repeatTyped_eq (times : Nat) {copies : List Char}
    (isCopies : copies = repeatText times (copyOf session.kind session.typed)) :
    ∃ buffer history recorder sticky, pane.repeatTyped session times =
        { pane with
          buffer := buffer
          cursor := ⟨Edit.stopOf .zero (front ++ copies), sticky, pane.cursor.anchor⟩
          history := history
          recorder := recorder } ∧
      buffer.text = front ++ copies ++ back := by
  have spot : (if (session.kind == .openLine) = true then
      ⟨pane.cursor.pos.line, pane.buffer.lineLength pane.cursor.pos.line⟩ else pane.cursor.pos) =
        Edit.stopOf .zero front := by
    split
    · rename_i opens
      rw [pos, Buffer.lineLength_stopOf (by rwa [cut]) cut, ends (by simpa using opens)]
      rfl
    · exact pos
  have written : repeatText times (if (session.kind == .openLine) = true then '\n' :: session.typed
      else session.typed) = copies := by
    rw [isCopies, copyOf]
    simp only [beq_iff_eq]
  have plainCopies : Plain copies := by
    have copy : Alphabet.plain.Spells (copyOf session.kind session.typed) := by
      unfold copyOf
      split
      · exact Plain.cons_iff.2 ⟨fun _ => rfl, plainTyped⟩
      · exact plainTyped
    exact isCopies ▸ copy.repeatText times
  have inserted := text_insertText (by rwa [cut]) cut copies
  obtain ⟨history, recorder, eq⟩ := insertText_eq pane (Edit.stopOf .zero front) copies
  rw [eq] at inserted
  dsimp only at inserted
  generalize pane.buffer.insert (Edit.stopOf .zero front) copies = buffer at eq inserted
  have still : Plain buffer.text := inserted ▸ plain.between plainCopies
  have stop : buffer.positionOf (buffer.index (Edit.stopOf .zero front) + copies.length) =
      Edit.stopOf .zero (front ++ copies) := by
    rw [Buffer.index_stopOf still (inserted.trans (List.append_assoc ..)), ← List.length_append,
      Buffer.positionOf_length still inserted]
  unfold repeatTyped
  simp only [spot, written, eq, stop]
  refine ⟨buffer, history, recorder, .column (Edit.stopOf .zero (front ++ copies)).col, ?_, inserted⟩
  unfold jump moveCursor Cursor.jump Cursor.atPosition
  dsimp only
  rw [Buffer.nearest_stopOf still inserted]

/-- If it is not too long, a counted text is written as often as its count says. -/
theorem repeatForCount_eq (filled : session.typed ≠ [])
    (short : (byteLength session.typed + if session.kind = .openLine then 1 else 0) * (session.count - 1) ≤
      longestRepeat) {copies : List Char}
    (isCopies : copies = repeatText (session.count - 1) (copyOf session.kind session.typed)) :
    ∃ buffer history recorder sticky, pane.repeatForCount session =
        { pane with
          buffer := buffer
          cursor := ⟨Edit.stopOf .zero (front ++ copies), sticky, pane.cursor.anchor⟩
          history := history
          recorder := recorder } ∧
      buffer.text = front ++ copies ++ back := by
  have typed : session.typed.isEmpty = false := by simpa [List.isEmpty_eq_false_iff] using filled
  unfold repeatForCount
  dsimp only
  rw [typed, Bool.false_or, if_neg (Nat.not_lt.2 short)]
  split
  · rename_i once
    rw [of_decide_eq_true once] at isCopies
    obtain rfl : copies = [] := isCopies
    rw [List.append_nil, ← pos]
    exact ⟨pane.buffer, pane.history, pane.recorder, pane.cursor.sticky, rfl, by simpa using cut⟩
  · exact repeatTyped_eq plain plainTyped cut pos ends _ isCopies

end Repeating

/-- Leaving Insert mode, outside of a block, writes the copies that are still due and steps back. -/
theorem endTyping_of_insert {session : InsertSession} (mode : pane.mode = .insert)
    (isSession : pane.insert = some session) (kinds : session.kind = .plain ∨ session.kind = .openLine) :
    pane.endTyping =
      let rests := { pane with insert := none, mode := .normal }.repeatForCount session
      rests.jump false (rests.cursor.pos.withCol (rests.cursor.pos.col - 1)) := by
  unfold endTyping
  rw [mode, isSession]
  dsimp only
  split
  · rename_i block
    rw [block] at kinds
    rcases kinds with kind | kind <;> contradiction
  · rfl


section Leaving

variable (inserts : Inserts kind count anchor front typed back pane)
  (plain : Plain (front ++ typed ++ back)) (kinds : kind = .plain ∨ kind = .openLine)
  (ends : kind = .openLine → restOfLine back = []) (filled : typed ≠ [])
  (short : (byteLength typed + if kind = .openLine then 1 else 0) * (count - 1) ≤ longestRepeat)
include inserts plain kinds ends filled short

theorem Inserts.endTyping :
    StepsBack anchor (front ++ typed ++ repeatText (count - 1) (copyOf kind typed)) back pane.endTyping := by
  obtain ⟨session, isSession, rfl, rfl, rfl⟩ := inserts.session
  have plainTyped : Plain session.typed := (Plain.append_iff.1 (Plain.append_iff.1 plain).1).2
  have cut : ({ pane with insert := none, mode := .normal } : Pane).buffer.text =
      front ++ session.typed ++ back := inserts.text
  obtain ⟨buffer, history, recorder, sticky, repeated, text⟩ :=
    repeatForCount_eq plain plainTyped cut inserts.pos ends filled short rfl
  rw [endTyping_of_insert inserts.mode isSession kinds, repeated]
  generalize repeatText (session.count - 1) (copyOf session.kind session.typed) = copies at text
  exact
    { prompt := inserts.prompt
      mode := rfl
      pending := inserts.pending
      counted := inserts.counted
      text := text
      cursor := by
        unfold steppedBack
        rw [← text, ← inserts.anchor]
        rfl }

theorem Inserts.handleKey_ends (leaves : endsTyping escape = true) :
    StepsBack anchor (front ++ typed ++ repeatText (count - 1) (copyOf kind typed)) back
      (pane.handleKey escape) := by
  have typing : (pane.record escape).mode.isTyping = true := by
    rw [show (pane.record escape).mode = .insert from inserts.mode]
    rfl
  have prompt : (pane.record escape).prompt = none := inserts.prompt
  have handed := fun again => (dispatchWith_typing prompt typing again escape).2
  rw [handleTyping_of_ends leaves] at handed
  have recorded := inserts.of_alike (Alike.record escape pane)
  exact (recorded.endTyping plain kinds ends filled short).of_alike (Alike.handled handed)

end Leaving

theorem Inserts.start (prompt : pane.prompt = none) (pending : pane.pending = none)
    (counted : pane.count = none) (isAnchor : pane.cursor.anchor = anchor)
    (cut : pane.buffer.text = front ++ back) (pos : pane.cursor.pos = Edit.stopOf .zero front)
    (kind : InsertKind) (n : Nat) :
    Inserts kind (max n 1) anchor front [] back (pane.startInsert kind n) where
  mode := rfl
  prompt := prompt
  pending := pending
  counted := counted
  session := ⟨_, rfl, rfl, rfl, rfl⟩
  text := by rwa [List.append_nil]
  pos := by rwa [List.append_nil]
  anchor := isAnchor

theorem runNormal_inserts
    (inserts : command ∈ [.insert, .append, .insertAtLineStart, .appendAtLineEnd]) :
    ∃ enter : Buffer → Cursor → Cursor,
      (∀ pane : Pane, pane.runNormal command = pane.withTimes fun pane n =>
        (pane.moveCursor (enter pane.buffer)).startInsert .plain n) ∧
      ∀ (buf : Buffer) (cursor : Cursor), buf.Admits false cursor.pos →
        buf.Admits true (enter buf cursor).pos ∧ (enter buf cursor).anchor = cursor.anchor := by
  simp only [List.mem_cons, List.not_mem_nil, or_false] at inserts
  rcases inserts with rfl | rfl | rfl | rfl
  · exact ⟨fun _ cursor => cursor, fun _ => rfl, fun _ _ admits => ⟨admits.widen true, rfl⟩⟩
  · refine ⟨fun buf cursor =>
      if 0 < buf.lineLength cursor.pos.line then
        cursor.jump buf true (cursor.pos.withCol (cursor.pos.col + 1))
      else cursor, fun pane => ?_, fun buf cursor admits => ?_⟩
    · have appends : ∀ (pane : Pane) (n : Nat), pane.appendHere n =
          (pane.moveCursor fun cursor =>
            if 0 < pane.buffer.lineLength cursor.pos.line then
              cursor.jump pane.buffer true (cursor.pos.withCol (cursor.pos.col + 1))
            else cursor).startInsert .plain n := by
        intro pane n
        unfold appendHere moveCursor
        dsimp only
        split <;> rfl
      exact appends _ _
    · dsimp only
      split
      · exact ⟨Cursor.admits_jump true buf cursor _, rfl⟩
      · exact ⟨admits.widen true, rfl⟩
  · exact ⟨fun buf cursor => cursor.toFirstNonBlank buf true, fun _ => rfl,
      fun _ _ admits => ⟨Cursor.admits_toFirstNonBlank true admits.1, rfl⟩⟩
  · exact ⟨fun buf cursor => cursor.toLineEnd buf true, fun _ => rfl,
      fun _ _ admits => ⟨Cursor.admits_toLineEnd true admits.1, rfl⟩⟩

theorem openLine_eq (plain : Plain pane.buffer.text) (cut : pane.buffer.text = front ++ back)
    (line : pane.cursor.pos.line = (Edit.stopOf .zero front).line) (ends : restOfLine back = []) :
    ∃ buffer history recorder sticky, pane.openLine true =
        { pane with
          buffer := buffer
          cursor := ⟨Edit.stopOf .zero (front ++ ['\n']), sticky, pane.cursor.anchor⟩
          history := history
          recorder := recorder } ∧
      buffer.text = front ++ ['\n'] ++ back := by
  have spot : (⟨pane.cursor.pos.line, pane.buffer.lineLength pane.cursor.pos.line⟩ : Position) =
      Edit.stopOf .zero front := by
    rw [line, Buffer.lineLength_stopOf plain cut, ends]
    rfl
  have below : (⟨pane.cursor.pos.line + 1, 0⟩ : Position) = Edit.stopOf .zero (front ++ ['\n']) := by
    rw [Edit.stopOf_newline_end, line]
  have inserted := text_insertText plain cut ['\n']
  obtain ⟨history, recorder, eq⟩ := insertText_eq pane (Edit.stopOf .zero front) ['\n']
  rw [eq] at inserted
  have newline : Plain ['\n'] := by decide
  have still := (cut ▸ plain).between newline
  unfold openLine
  dsimp only
  rw [if_pos rfl, spot, below, eq]
  refine ⟨_, history, recorder, .column (Edit.stopOf .zero (front ++ ['\n'])).col, ?_, inserted⟩
  unfold jump moveCursor Cursor.jump Cursor.atPosition
  dsimp only at inserted ⊢
  rw [Buffer.nearest_stopOf (by rwa [inserted]) inserted]

section Commands

variable (takes : pane.TakesCommands) (waits : pane.pending = none) (uncounted : pane.count = none)
include takes waits uncounted

/-- A command starts typing at the same place with every count. -/
theorem exists_inserts (plain : Plain pane.buffer.text) (admits : pane.buffer.Admits false pane.cursor.pos)
    (found : Keymap.findOrMotion? Keymap.normal key = some command)
    (inserts : command ∈ [.insert, .append, .insertAtLineStart, .appendAtLineEnd]) :
    ∃ front back, pane.buffer.text = front ++ back ∧ ∀ {digits : List Key} {total : Option Nat},
      Digits none digits total →
        Inserts .plain (max (total.getD 1) 1) pane.cursor.anchor front [] back
          (pane.handleKeys (digits ++ [key])) := by
  obtain ⟨enter, enters, places⟩ := runNormal_inserts inserts
  obtain ⟨stands, anchor⟩ := places pane.buffer pane.cursor admits
  obtain ⟨front, back, cut, stop⟩ := Buffer.exists_cut plain stands
  refine ⟨front, back, cut, fun {digits total} spelled => ?_⟩
  have ahead : command.looksBack = false ∧ command ≠ .motion .lineStart := by
    simp only [List.mem_cons, List.not_mem_nil, or_false] at inserts
    rcases inserts with rfl | rfl | rfl | rfl <;> exact ⟨rfl, nofun⟩
  have runs := handleKeys_command takes waits (uncounted ▸ spelled) found ahead.1 ahead.2
  refine Inserts.of_alike ?_ runs
  rw [enters]
  change Inserts _ _ _ _ _ _ (startInsert (moveCursor (pane.counting total).takeCount.2 _) .plain _)
  apply Inserts.start
  · exact takes.prompt
  · exact waits
  · rfl
  · exact anchor
  · exact cut
  · exact stop.symm

theorem inserts_openLine (plain : Plain pane.buffer.text) (cut : pane.buffer.text = front ++ back)
    (line : pane.cursor.pos.line = (Edit.stopOf .zero front).line) (ends : restOfLine back = [])
    (found : Keymap.findOrMotion? Keymap.normal key = some .openBelow) (spelled : Digits none digits total) :
    Inserts .openLine (max (total.getD 1) 1) pane.cursor.anchor (front ++ ['\n']) [] back
      (pane.handleKeys (digits ++ [key])) := by
  have runs := handleKeys_command takes waits (uncounted ▸ spelled) found rfl nofun
  refine Inserts.of_alike ?_ runs
  have plain : Plain (pane.counting total).takeCount.2.buffer.text := plain
  obtain ⟨buffer, history, recorder, sticky, opened, text⟩ := openLine_eq plain cut line ends
  change Inserts _ _ _ _ _ _ (startInsert (openLine (pane.counting total).takeCount.2 true) .openLine _)
  rw [opened]
  apply Inserts.start
  · exact takes.prompt
  · exact waits
  · rfl
  · rfl
  · exact text
  · rfl

end Commands

/-- A count that is typed is at least one, since no zero starts it. -/
theorem Digits.positive {count : Option Nat} (spelled : Digits count digits total) (before : ∀ n ∈ count, 1 ≤ n) :
    ∀ n ∈ total, 1 ≤ n := by
  induction spelled with
  | nil count => exact before
  | @cons count total key keys digit typed rest ih =>
      refine ih ?_
      rintro n ⟨⟩
      obtain ⟨c, -, digits⟩ := Option.bind_eq_some_iff.1 typed
      have one : 1 ≤ count.getD 0 * 10 + digit := by
        cases count with
        | some n =>
            have positive := before n rfl
            rw [Option.getD_some]
            omega
        | none =>
            split at digits
            · rename_i isDigit
              obtain rfl := Option.some.inj digits
              obtain ⟨low, -⟩ : '1' ≤ c ∧ c ≤ '9' := by simpa using isDigit
              have low : '1'.toNat ≤ c.toNat := low
              have values : '0'.toNat = 48 ∧ '1'.toNat = 49 := by decide
              omega
            · contradiction
      exact Nat.le_min.2 ⟨one, by decide⟩

theorem repeatText_succ (count : Nat) (text : List Char) :
    repeatText (count + 1) text = text ++ repeatText count text := by
  unfold repeatText
  rw [List.replicate_succ, List.flatten_cons]

theorem types_repeatText (types : List.Forall₂ Types keys text) (times : Nat) :
    List.Forall₂ Types (List.replicate times keys).flatten (repeatText times text) := by
  induction times with
  | zero => exact .nil
  | succ times ih =>
      rw [repeatText_succ, List.replicate_succ, List.flatten_cons]
      exact List.rel_append types ih

theorem exists_cut_line {buf : Buffer} {pos : Position} (plain : Plain buf.text) (admits : buf.Admits false pos) :
    ∃ front back, buf.text = front ++ back ∧ pos.line = (Edit.stopOf .zero front).line ∧ restOfLine back = [] := by
  have stands : buf.Admits true ⟨pos.line, buf.lineLength pos.line⟩ := ⟨admits.1, Nat.le_refl _⟩
  obtain ⟨front, back, cut, stop⟩ := Buffer.exists_cut plain stands
  refine ⟨front, back, cut, by rw [stop], ?_⟩
  have length := Buffer.lineLength_stopOf plain cut
  rw [stop] at length
  exact List.eq_nil_of_length_eq_zero (by simpa using length)

theorem StepsBack.same {other : Pane} (steps : StepsBack anchor front back pane)
    (others : StepsBack anchor front back other) :
    pane.buffer.text = other.buffer.text ∧ pane.cursor = other.cursor :=
  ⟨steps.text.trans others.text.symm, steps.cursor.trans others.cursor.symm⟩

theorem StepsBack.line (steps : StepsBack anchor front back pane) (plain : Plain (front ++ back)) :
    pane.cursor.pos.line = (Edit.stopOf .zero front).line := by
  have inside : (Edit.stopOf .zero front).line < ({ text := front ++ back } : Buffer).lineCount :=
    Buffer.stopOf_line_lt plain rfl
  rw [steps.cursor]
  exact Nat.min_eq_left (Nat.le_sub_one_of_lt inside)

section Typed

variable (plainText : Plain text) (types : List.Forall₂ Types keys text) (filled : text ≠ [])
  (leaves : endsTyping escape = true)
include plainText types filled leaves

/-- Typing behind a command that starts it. -/
theorem Inserts.handleKeys_ends (inserts : Inserts kind count anchor front [] back pane)
    (plain : Plain (front ++ back)) (kinds : kind = .plain ∨ kind = .openLine)
    (ends : kind = .openLine → restOfLine back = [])
    (short : (byteLength text + if kind = .openLine then 1 else 0) * (count - 1) ≤ longestRepeat) :
    StepsBack anchor (front ++ text ++ repeatText (count - 1) (copyOf kind text)) back
      (pane.handleKeys (keys ++ [escape])) := by
  have typed := inserts.handleKeys types plainText (by rwa [List.append_nil])
  rw [handleKeys_append]
  exact typed.handleKey_ends (plain.between plainText) kinds ends filled short leaves

section Rounds

variable (found : Keymap.findOrMotion? Keymap.normal key = some .openBelow) (ends : restOfLine back = [])
include found ends

theorem handleKeys_openLine (takes : pane.TakesCommands) (waits : pane.pending = none)
    (uncounted : pane.count = none) (plain : Plain (front ++ back)) (cut : pane.buffer.text = front ++ back)
    (line : pane.cursor.pos.line = (Edit.stopOf .zero front).line) (spelled : Digits none digits total)
    (short : (byteLength text + 1) * (max (total.getD 1) 1 - 1) ≤ longestRepeat) :
    StepsBack pane.cursor.anchor (front ++ repeatText (max (total.getD 1) 1) ('\n' :: text)) back
      (pane.handleKeys (digits ++ key :: keys ++ [escape])) := by
  have inserts := inserts_openLine takes waits uncounted (by rwa [cut]) cut line ends found spelled
  have newline : Plain ['\n'] := by decide
  have still := plain.between newline
  have typed := inserts.handleKeys_ends plainText types filled leaves still (.inr rfl) (fun _ => ends) short
  have written : front ++ ['\n'] ++ text ++
      repeatText (max (total.getD 1) 1 - 1) (copyOf .openLine text) =
        front ++ repeatText (max (total.getD 1) 1) ('\n' :: text) := by
    obtain ⟨less, eq⟩ : ∃ less, max (total.getD 1) 1 = less + 1 := ⟨max (total.getD 1) 1 - 1, by omega⟩
    rw [eq, repeatText_succ, copyOf, if_pos rfl, Nat.add_sub_cancel]
    simp
  rw [written, ← handleKeys_append] at typed
  simpa using typed

/-- Doing so several times in a row. -/
theorem handleKeys_rounds (takes : pane.TakesCommands) (waits : pane.pending = none)
    (uncounted : pane.count = none) (plain : Plain (front ++ back)) (cut : pane.buffer.text = front ++ back)
    (line : pane.cursor.pos.line = (Edit.stopOf .zero front).line) (rounds : Nat) :
    StepsBack pane.cursor.anchor (front ++ repeatText (rounds + 1) ('\n' :: text)) back
      (pane.handleKeys (List.replicate (rounds + 1) (key :: keys ++ [escape])).flatten) := by
  have first := handleKeys_openLine plainText types filled leaves found ends takes waits uncounted plain cut line
    (.nil none) (Nat.zero_le _)
  induction rounds generalizing pane front with
  | zero => simpa using first
  | succ rounds ih =>
      rw [show repeatText (max ((none : Option Nat).getD 1) 1) ('\n' :: text) = '\n' :: text from
        List.append_nil _, List.nil_append] at first
      have plainLine : Plain ('\n' :: text) := Plain.cons_iff.2 ⟨fun _ => rfl, plainText⟩
      have still := plain.between plainLine
      have again := handleKeys_openLine plainText types filled leaves found ends first.toTakesCommands
        first.pending first.counted still first.text (first.line still) (.nil none) (Nat.zero_le _)
      have later := ih first.toTakesCommands first.pending first.counted still first.text (first.line still) again
      rw [repeatText_succ, ← List.append_assoc, List.replicate_succ, List.flatten_cons, handleKeys_append]
      rwa [first.cursor] at later

end Rounds

end Typed

/-- A counted insertion is repeated typing: it leaves the same text and the same cursor as typing the text as often
as the count says, or as opening a line and typing on it so often, if the copies that are written at once are not
too long. -/
theorem counted_typing_repeats (idle : pane.isIdle = true) (plain : Plain pane.buffer.text)
    (admits : pane.buffer.Admits false pane.cursor.pos) (spelled : Digits none digits (some times))
    (types : List.Forall₂ Types keys text) (plainText : Plain text) (filled : text ≠ [])
    (leaves : endsTyping escape = true) :
    (∀ (key : Key) (command : Command), Keymap.findOrMotion? Keymap.normal key = some command →
      command ∈ [.insert, .append, .insertAtLineStart, .appendAtLineEnd] →
        byteLength text * (times - 1) ≤ longestRepeat →
          let counted := pane.handleKeys (digits ++ key :: keys ++ [escape])
          let repeated := pane.handleKeys (key :: (List.replicate times keys).flatten ++ [escape])
          counted.buffer.text = repeated.buffer.text ∧ counted.cursor = repeated.cursor) ∧
    ∀ key : Key, Keymap.findOrMotion? Keymap.normal key = some .openBelow →
      (byteLength text + 1) * (times - 1) ≤ longestRepeat →
        let counted := pane.handleKeys (digits ++ key :: keys ++ [escape])
        let repeated := pane.handleKeys (List.replicate times (key :: keys ++ [escape])).flatten
        counted.buffer.text = repeated.buffer.text ∧ counted.cursor = repeated.cursor := by
  obtain ⟨mode, waits, uncounted, -, prompt⟩ := isIdle_iff.1 idle
  have takes : pane.TakesCommands := ⟨prompt, mode⟩
  have once : 1 ≤ times := spelled.positive (fun _ none => nomatch none) times rfl
  obtain ⟨less, rfl⟩ : ∃ less, times = less + 1 := ⟨times - 1, by omega⟩
  constructor
  · intro key command found inserts short
    obtain ⟨front, back, cut, starts⟩ := exists_inserts takes waits uncounted plain admits found inserts
    have cutPlain : Plain (front ++ back) := cut ▸ plain
    have counted := (starts spelled).handleKeys_ends plainText types filled leaves cutPlain (.inl rfl) nofun
      (by simpa using short)
    have often : repeatText (less + 1) text ≠ [] := by
      rw [repeatText_succ]
      exact List.append_ne_nil_of_left_ne_nil filled _
    have plainOften : Plain (repeatText (less + 1) text) :=
      Alphabet.Spells.repeatText (show Alphabet.plain.Spells text from plainText) _
    have repeated := (starts (.nil none)).handleKeys_ends plainOften (types_repeatText types (less + 1)) often
      leaves cutPlain (.inl rfl) nofun (Nat.zero_le _)
    rw [← handleKeys_append] at counted repeated
    have all : front ++ text ++ repeatText (max ((some (less + 1)).getD 1) 1 - 1) (copyOf .plain text) =
        front ++ repeatText (less + 1) text ++
          repeatText (max ((none : Option Nat).getD 1) 1 - 1) (copyOf .plain (repeatText (less + 1) text)) := by
      rw [show max ((some (less + 1)).getD 1) 1 - 1 = less by simp, repeatText_succ, List.append_assoc]
      exact (List.append_nil _).symm
    rw [all] at counted
    simpa using counted.same repeated
  · intro key found short
    obtain ⟨front, back, cut, line, ends⟩ := exists_cut_line plain admits
    have cutPlain : Plain (front ++ back) := cut ▸ plain
    have counted := handleKeys_openLine plainText types filled leaves found ends takes waits uncounted cutPlain cut
      line spelled (by simpa using short)
    rw [show max ((some (less + 1)).getD 1) 1 = less + 1 by simp] at counted
    have repeated := handleKeys_rounds plainText types filled leaves found ends takes waits uncounted cutPlain cut
      line less
    exact counted.same repeated

/-- Two lines are typed three times over, between two characters and below a line. -/
theorem counted_typing_repeats_lines :
    let pane := typedInto "ab\ncd".toList [.char 'l']
    let keys : List Key := [.char 'x', .plain .enter, .char 'y']
    pane.isIdle = true ∧ pane.buffer.Admits false pane.cursor.pos ∧
      (pane.handleKeys ([.char '3'] ++ .char 'i' :: keys ++ [.plain .escape])).buffer.text =
        "ax\nyx\nyx\nyb\ncd".toList ∧
      (pane.handleKeys ([.char '3'] ++ .char 'i' :: keys ++ [.plain .escape])).buffer.text =
        (pane.handleKeys (.char 'i' :: (List.replicate 3 keys).flatten ++ [.plain .escape])).buffer.text ∧
      (pane.handleKeys ([.char '3'] ++ .char 'o' :: keys ++ [.plain .escape])).cursor =
        (pane.handleKeys (List.replicate 3 (.char 'o' :: keys ++ [.plain .escape])).flatten).cursor := by
  intro pane keys
  have idle : pane.isIdle = true := by decide +kernel
  have admits : pane.buffer.Admits false pane.cursor.pos := ⟨by decide +kernel, by decide +kernel⟩
  have digit : (Key.char '3').countDigit? false = some 3 := by decide
  have three : Digits none [.char '3'] (some 3) := .cons digit (.nil _)
  have types : List.Forall₂ Types keys "x\ny".toList := .cons rfl (.cons rfl (.cons rfl .nil))
  obtain ⟨inserts, opens⟩ := counted_typing_repeats idle (by decide +kernel) admits three types
    (by decide) (by decide) (by decide : endsTyping (.plain .escape) = true)
  have text := (inserts (.char 'i') .insert rfl (by decide) (by decide)).1
  have cursor := (opens (.char 'o') rfl (by decide)).2
  exact ⟨idle, admits, by decide +kernel, text, cursor⟩

end Pane

end ModalPanes
