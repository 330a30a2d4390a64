import ModalPanes.Proofs.Pane.Landing

/-!
# Keys while typing

Every key of Insert and Replace mode edits the text and leaves the cursor in it, or behind the end of a
line; what was typed and what it replaced stays in the alphabet.  The keys that end typing repeat or copy
what was typed and come to rest in Normal mode.
-/

namespace ModalPanes

variable {alphabet : Alphabet}

theorem Buffer.has_charAt? {buf : Buffer} (spells : alphabet.Spells buf.text) (pos : Position) :
    ∀ c ∈ buf.charAt? pos, alphabet.Has c :=
  fun c mem => spells_line spells pos.line c (List.mem_of_getElem? mem)

/-- Typing a character, which takes the place of one that is known. -/
theorem InsertSession.Spelled.type {session : InsertSession} (known : session.Spelled alphabet)
    {c : Char} (has : alphabet.Has c) {old : Option Char} (oldKnown : ∀ d ∈ old, alphabet.Has d)
    (replaces : Prop) [Decidable replaces] :
    InsertSession.Spelled alphabet
      { session with
        typed := session.typed ++ [c]
        replaced := if replaces then old :: session.replaced else session.replaced } := by
  refine ⟨known.typed.append (.cons has .nil), ?_⟩
  dsimp only
  split
  · exact List.forall_mem_cons.2 ⟨oldKnown, known.replaced⟩
  · exact known.replaced

namespace Pane

variable {origin pane : Pane} {pastEnd : Bool}

theorem Lands.revise (lands : Lands alphabet origin pastEnd pane)
    {change : InsertSession → InsertSession}
    (known : ∀ session : InsertSession,
      session.Spelled alphabet → (change session).Spelled alphabet) :
    Lands alphabet origin pastEnd (pane.revise change) :=
  ⟨lands.edits.revise change known, lands.placed⟩

section Editing

variable (edits : Edits alphabet origin pane)
include edits

theorem Edits.typeChar {c : Char} (has : alphabet.Has c) :
    Lands alphabet origin true (pane.typeChar c) := by
  unfold Pane.typeChar
  dsimp only
  generalize (_ && decide ((_ : Nat) < _) : Bool) = overwrites
  apply Lands.revise
  · apply Edits.jump
    exact (Edits.ite _ (edits.erase _) edits).insert _ (.cons has .nil)
  · intro session known
    apply known.type has
    split
    · exact Buffer.has_charAt? edits.spelled.text _
    · nofun

theorem Edits.eraseBack (col : Nat) : Lands alphabet origin true (pane.eraseBack col) :=
  (edits.erase _).jump true _

theorem Edits.eraseTo (col : Nat) : Lands alphabet origin true (pane.eraseTo col) := by
  unfold Pane.eraseTo
  apply (edits.eraseBack col).revise
  exact fun session known => ⟨known.typed.take _, known.replaced⟩

theorem Edits.repeatForCount (session : InsertSession) (known : session.Spelled alphabet) :
    Edits alphabet origin (pane.repeatForCount session) := by
  have text : alphabet.Spells
      (if session.kind == .openLine then '\n' :: session.typed else session.typed) := by
    split
    · exact .cons alphabet.newline known.typed
    · exact known.typed
  exact .ite _ edits
    (.ite _ (edits.tidy rfl) ((edits.insert _ (text.repeatText _)).jump true _).edits)

theorem Edits.copyToLine {typed : List Char} (known : alphabet.Spells typed) (col : Nat)
    (append toLineEnd : Bool) (line : Nat) :
    Edits alphabet origin (copyToLine typed col append toLineEnd pane line) :=
  .ite _ edits ((edits.insert _ (.replicate alphabet.space _)).insert _ known)

theorem Edits.copyToBlock {typed : List Char} (known : alphabet.Spells typed)
    (top bottom col : Nat) (append toLineEnd : Bool) :
    Edits alphabet origin (pane.copyToBlock typed top bottom col append toLineEnd) := by
  unfold Pane.copyToBlock
  split
  · exact edits
  · generalize linesBetween _ _ = lines
    induction lines generalizing pane with
    | nil => exact edits
    | cons line lines ih => exact ih (edits.copyToLine known col append toLineEnd line)

end Editing

section Typing

variable (lands : Lands alphabet origin true pane)
include lands

theorem Lands.untype : Lands alphabet origin true pane.untype :=
  lands.revise fun _ known => ⟨known.typed.of_subset (List.dropLast_subset _), known.replaced⟩

theorem Lands.joinWithPrevious : Lands alphabet origin true pane.joinWithPrevious :=
  .ite _ lands ((lands.edits.erase _).jump true _)

theorem Lands.backspaceInsert : Lands alphabet origin true pane.backspaceInsert :=
  .ite _ lands.untype.joinWithPrevious (lands.untype.edits.eraseBack _)

/-- Backspace in Replace mode puts back what was written over. -/
theorem Lands.backspaceReplace : Lands alphabet origin true pane.backspaceReplace := by
  have untyped := lands.untype
  unfold Pane.backspaceReplace
  dsimp only
  split
  · rename_i old replaced found
    obtain ⟨session, isSession, stack⟩ := Option.map_eq_some_iff.1 found
    have known := untyped.edits.spelled.insert session isSession
    obtain ⟨oldKnown, restKnown⟩ := List.forall_mem_cons.1 (stack ▸ known.replaced)
    have revised : Lands alphabet origin true
        (pane.untype.revise fun session => { session with replaced := replaced }) :=
      untyped.revise fun _ known => ⟨known.typed, restKnown⟩
    have oldSpelled : alphabet.Spells old.toList :=
      fun c mem => oldKnown c (Option.mem_toList.1 mem)
    exact .ite _ revised.joinWithPrevious
      (((revised.edits.erase _).insert _ oldSpelled).jump true _)
  · exact untyped.edits.jump true _

theorem Lands.backspace : Lands alphabet origin true pane.backspace :=
  .ite _ lands.backspaceReplace lands.backspaceInsert

theorem Lands.eraseWord : Lands alphabet origin true pane.eraseWord :=
  .ite _ lands.backspace (lands.edits.eraseTo _)

theorem Lands.eraseLine : Lands alphabet origin true pane.eraseLine :=
  .ite _ lands.backspace (lands.edits.eraseTo _)

theorem Lands.moveWhileTyping (code : KeyCode) :
    Lands alphabet origin true (pane.moveWhileTyping code) := by
  have lt := lands.placed.1
  apply Lands.revise
  · split
    · exact ⟨lands.edits.tidy rfl, Cursor.admits_left true lt 1⟩
    · exact ⟨lands.edits.tidy rfl, Cursor.admits_right true lt 1⟩
    · exact ⟨lands.edits.tidy rfl, Cursor.admits_up true lt 1⟩
    · exact ⟨lands.edits.tidy rfl, Cursor.admits_down true _ _ 1⟩
    · exact ⟨lands.edits.tidy rfl, Cursor.admits_toLineStart true lt⟩
    · exact ⟨lands.edits.tidy rfl, Cursor.admits_toLineEnd true lt⟩
  · exact fun _ _ => ⟨.nil, nofun⟩

/-- Erasing forward leaves the cursor where it is, and it may stay there. -/
theorem Lands.eraseForward : Lands alphabet origin true pane.eraseForward := by
  have stays : ∀ stop, pane.cursor.pos ≤ stop →
      (pane.buffer.erase ⟨pane.cursor.pos, stop⟩).Admits true pane.cursor.pos →
        Lands alphabet origin true (pane.eraseRange (.between pane.cursor.pos stop)) := by
    intro stop ordered admits
    refine ⟨lands.edits.erase _, ?_⟩
    obtain ⟨history, recorder, eq⟩ :=
      eraseRange_eq pane (.between pane.cursor.pos stop)
    rw [eq]
    simpa only [Placed, Range.between, if_pos ordered] using admits
  unfold Pane.eraseForward
  dsimp only
  split
  · rename_i lt
    exact stays _ (.inr ⟨rfl, Nat.le_succ _⟩) (lands.placed.erase_char lt)
  · rename_i ge
    split
    · rename_i more
      exact stays _ (.inl (Nat.lt_succ_self _)) (lands.placed.erase_break (Nat.not_lt.1 ge) more)
    · exact lands

end Typing

/-- Leaving Insert or Replace mode comes to rest in Normal mode. -/
theorem endTyping_lands (spelled : pane.Spelled alphabet) (typing : pane.insert.isSome) :
    Lands alphabet { pane with insert := none, mode := .normal } false pane.endTyping := by
  obtain ⟨session, isSession⟩ := Option.isSome_iff_exists.1 typing
  have known := spelled.insert session isSession
  have left : Edits alphabet { pane with insert := none, mode := .normal }
      { pane with insert := none, mode := .normal } := .refl { spelled with insert := nofun }
  have repeated := left.repeatForCount session known
  unfold Pane.endTyping
  simp only [isSession]
  split
  · exact ((Edits.ite _ left repeated).copyToBlock known.typed _ _ _ _ _).jump false _
  · exact (Edits.ite _ left repeated).jump false _

def endsTyping (key : Key) : Bool := key.code == .escape || key.isCtrl 'c' || key.isCtrl '['

theorem handleTyping_of_ends {key : Key} (ends : endsTyping key = true) :
    pane.handleTyping key = pane.endTyping :=
  if_pos (by simpa [endsTyping] using ends)

theorem handleTyping_lands (spelled : pane.Spelled alphabet) (placed : pane.Placed true) {key : Key}
    (typed : ∀ c ∈ key.typed?, alphabet.Has c) (stays : endsTyping key = false) :
    Lands alphabet pane true (pane.handleTyping key) := by
  have lands : Lands alphabet pane true pane := ⟨.refl spelled, placed⟩
  unfold Pane.handleTyping
  rw [if_neg (by simpa [endsTyping] using stays)]
  refine .ite _ lands.backspace (.ite _ lands.eraseWord (.ite _ lands.eraseLine ?_))
  split
  · exact lands.edits.typeChar alphabet.newline
  · exact lands.edits.typeChar alphabet.tab
  · exact lands.backspace
  · exact lands.eraseForward
  · exact lands.moveWhileTyping _
  · exact lands.moveWhileTyping _
  · exact lands.moveWhileTyping _
  · exact lands.moveWhileTyping _
  · exact lands.moveWhileTyping _
  · exact lands.moveWhileTyping _
  · split
    · rename_i c isTyped
      exact lands.edits.typeChar (typed c isTyped)
    · exact lands

end Pane

end ModalPanes
