import ModalPanes.Register

/-!
# Registers of lines

What is stored as lines ends in a line feed, and so does what lines are appended to.  The one way to leave the
last line of a register open is to append a text of another shape to lines.
-/

namespace ModalPanes

namespace Register

variable {first second : Register} {kind : RegisterKind} {text : List Char}

/-- A register of lines ends in a line feed. -/
def Whole (reg : Register) : Prop := reg.kind = .line → reg.text.getLast? = some '\n'

/-- Text of another shape behind lines leaves the last one open. -/
def frays (first : Register) (kind : RegisterKind) (text : List Char) : Bool :=
  first.kind == .line && kind != .line && text.getLast?.any (· != '\n')

theorem whole_of (kind : RegisterKind) (text : List Char) : (of kind text).Whole := by
  rintro rfl
  exact getLast?_terminated text

theorem kind_append (lines : first.kind = .line ∨ second.kind = .line) : (first.append second).kind = .line := by
  unfold Register.append
  rw [if_pos lines]

theorem Whole.isEmpty (whole : first.Whole) (lines : first.kind = .line) : first.isEmpty = false := by
  have ends := whole lines
  unfold Register.isEmpty
  cases text : first.text with
  | nil =>
      rw [text] at ends
      contradiction
  | cons c rest => rfl

theorem Whole.getLast?_append (whole : first.Whole) (lines : first.kind = .line) (second : Register) :
    (first.append second).text.getLast? = second.text.getLast?.or (some '\n') := by
  have filled : first.text.isEmpty = false := whole.isEmpty lines
  unfold Register.append
  rw [if_pos (.inl lines)]
  simp only [filled, Bool.false_eq_true, if_false, List.getLast?_append, getLast?_terminated]

theorem getLast?_append_of_last (first : Register) (last : second.text.getLast? = some '\n') :
    (first.append second).text.getLast? = some '\n' := by
  unfold Register.append
  split <;> rw [List.getLast?_append, last, Option.some_or]

/-- A register stays whole when more is appended, unless its last line is left open. -/
theorem Whole.append_iff (whole : first.Whole) :
    (first.append (of kind text)).Whole ↔ first.frays kind text = false := by
  by_cases other : kind = .line
  · subst other
    have ends := getLast?_append_of_last first (whole_of .line text rfl)
    simp [frays, Whole, ends]
  · by_cases lines : first.kind = .line
    · have isLine : (first.append (of kind text)).kind = .line := kind_append (.inl lines)
      have ends := whole.getLast?_append lines (of kind text)
      have same : (of kind text).text = text := if_neg other
      rw [same] at ends
      simp only [Whole, isLine, ends, frays, lines, forall_const]
      cases text.getLast? <;> simp [other]
    · have isOther : (first.append (of kind text)).kind = first.kind := by
        have neither : ¬ (first.kind = .line ∨ (of kind text).kind = .line) := not_or_intro lines other
        unfold Register.append
        rw [if_neg neither]
      simp [Whole, frays, isOther, lines]

end Register

/-- A text that is stored, under a name or without one. -/
structure Store where
  name : Option Char
  kind : RegisterKind
  text : List Char
deriving DecidableEq

namespace Registers

variable {regs : Registers} {store : Store} {stores : List Store}

/-- The registers after a text is stored in the shape that it has. -/
def after (regs : Registers) (store : Store) : Registers := regs.store store.name (.of store.kind store.text)

/-- The registers after one text is stored after the other. -/
def run (regs : Registers) (stores : List Store) : Registers := stores.foldl after regs

theorem run_append (regs : Registers) (first second : List Store) :
    regs.run (first ++ second) = (regs.run first).run second := List.foldl_append

/-- A store appends to a register and leaves its last line open. -/
def frays (regs : Registers) (store : Store) : Bool :=
  (store.name.bind slot?).any fun entry => entry.2 && (regs.atSlot entry.1).frays store.kind store.text

/-- None of the stores leaves a last line open. -/
def unfrayed (regs : Registers) : List Store → Bool
  | [] => true
  | store :: stores => !regs.frays store && unfrayed (regs.after store) stores

/-- Every register of lines ends in a line feed. -/
def Whole (regs : Registers) : Prop := ∀ name, (regs.get name).Whole

theorem whole_empty : ({} : Registers).Whole := by
  intro name
  have empty : ({} : Registers).get name = {} := by
    unfold get atSlot
    split
    · rw [List.getElem?_replicate]
      split <;> rfl
    · rfl
  rw [empty]
  nofun

theorem get_after (regs : Registers) (store : Store) (name : Option Char) :
    (regs.after store).get name = (regs.after store).unnamed ∨
      (regs.after store).get name = regs.get name := by
  unfold after Registers.store get
  cases store.name.bind slot? with
  | none =>
      cases name.bind slot? with
      | none => exact .inl rfl
      | some entry => exact .inr rfl
  | some stored =>
      cases name.bind slot? with
      | none => exact .inl rfl
      | some entry =>
          unfold atSlot
          dsimp only
          by_cases same : stored.1 = entry.1
          · rw [same, List.getElem?_set_self']
            cases regs.named[entry.1]? with
            | none => exact .inr rfl
            | some reg => exact .inl rfl
          · rw [List.getElem?_set_ne same]
            exact .inr rfl

theorem Whole.unnamed_after (whole : regs.Whole) :
    (regs.after store).unnamed.Whole ↔ regs.frays store = false := by
  unfold after Registers.store frays
  cases named : store.name.bind slot? with
  | none => simpa using Register.whole_of store.kind store.text
  | some entry =>
      have before : (regs.atSlot entry.1).Whole := by
        have read := whole store.name
        unfold get at read
        rwa [named] at read
      cases appends : entry.2 with
      | false => simpa [appends] using Register.whole_of store.kind store.text
      | true => simpa [appends] using before.append_iff

/-- A store keeps all registers whole, unless it leaves a last line open. -/
theorem Whole.after_iff (whole : regs.Whole) : (regs.after store).Whole ↔ regs.frays store = false := by
  rw [← whole.unnamed_after]
  constructor
  · exact fun kept => kept none
  · intro stored name
    rcases regs.get_after store name with same | same
    · exact same ▸ stored
    · exact same ▸ whole name

theorem Whole.run (whole : regs.Whole) (sound : regs.unfrayed stores = true) : (regs.run stores).Whole := by
  induction stores generalizing regs with
  | nil => exact whole
  | cons store stores ih =>
      simp only [unfrayed, Bool.and_eq_true, Bool.not_eq_true'] at sound
      exact ih (whole.after_iff.2 sound.1) sound.2

end Registers

end ModalPanes
