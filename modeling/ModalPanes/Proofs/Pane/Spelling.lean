import ModalPanes.Pane.Keys
import ModalPanes.Proofs.Text.Alphabet
import Mathlib.Data.List.Basic

/-!
# Texts spelled in an alphabet

Whatever a command writes it takes from the buffer, from the registers, or from what was typed, and cuts,
repeats or fills it up.  None of this leaves the alphabet in which these texts are spelled.
-/

namespace ModalPanes

namespace Alphabet.Spells

variable {alphabet : Alphabet} {text front rest : List Char}

theorem nil : alphabet.Spells [] := fun _ mem => nomatch mem

theorem of_subset (spells : alphabet.Spells text) (subset : front ⊆ text) : alphabet.Spells front :=
  fun c mem => spells c (subset mem)

theorem append (first : alphabet.Spells front) (second : alphabet.Spells rest) :
    alphabet.Spells (front ++ rest) :=
  List.forall_mem_append.2 ⟨first, second⟩

theorem cons {c : Char} (has : alphabet.Has c) (spells : alphabet.Spells rest) :
    alphabet.Spells (c :: rest) :=
  List.forall_mem_cons.2 ⟨has, spells⟩

theorem replicate {c : Char} (has : alphabet.Has c) (n : Nat) :
    alphabet.Spells (List.replicate n c) :=
  fun _ mem => List.eq_of_mem_replicate mem ▸ has

theorem take (spells : alphabet.Spells text) (n : Nat) : alphabet.Spells (text.take n) :=
  spells.of_subset (List.take_subset n text)

theorem drop (spells : alphabet.Spells text) (n : Nat) : alphabet.Spells (text.drop n) :=
  spells.of_subset (List.drop_subset n text)

theorem flatMap {α : Type} {items : List α} {f : α → List Char}
    (each : ∀ item ∈ items, alphabet.Spells (f item)) : alphabet.Spells (items.flatMap f) := by
  intro c mem
  obtain ⟨item, itemMem, charMem⟩ := List.mem_flatMap.1 mem
  exact each item itemMem c charMem

theorem repeatText (spells : alphabet.Spells text) (count : Nat) :
    alphabet.Spells (repeatText count text) := by
  intro c mem
  obtain ⟨copy, copyMem, charMem⟩ := List.mem_flatten.1 mem
  exact spells c (List.eq_of_mem_replicate copyMem ▸ charMem)

theorem padRight (spells : alphabet.Spells text) (width : Nat) :
    alphabet.Spells (padRight width text) :=
  spells.append (replicate alphabet.space _)

theorem swapCase (spells : alphabet.Spells text) : alphabet.Spells (swapCase text) := by
  apply flatMap
  intro c mem
  split
  · exact alphabet.lower (spells c mem)
  · exact alphabet.upper (spells c mem)

theorem trimBreak (spells : alphabet.Spells text) : alphabet.Spells (Line.trimBreak text) := by
  unfold Line.trimBreak
  split
  · exact spells.of_subset (List.dropLast_subset text)
  · exact spells

theorem trimEnd (spells : alphabet.Spells text) (p : Char → Bool) :
    alphabet.Spells (text.reverse.dropWhile p).reverse := by
  refine spells.of_subset fun c mem => ?_
  exact List.mem_reverse.1 ((List.dropWhile_sublist p).subset (List.mem_reverse.1 mem))

end Alphabet.Spells

namespace Buffer

variable {alphabet : Alphabet} {buf : Buffer}

theorem spells_line (spells : alphabet.Spells buf.text) (n : Nat) :
    alphabet.Spells (buf.line n) := by
  unfold line line?
  cases found : buf.pieces[n]? with
  | none => exact .nil
  | some piece =>
      apply Alphabet.Spells.trimBreak
      intro c mem
      apply spells
      rw [← Line.flatten_pieces buf.text]
      exact List.mem_flatten.2 ⟨piece, List.mem_of_getElem? found, mem⟩

theorem spells_slice (spells : alphabet.Spells buf.text) (range : Range) :
    alphabet.Spells (buf.slice range) :=
  (spells.take _).drop _

theorem spells_insert (spells : alphabet.Spells buf.text) (pos : Position) {text : List Char}
    (known : alphabet.Spells text) : alphabet.Spells (buf.insert pos text).text := by
  unfold insert
  split
  · exact spells
  · exact ((spells.take _).append known).append (spells.drop _)

theorem spells_erase (spells : alphabet.Spells buf.text) (range : Range) :
    alphabet.Spells (buf.erase range).text := by
  unfold erase
  dsimp only
  split
  · exact spells
  · exact (spells.take _).append (spells.drop _)

end Buffer

structure Registers.Spelled (alphabet : Alphabet) (regs : Registers) : Prop where
  unnamed : alphabet.Spells regs.unnamed.text
  named : ∀ reg ∈ regs.named, alphabet.Spells reg.text

namespace Registers

variable {alphabet : Alphabet} {regs : Registers}

theorem Spelled.atSlot (spelled : regs.Spelled alphabet) (slot : Nat) :
    alphabet.Spells (regs.atSlot slot).text := by
  unfold Registers.atSlot
  cases found : regs.named[slot]? with
  | none => exact .nil
  | some reg => exact spelled.named reg (List.mem_of_getElem? found)

theorem Spelled.get (spelled : regs.Spelled alphabet) (name : Option Char) :
    alphabet.Spells (regs.get name).text := by
  unfold Registers.get
  split
  · exact spelled.atSlot _
  · exact spelled.unnamed

theorem spells_terminated {text : List Char} (known : alphabet.Spells text) :
    alphabet.Spells (Register.terminated text) := by
  unfold Register.terminated
  split
  · exact known
  · exact known.append (.cons alphabet.newline .nil)

theorem spells_of {text : List Char} (kind : RegisterKind) (known : alphabet.Spells text) :
    alphabet.Spells (Register.of kind text).text := by
  unfold Register.of
  dsimp only
  split
  · exact spells_terminated known
  · exact known

theorem spells_append {first second : Register} (firstKnown : alphabet.Spells first.text)
    (secondKnown : alphabet.Spells second.text) :
    alphabet.Spells (first.append second).text := by
  unfold Register.append
  split
  · dsimp only
    split
    · exact secondKnown
    · exact (spells_terminated firstKnown).append secondKnown
  · exact firstKnown.append secondKnown

theorem Spelled.store (spelled : regs.Spelled alphabet) (name : Option Char) {reg : Register}
    (known : alphabet.Spells reg.text) : (regs.store name reg).Spelled alphabet := by
  unfold Registers.store
  split
  · rename_i slot appends _
    have stored : alphabet.Spells (if appends then (regs.atSlot slot).append reg else reg).text := by
      split
      · exact spells_append (spelled.atSlot slot) known
      · exact known
    refine ⟨stored, fun other mem => ?_⟩
    rcases List.mem_or_eq_of_mem_set mem with mem | rfl
    · exact spelled.named other mem
    · exact stored
  · exact ⟨known, spelled.named⟩

theorem spells_rows {reg : Register} (known : alphabet.Spells reg.text) :
    ∀ row ∈ reg.rows, alphabet.Spells row := by
  have cut : ∀ text : List Char, alphabet.Spells text →
      ∀ row ∈ Line.rows text, alphabet.Spells row := by
    intro text
    induction text with
    | nil =>
        intro _ row mem
        obtain rfl := List.mem_singleton.1 mem
        exact .nil
    | cons c text ih =>
        intro spells row mem
        obtain ⟨has, rest⟩ := List.forall_mem_cons.1 spells
        rw [Line.rows_cons] at mem
        unfold Line.consRow at mem
        split at mem
        · rcases List.mem_cons.1 mem with rfl | mem
          · exact .nil
          · exact ih rest row mem
        · split at mem
          · obtain rfl := List.mem_singleton.1 mem
            exact .cons has .nil
          · rename_i first others cut
            rw [cut] at ih
            rcases List.mem_cons.1 mem with rfl | mem
            · exact .cons has (ih rest first List.mem_cons_self)
            · exact ih rest row (List.mem_cons_of_mem _ mem)
  unfold Register.rows
  apply cut
  split
  · exact known.trimBreak
  · exact known

end Registers

end ModalPanes
