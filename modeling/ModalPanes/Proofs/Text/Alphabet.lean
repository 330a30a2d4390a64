import ModalPanes.Text.Line
import ModalPanes.Unicode.Case
import Mathlib.Data.Nat.Basic

/-!
# Alphabets

A set of characters that editing does not leave: besides the text itself, a pane writes blanks, tabs, line
feeds and the marks of a selection, and it changes the case of letters.  Two alphabets matter: all
characters, and the plain ones, among which the line feed is the only line break.
-/

namespace ModalPanes

/-- A character that breaks no line, unless it is a line feed. -/
def IsPlain (c : Char) : Prop := Line.isBreak c = true → c = '\n'

instance (c : Char) : Decidable (IsPlain c) := inferInstanceAs (Decidable (_ → _))

instance (text : List Char) : Decidable (∀ c ∈ text, IsPlain c) := List.decidableBAll IsPlain text

namespace Unicode

/-- The codes of the line breaks other than the line feed. -/
def otherBreaks : List Nat := [0x0b, 0x0c, 0x0d, 0x85, 0x2028, 0x2029]

theorem isPlain_of_toNat {c : Char} (other : c.toNat ∉ otherBreaks) : IsPlain c := by
  intro breaks
  simp only [Line.isBreak, Bool.or_eq_true, beq_iff_eq] at breaks
  rcases breaks with (((((lf | rfl) | rfl) | rfl) | rfl) | rfl) | rfl
  · exact lf
  all_goals exact absurd (by decide) other

theorem isPlain_ofNat {code : Nat} (other : code ∉ otherBreaks) : IsPlain (Char.ofNat code) := by
  by_cases valid : code.isValidChar
  · apply isPlain_of_toNat
    have toNat : (Char.ofNat code).toNat = code := by
      unfold Char.ofNat
      rw [dif_pos valid]
      rfl
    rwa [toNat]
  · have nul : Char.ofNat code = '\x00' := by
      unfold Char.ofNat
      rw [dif_neg valid]
      rfl
    rw [nul]
    decide

/-- No code is moved onto a target that no stride reaches. -/
theorem Stride.image?_ne {runs : List Stride} {target : Nat} (positive : 0 < target)
    (noSource : Stride.preimages runs target = []) (code : Nat) :
    Stride.image? runs code ≠ some target := by
  induction runs with
  | nil => simp [Stride.image?]
  | cons run runs ih =>
      simp only [Stride.preimages] at noSource
      simp only [Stride.image?]
      split at noSource
      · contradiction
      · rename_i noRun
        split
        · rename_i hasCode
          intro image
          have source : Int.toNat (target - run.shift) = code := by
            have := Option.some.inj image
            omega
          rw [source] at noRun
          contradiction
        · exact ih noSource

/-- A case mapping whose tables reach no line break but the line feed keeps to plain characters. -/
theorem isPlain_mapCase {sequences : List (Nat × List Nat)} {runs : List Stride}
    (listed : ∀ entry ∈ sequences, ∀ code ∈ entry.2, code ∉ otherBreaks)
    (moved : ∀ target ∈ otherBreaks, Stride.preimages runs target = [])
    {c : Char} (plain : IsPlain c) : ∀ d ∈ mapCase sequences runs c, IsPlain d := by
  intro d mapped
  unfold mapCase at mapped
  split at mapped
  · rename_i codes found
    obtain ⟨code, codeMem, rfl⟩ := List.mem_map.1 mapped
    obtain ⟨front, rest, eq, -⟩ := List.lookup_eq_some_iff.1 found
    have entry : (c.toNat, codes) ∈ sequences := by simp [eq]
    exact isPlain_ofNat (listed _ entry code codeMem)
  · split at mapped
    · rename_i code image
      obtain rfl := List.mem_singleton.1 mapped
      apply isPlain_ofNat
      intro target
      have positive : 0 < code := by
        revert target
        simp only [otherBreaks, List.mem_cons, List.not_mem_nil, or_false]
        omega
      exact Stride.image?_ne positive (moved code target) c.toNat image
    · obtain rfl := List.mem_singleton.1 mapped
      exact plain

/-- What holds of the first characters by their codes holds of all characters with such a code. -/
theorem forall_char_lt {bound : Nat} {P : Char → Prop} (holds : ∀ code < bound, P (Char.ofNat code))
    (c : Char) (lt : c.toNat < bound) : P c := by
  have := holds c.toNat lt
  rwa [Char.ofNat_toNat] at this

theorem isPlain_toUpper {c : Char} (plain : IsPlain c) : ∀ d ∈ toUpper c, IsPlain d := by
  unfold toUpper
  split
  · rename_i ascii
    have mapped : IsPlain c.toUpper :=
      forall_char_lt (P := fun c => IsPlain c → IsPlain c.toUpper) (by decide +kernel) c ascii plain
    simpa using mapped
  · exact isPlain_mapCase (by decide +kernel) (by decide +kernel) plain

theorem isPlain_toLower {c : Char} (plain : IsPlain c) : ∀ d ∈ toLower c, IsPlain d := by
  unfold toLower
  split
  · rename_i ascii
    have mapped : IsPlain c.toLower :=
      forall_char_lt (P := fun c => IsPlain c → IsPlain c.toLower) (by decide +kernel) c ascii plain
    simpa using mapped
  · exact isPlain_mapCase (by decide +kernel) (by decide +kernel) plain

end Unicode

/-- Characters among which editing stays. -/
structure Alphabet where
  Has : Char → Prop
  newline : Has '\n'
  space : Has ' '
  tab : Has '\t'
  marks : ∀ c ∈ "'<,'>".toList, Has c
  upper : ∀ {c}, Has c → ∀ d ∈ Unicode.toUpper c, Has d
  lower : ∀ {c}, Has c → ∀ d ∈ Unicode.toLower c, Has d

namespace Alphabet

/-- All characters. -/
def every : Alphabet where
  Has _ := True
  newline := trivial
  space := trivial
  tab := trivial
  marks _ _ := trivial
  upper _ _ _ := trivial
  lower _ _ _ := trivial

/-- The plain characters. -/
def plain : Alphabet where
  Has := IsPlain
  newline := by decide
  space := by decide
  tab := by decide
  marks := by decide
  upper := Unicode.isPlain_toUpper
  lower := Unicode.isPlain_toLower

def Spells (alphabet : Alphabet) (text : List Char) : Prop := ∀ c ∈ text, alphabet.Has c

end Alphabet

end ModalPanes
