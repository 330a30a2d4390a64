import ModalPanes.Key.Name
import ModalPanes.Proofs.Key.Chunks

/-!
# Text sent by a terminal

Printable characters are sent as UTF-8, and every one of them is read back as the key that types it, whatever
follows.  So the keys of a text without control characters are its characters.
-/

namespace ModalPanes

/-- Neither a control character below the space nor the delete character: a terminal sends it as text. -/
def Key.Types (c : Char) : Prop := 0x20 ≤ c.toNat ∧ c.toNat ≠ 0x7F

instance (c : Char) : Decidable (Key.Types c) := inferInstanceAs (Decidable (_ ∧ _))

namespace Scan

theorem ofBytes_eq (lead : UInt8) (bytes : List UInt8) :
    ofBytes lead bytes =
      if lead.toNat = 0x1B then escape bytes
      else if lead.toNat = 0x00 then .key (.ctrl '@') 0
      else if lead.toNat = 0x08 ∨ lead.toNat = 0x7F then .key (.plain .backspace) 0
      else if lead.toNat = 0x09 then .key (.plain .tab) 0
      else if lead.toNat = 0x0A ∨ lead.toNat = 0x0D then .key (.plain .enter) 0
      else if lead.toNat ≤ 0x1A then .key (.ctrl (Char.ofNat (lead.toNat + 0x60))) 0
      else if lead.toNat < 0x20 then .junk
      else if lead.toNat ≤ 0x7E then .key (.char (Char.ofNat lead.toNat)) 0
      else if lead.toNat < 0xC0 then .junk
      else if lead.toNat ≤ 0xDF then multibyte 1 0x80 (lead.toNat - 0xC0) bytes
      else if lead.toNat ≤ 0xEF then multibyte 2 0x800 (lead.toNat - 0xE0) bytes
      else if lead.toNat ≤ 0xF7 then multibyte 3 0x10000 (lead.toNat - 0xF0) bytes
      else .junk := by
  simp only [ofBytes, ← UInt8.toNat_inj, UInt8.le_iff_toNat_le, UInt8.lt_iff_toNat_lt]
  rfl

section Ranges

variable {lead : UInt8}

theorem ofBytes_ascii (low : 0x20 ≤ lead.toNat) (high : lead.toNat ≤ 0x7E) (bytes : List UInt8) :
    ofBytes lead bytes = .key (.char (Char.ofNat lead.toNat)) 0 := by
  rw [ofBytes_eq]
  repeat rw [if_neg (by omega)]
  rw [if_pos high]

theorem ofBytes_two (low : 0xC0 ≤ lead.toNat) (high : lead.toNat ≤ 0xDF) (bytes : List UInt8) :
    ofBytes lead bytes = multibyte 1 0x80 (lead.toNat - 0xC0) bytes := by
  rw [ofBytes_eq]
  repeat rw [if_neg (by omega)]
  rw [if_pos high]

theorem ofBytes_three (low : 0xE0 ≤ lead.toNat) (high : lead.toNat ≤ 0xEF) (bytes : List UInt8) :
    ofBytes lead bytes = multibyte 2 0x800 (lead.toNat - 0xE0) bytes := by
  rw [ofBytes_eq]
  repeat rw [if_neg (by omega)]
  rw [if_pos high]

theorem ofBytes_four (low : 0xF0 ≤ lead.toNat) (high : lead.toNat ≤ 0xF7) (bytes : List UInt8) :
    ofBytes lead bytes = multibyte 3 0x10000 (lead.toNat - 0xF0) bytes := by
  rw [ofBytes_eq]
  repeat rw [if_neg (by omega)]
  rw [if_pos high]

end Ranges

/-- Continuation bytes that add up to a code point are read as its character. -/
theorem multibyte_eq_key {c : Char} {least leading : Nat} {continuations : List UInt8}
    (continued : ∀ b ∈ continuations, isContinuation b = true) (long : least ≤ c.toNat)
    (sum : continuations.foldl (fun code b => code * 64 + (b.toNat - 0x80)) leading = c.toNat)
    (rest : List UInt8) :
    multibyte continuations.length least leading (continuations ++ rest) =
      .key (.char c) continuations.length := by
  have valid : c.toNat.isValidChar := c.valid
  have scalar : scalar? least leading continuations = some c := by
    unfold scalar?
    dsimp only
    rw [sum, if_pos (by simpa using ⟨continued, long⟩), dif_pos valid]
    rfl
  unfold multibyte
  rw [if_neg (by simp), List.take_left, scalar]

/-- The byte that carries the last six bits of a number. -/
def continuation (bits : Nat) : UInt8 := .ofNat (bits % 64 + 128)

theorem toNat_continuation (bits : Nat) : (continuation bits).toNat = bits % 64 + 128 :=
  UInt8.toNat_ofNat_of_lt' (show bits % 64 + 128 < 256 by omega)

theorem isContinuation_continuation (bits : Nat) : isContinuation (continuation bits) = true := by
  have low : (0x80 : UInt8).toNat ≤ (continuation bits).toNat := by
    rw [toNat_continuation]
    exact Nat.le_add_left 128 _
  have high : (continuation bits).toNat ≤ (0xBF : UInt8).toNat := by
    rw [toNat_continuation]
    show bits % 64 + 128 ≤ 191
    omega
  unfold isContinuation
  rw [Bool.and_eq_true, decide_eq_true_eq, decide_eq_true_eq]
  exact ⟨UInt8.le_iff_toNat_le.2 low, UInt8.le_iff_toNat_le.2 high⟩

theorem ofBytes_encoded {c : Char} (types : Key.Types c) (rest : List UInt8) :
    ∃ lead tail, String.utf8EncodeChar c = lead :: tail ∧
      ofBytes lead (tail ++ rest) = .key (.char c) tail.length := by
  have valid : c.toNat < 0xD800 ∨ 0xDFFF < c.toNat ∧ c.toNat < 0x110000 := c.valid
  have code : c.val.toNat = c.toNat := rfl
  have value : ∀ {n : Nat}, n < 256 → (UInt8.ofNat n).toNat = n := UInt8.toNat_ofNat_of_lt'
  obtain ⟨low, other⟩ := types
  unfold String.utf8EncodeChar
  dsimp only
  rw [code]
  split
  · have lead := value (n := c.toNat) (by omega)
    refine ⟨_, [], rfl, ?_⟩
    rw [ofBytes_ascii (by omega) (by omega), lead, Char.ofNat_toNat]
    rfl
  · split
    · have lead := value (n := c.toNat / 64 % 32 + 192) (by omega)
      refine ⟨_, [continuation c.toNat], rfl, ?_⟩
      rw [ofBytes_two (by omega) (by omega), lead]
      refine multibyte_eq_key ?_ (by omega) ?_ rest
      · simp [isContinuation_continuation]
      · simp only [List.foldl_cons, List.foldl_nil, toNat_continuation]
        omega
    · split
      · have lead := value (n := c.toNat / 4096 % 16 + 224) (by omega)
        refine ⟨_, [continuation (c.toNat / 64), continuation c.toNat], rfl, ?_⟩
        rw [ofBytes_three (by omega) (by omega), lead]
        refine multibyte_eq_key ?_ (by omega) ?_ rest
        · simp [isContinuation_continuation]
        · simp only [List.foldl_cons, List.foldl_nil, toNat_continuation]
          omega
      · have lead := value (n := c.toNat / 262144 % 8 + 240) (by omega)
        refine ⟨_, [continuation (c.toNat / 4096), continuation (c.toNat / 64),
          continuation c.toNat], rfl, ?_⟩
        rw [ofBytes_four (by omega) (by omega), lead]
        refine multibyte_eq_key ?_ (by omega) ?_ rest
        · simp [isContinuation_continuation]
        · simp only [List.foldl_cons, List.foldl_nil, toNat_continuation]
          omega

end Scan

/-- The keys of a text without control characters are its characters. -/
theorem Key.ofText_eq_map {text : List Char} (types : ∀ c ∈ text, Types c) :
    ofText text = text.map char := by
  have all : Decoder.complete (text.flatMap String.utf8EncodeChar) = (text.map char, []) := by
    induction text with
    | nil => simp [Decoder.complete]
    | cons c text ih =>
        rw [List.forall_mem_cons] at types
        obtain ⟨lead, tail, encoded, reads⟩ :=
          Scan.ofBytes_encoded types.1 (text.flatMap String.utf8EncodeChar)
        rw [List.flatMap_cons, encoded, List.cons_append, Decoder.complete_of_key reads,
          List.drop_left, ih types.2, List.map_cons]
  unfold ofText decode Decoder.advance Decoder.finish
  dsimp only
  rw [List.nil_append, all, Decoder.resolve, List.append_nil]

end ModalPanes
