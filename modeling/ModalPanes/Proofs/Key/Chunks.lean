import ModalPanes.Key.Decoder
import Mathlib.Data.List.TakeWhile

/-!
# Terminal input in pieces

The lead byte alone says how the bytes behind it are read, and what a decoder reads off the front of its
bytes stays the same when more bytes arrive: only an undecided front waits for them.  So it does not matter
where the input is cut, within a sequence, within a character or anywhere else.
-/

namespace ModalPanes

namespace Scan

/-- What a lead byte begins, whatever stands behind it. -/
inductive Leads (lead : UInt8) : Prop where
  | escape (isEscape : lead = 0x1B) (reads : ∀ bytes, ofBytes lead bytes = Scan.escape bytes)
  | named (code : KeyCode) (other : ∀ c, code ≠ .char c)
      (reads : ∀ bytes, ofBytes lead bytes = .key (.plain code) 0)
  | ctrl (c : Char) (lower : c.toLower = c) (reads : ∀ bytes, ofBytes lead bytes = .key (.ctrl c) 0)
  | printable (low : 0x20 ≤ lead.toNat) (high : lead.toNat ≤ 0x7E)
      (reads : ∀ bytes, ofBytes lead bytes = .key (.char (Char.ofNat lead.toNat)) 0)
  | multibyte (count least leading : Nat) (long : 0x80 ≤ least)
      (reads : ∀ bytes, ofBytes lead bytes = Scan.multibyte count least leading bytes)
  | junk (reads : ∀ bytes, ofBytes lead bytes = .junk)

theorem toLower_letter : ∀ n < 27, 1 ≤ n → (Char.ofNat (n + 0x60)).toLower = Char.ofNat (n + 0x60) := by
  decide

theorem leads (lead : UInt8) : Leads lead := by
  by_cases isEscape : lead = 0x1B
  · exact .escape isEscape fun _ => by simp [ofBytes, isEscape]
  by_cases isNull : lead = 0
  · exact .ctrl '@' rfl fun _ => by simp [ofBytes, isNull]
  by_cases isBackspace : lead = 0x08 ∨ lead = 0x7F
  · exact .named .backspace nofun fun _ => by simp [ofBytes, isEscape, isNull, isBackspace]
  by_cases isTab : lead = 0x09
  · exact .named .tab nofun fun _ => by simp [ofBytes, isTab]
  by_cases isEnter : lead = 0x0A ∨ lead = 0x0D
  · exact .named .enter nofun fun _ => by simp [ofBytes, isEscape, isNull, isBackspace, isTab, isEnter]
  -- from here on the ranges follow one another, so that the first one that holds the byte decides
  have reads : ∀ bytes, ofBytes lead bytes = _ := fun bytes => by
    rw [ofBytes, if_neg isEscape, if_neg isNull, if_neg isBackspace, if_neg isTab, if_neg isEnter]
  by_cases isCtrl : lead ≤ 0x1A
  · refine .ctrl _ (toLower_letter lead.toNat ?_ ?_) fun bytes => (reads bytes).trans (if_pos isCtrl)
    · exact Nat.lt_succ_of_le (UInt8.le_iff_toNat_le.1 isCtrl)
    · exact Nat.pos_of_ne_zero fun zero => isNull (UInt8.toNat_inj.1 zero)
  by_cases isUnused : lead < 0x20
  · exact .junk fun bytes => by rw [reads, if_neg isCtrl, if_pos isUnused]
  by_cases isAscii : lead ≤ 0x7E
  · refine .printable ?_ (UInt8.le_iff_toNat_le.1 isAscii) fun bytes => by
      rw [reads, if_neg isCtrl, if_neg isUnused, if_pos isAscii]
    exact Nat.le_of_not_lt fun below => isUnused (UInt8.lt_iff_toNat_lt.2 below)
  by_cases isContinuation : lead < 0xC0
  · exact .junk fun bytes => by
      rw [reads, if_neg isCtrl, if_neg isUnused, if_neg isAscii, if_pos isContinuation]
  have behind : ∀ bytes, ofBytes lead bytes = _ := fun bytes => by
    rw [reads, if_neg isCtrl, if_neg isUnused, if_neg isAscii, if_neg isContinuation]
  by_cases isTwo : lead ≤ 0xDF
  · exact .multibyte 1 0x80 _ (by decide) fun bytes => (behind bytes).trans (if_pos isTwo)
  by_cases isThree : lead ≤ 0xEF
  · exact .multibyte 2 0x800 _ (by decide) fun bytes => by rw [behind, if_neg isTwo, if_pos isThree]
  by_cases isFour : lead ≤ 0xF7
  · exact .multibyte 3 0x10000 _ (by decide) fun bytes => by
      rw [behind, if_neg isTwo, if_neg isThree, if_pos isFour]
  · exact .junk fun bytes => by rw [behind, if_neg isTwo, if_neg isThree, if_neg isFour]

variable {bytes : List UInt8} {lead : UInt8} {key : Key} {count : Nat}

theorem escape_append (decided : escape bytes ≠ .undecided) (more : List UInt8) :
    escape (bytes ++ more) = escape bytes := by
  cases bytes with
  | nil => exact absurd rfl decided
  | cons b bytes =>
      simp only [escape, List.cons_append] at decided ⊢
      split
      · rename_i opens
        rw [if_pos opens] at decided
        cases behind : bytes.dropWhile isParameter with
        | nil => simp [behind] at decided
        | cons final rest =>
            have ends : bytes.takeWhile isParameter ≠ bytes := by
              intro whole
              rw [List.takeWhile_eq_self_iff, ← List.dropWhile_eq_nil_iff, behind] at whole
              contradiction
            have raw : (bytes ++ more).takeWhile isParameter = bytes.takeWhile isParameter := by
              rw [List.takeWhile_append, if_neg]
              exact fun whole => ends ((List.takeWhile_sublist _).eq_of_length whole)
            have dropped : (bytes ++ more).dropWhile isParameter = final :: (rest ++ more) := by
              rw [List.dropWhile_append, behind]
              rfl
            rw [raw, dropped]
      · rfl

theorem multibyte_append {least leading : Nat}
    (decided : multibyte count least leading bytes ≠ .undecided) (more : List UInt8) :
    multibyte count least leading (bytes ++ more) = multibyte count least leading bytes := by
  unfold multibyte at decided ⊢
  by_cases short : bytes.length < count
  · rw [if_pos short] at decided
    contradiction
  · have enough : count ≤ bytes.length := Nat.le_of_not_lt short
    have still : ¬ (bytes ++ more).length < count := by
      rw [List.length_append]
      omega
    rw [if_neg short, if_neg still, List.take_append_of_le_length enough]

theorem ofBytes_append (decided : ofBytes lead bytes ≠ .undecided) (more : List UInt8) :
    ofBytes lead (bytes ++ more) = ofBytes lead bytes := by
  cases leads lead with
  | escape _ reads =>
      rw [reads] at decided
      rw [reads, reads, escape_append decided]
  | named _ _ reads => rw [reads, reads]
  | ctrl _ _ reads => rw [reads, reads]
  | printable _ _ reads => rw [reads, reads]
  | multibyte _ _ _ _ reads =>
      rw [reads] at decided
      rw [reads, reads, multibyte_append decided]
  | junk reads => rw [reads, reads]

theorem escape_key_le (found : escape bytes = .key key count) : count ≤ bytes.length := by
  cases bytes with
  | nil => contradiction
  | cons b bytes =>
      have parts := congrArg List.length (List.takeWhile_append_dropWhile (p := isParameter) (l := bytes))
      have bare : bareEscape = .key key count → count ≤ (b :: bytes).length := by
        rintro ⟨⟩
        exact Nat.zero_le _
      rw [List.length_append] at parts
      simp only [escape] at found
      split at found
      · split at found
        · contradiction
        · rename_i final rest behind
          rw [behind, List.length_cons] at parts
          split at found
          · split at found
            · cases found
              rw [List.length_cons]
              omega
            · exact bare found
          · exact bare found
      · exact bare found

theorem multibyte_key_le {least leading needed : Nat}
    (found : multibyte needed least leading bytes = .key key count) : count ≤ bytes.length := by
  unfold multibyte at found
  split at found
  · contradiction
  · split at found
    · cases found
      omega
    · contradiction

theorem ofBytes_key_le (found : ofBytes lead bytes = .key key count) : count ≤ bytes.length := by
  cases leads lead with
  | escape _ reads => exact escape_key_le (reads bytes ▸ found)
  | named _ _ reads =>
      cases (reads bytes).symm.trans found
      exact Nat.zero_le _
  | ctrl _ _ reads =>
      cases (reads bytes).symm.trans found
      exact Nat.zero_le _
  | printable _ _ reads =>
      cases (reads bytes).symm.trans found
      exact Nat.zero_le _
  | multibyte _ _ _ _ reads => exact multibyte_key_le (reads bytes ▸ found)
  | junk reads => cases (reads bytes).symm.trans found

end Scan

namespace Decoder

section Fronts

variable {lead : UInt8} {bytes : List UInt8} {key : Key} {count : Nat}

theorem complete_of_key (found : Scan.ofBytes lead bytes = .key key count) :
    complete (lead :: bytes) =
      (key :: (complete (bytes.drop count)).1, (complete (bytes.drop count)).2) := by
  rw [complete, found]

theorem complete_of_undecided (found : Scan.ofBytes lead bytes = .undecided) :
    complete (lead :: bytes) = ([], lead :: bytes) := by
  rw [complete, found]

theorem complete_of_junk (found : Scan.ofBytes lead bytes = .junk) :
    complete (lead :: bytes) = complete bytes := by
  rw [complete, found]

end Fronts

/-- The keys of bytes with more bytes behind them are those that are certain without, and then those of what
is left open together with the bytes behind. -/
theorem complete_append (bytes more : List UInt8) :
    complete (bytes ++ more) =
      ((complete bytes).1 ++ (complete ((complete bytes).2 ++ more)).1,
        (complete ((complete bytes).2 ++ more)).2) := by
  induction length : bytes.length using Nat.strongRecOn generalizing bytes with
  | ind n ih =>
      subst length
      cases bytes with
      | nil => simp [complete]
      | cons lead bytes =>
          have still : Scan.ofBytes lead bytes ≠ .undecided →
              Scan.ofBytes lead (bytes ++ more) = Scan.ofBytes lead bytes := fun decided =>
            Scan.ofBytes_append decided more
          rw [List.cons_append]
          cases found : Scan.ofBytes lead bytes with
          | undecided =>
              rw [complete_of_undecided found]
              rfl
          | junk =>
              rw [found] at still
              rw [complete_of_junk found, complete_of_junk (still (by rintro ⟨⟩))]
              exact ih bytes.length (Nat.lt_succ_self _) bytes rfl
          | key key count =>
              rw [found] at still
              have within := Scan.ofBytes_key_le found
              have shorter : (bytes.drop count).length < (lead :: bytes).length := by
                rw [List.length_drop, List.length_cons]
                omega
              rw [complete_of_key found, complete_of_key (still (by rintro ⟨⟩)),
                List.drop_append_of_le_length within, ih _ shorter _ rfl]
              rfl

/-- Feed pieces of input one after the other: all keys they complete, and the decoder afterwards. -/
def advanceAll (decoder : Decoder) : List (List UInt8) → List Key × Decoder
  | [] => ([], decoder)
  | piece :: pieces =>
      let first := decoder.advance piece
      let later := advanceAll first.2 pieces
      (first.1 ++ later.1, later.2)

/-- Two pieces are as good as one. -/
theorem advance_append (decoder : Decoder) (bytes more : List UInt8) :
    decoder.advance (bytes ++ more) =
      ((decoder.advance bytes).1 ++ ((decoder.advance bytes).2.advance more).1,
        ((decoder.advance bytes).2.advance more).2) := by
  unfold advance
  dsimp only
  rw [← List.append_assoc, complete_append]

/-- Behind some bytes, one piece or several make no difference. -/
theorem advance_advanceAll (decoder : Decoder) (bytes : List UInt8) (pieces : List (List UInt8)) :
    decoder.advance (bytes ++ pieces.flatten) =
      ((decoder.advance bytes).1 ++ (advanceAll (decoder.advance bytes).2 pieces).1,
        (advanceAll (decoder.advance bytes).2 pieces).2) := by
  induction pieces generalizing bytes with
  | nil => simp [advanceAll]
  | cons piece pieces ih =>
      rw [List.flatten_cons, ← List.append_assoc, ih, advance_append]
      simp only [advanceAll, List.append_assoc]

end Decoder

/-- Input that arrives in pieces, empty ones included, gives the keys of the whole input. -/
theorem decode_flatten (pieces : List (List UInt8)) :
    (Decoder.advanceAll {} pieces).1 ++ (Decoder.advanceAll {} pieces).2.finish.1 =
      decode pieces.flatten := by
  have whole := Decoder.advance_advanceAll {} [] pieces
  have nothing : Decoder.advance {} [] = ([], {}) := by simp [Decoder.advance, Decoder.complete]
  rw [nothing, List.nil_append, List.nil_append] at whole
  rw [decode, whole]

end ModalPanes
