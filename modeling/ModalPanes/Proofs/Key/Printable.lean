import ModalPanes.Proofs.Key.Notation

/-!
# Printable bytes between other input

A printable byte that is not part of a key sequence types its character, whatever invalid or broken characters stand
around it.  Only a character that the end of the input cuts off takes what follows its lead byte with it.
-/

namespace ModalPanes

/-- A printable character of ASCII without modifiers. -/
def Key.isPrintable (key : Key) : Bool :=
  match key.code with
  | .char c => decide (key.mods = {}) && decide (0x20 ≤ c.toNat) && decide (c.toNat ≤ 0x7E)
  | _ => false

namespace Key

theorem isPrintable_ctrl (c : Char) : (ctrl c).isPrintable = false := rfl

theorem isPrintable_of_code {key : Key} (other : ∀ c, key.code ≠ .char c) : key.isPrintable = false := by
  unfold isPrintable
  split
  · rename_i c is
    exact absurd is (other c)
  · rfl

end Key

namespace Scan

/-- A byte that is a printable character of ASCII. -/
def isPrintable (b : UInt8) : Bool := 0x20 ≤ b.toNat && b.toNat ≤ 0x7E

/-- The number of bytes that a lead byte promises behind it. -/
def promised (lead : UInt8) : Nat :=
  if lead.toNat < 0xC0 then 0
  else if lead.toNat ≤ 0xDF then 1
  else if lead.toNat ≤ 0xEF then 2
  else if lead.toNat ≤ 0xF7 then 3
  else 0

/-- The length of the key sequence at the front, or zero: an escape byte and an opening bracket, parameters, and a
final byte with which they name a key. -/
def sequenceLength : List UInt8 → Nat
  | lead :: bracket :: bytes =>
      let raw := bytes.takeWhile isParameter
      match bytes.dropWhile isParameter with
      | final :: _ =>
          if lead = 0x1B ∧ bracket = 0x5B ∧ isFinal final ∧ (sequenceKey? raw final).isSome then
            raw.length + 3
          else 0
      | [] => 0
  | _ => 0

def InSequence (bytes : List UInt8) (place : Nat) : Prop :=
  ∃ start ≤ place, place < start + sequenceLength (bytes.drop start)

instance (bytes : List UInt8) (place : Nat) : Decidable (InSequence bytes place) :=
  inferInstanceAs (Decidable (∃ start ≤ place, _))

/-- The key that the byte at a place types: its character, if it is printable and not part of a key sequence. -/
def typedAt? (bytes : List UInt8) (place : Nat) : Option Key :=
  match bytes[place]? with
  | some b =>
      if isPrintable b ∧ ¬ InSequence bytes place then some (.char (Char.ofNat b.toNat)) else none
  | none => none

/-- The number of bytes in front of the first character that the end of the input cuts off. -/
def wholeLength : List UInt8 → Nat
  | [] => 0
  | lead :: bytes => if bytes.length < promised lead then 0 else wholeLength bytes + 1

variable {lead : UInt8} {bytes : List UInt8} {key : Key} {more place : Nat}

theorem isPrintable_iff : isPrintable lead = true ↔ 0x20 ≤ lead.toNat ∧ lead.toNat ≤ 0x7E := by
  simp [isPrintable]

/-- Only bytes beyond those of ASCII and of continuations promise others behind them. -/
theorem promised_of_lt (low : lead.toNat < 0xC0) : promised lead = 0 := if_pos low

theorem sequenceLength_of_ne (other : lead ≠ 0x1B) (bytes : List UInt8) :
    sequenceLength (lead :: bytes) = 0 := by
  unfold sequenceLength
  split
  · rename_i same
    obtain ⟨rfl, rfl⟩ := List.cons.inj same
    split <;> simp [other]
  · rfl

theorem isParameter_iff {b : UInt8} :
    isParameter b = true ↔ 0x30 ≤ b.toNat ∧ b.toNat ≤ 0x39 ∨ b.toNat = 0x3B := by
  simp [isParameter, UInt8.le_iff_toNat_le, ← UInt8.toNat_inj]

theorem isFinal_iff {b : UInt8} : isFinal b = true ↔ 0x40 ≤ b.toNat ∧ b.toNat ≤ 0x7E := by
  simp [isFinal, UInt8.le_iff_toNat_le]

/-- The front of some bytes gives keys: it takes a number of bytes behind the lead byte, no character or key
sequence reaches beyond them, and the keys are those that its bytes type. -/
structure Takes (lead : UInt8) (bytes : List UInt8) (more : Nat) (keys : List Key) : Prop where
  within : more ≤ bytes.length
  whole : promised lead ≤ bytes.length
  behind : ∀ b ∈ bytes.take more, promised b = 0 ∧ b ≠ 0x1B
  reach : sequenceLength (lead :: bytes) ≤ more + 1
  typed : keys.filter Key.isPrintable = (List.range (more + 1)).filterMap (typedAt? (lead :: bytes))

theorem escape_cases (bytes : List UInt8) :
    escape bytes = .undecided ∧ sequenceLength (0x1B :: bytes) = 0 ∨
      escape bytes = bareEscape ∧ sequenceLength (0x1B :: bytes) = 0 ∨
      ∃ raw final rest key, bytes = 0x5B :: (raw ++ final :: rest) ∧
        (∀ b ∈ raw, isParameter b = true) ∧ isFinal final = true ∧ key.isPrintable = false ∧
        escape bytes = .key key (raw.length + 2) ∧
        sequenceLength (0x1B :: bytes) = raw.length + 3 := by
  cases bytes with
  | nil => exact .inl ⟨rfl, rfl⟩
  | cons bracket bytes =>
      by_cases opens : bracket = 0x5B
      · subst opens
        cases behind : bytes.dropWhile isParameter with
        | nil => simp [escape, sequenceLength, behind]
        | cons final rest =>
            by_cases ends : isFinal final = true
            · cases known : sequenceKey? (bytes.takeWhile isParameter) final with
              | none => simp [escape, sequenceLength, behind, ends, known]
              | some key =>
                  have parts := List.takeWhile_append_dropWhile (p := isParameter) (l := bytes)
                  rw [behind] at parts
                  refine .inr (.inr ⟨bytes.takeWhile isParameter, final, rest, key, by rw [parts],
                    fun b mem => List.mem_takeWhile_imp mem, ends, ?_, ?_, ?_⟩)
                  · obtain ⟨code, named, rfl⟩ := Option.map_eq_some_iff.1 known
                    apply Key.isPrintable_of_code
                    split at named
                    · exact numberedKey?_ne named
                    · exact letterKey?_ne named
                  · simp [escape, behind, ends, known]
                  · simp [sequenceLength, behind, ends, known]
            · simp [escape, sequenceLength, behind, ends]
      · refine .inr (.inl ⟨if_neg opens, ?_⟩)
        unfold sequenceLength
        dsimp only
        split <;> simp [opens]

/-- A byte that promises others is read together with them. -/
theorem ofBytes_of_promised (promises : 0 < promised lead) :
    ∃ least leading, 0x80 ≤ least ∧
      ∀ bytes, ofBytes lead bytes = multibyte (promised lead) least leading bytes := by
  unfold promised at promises ⊢
  split_ifs at promises ⊢ with low two three four
  · contradiction
  · exact ⟨_, _, by decide, ofBytes_two (by omega) two⟩
  · exact ⟨_, _, by decide, ofBytes_three (by omega) three⟩
  · exact ⟨_, _, by decide, ofBytes_four (by omega) four⟩
  · contradiction

/-- Any other byte that is neither printable nor an escape byte is read alone, and types nothing. -/
theorem ofBytes_of_other (escape : lead ≠ 0x1B) (other : isPrintable lead = false)
    (alone : promised lead = 0) (bytes : List UInt8) :
    (∃ key, key.isPrintable = false ∧ ofBytes lead bytes = .key key 0) ∨
      ofBytes lead bytes = .junk := by
  have escape : lead.toNat ≠ 0x1B := fun same => escape (UInt8.toNat_inj.1 same)
  have other : ¬ (0x20 ≤ lead.toNat ∧ lead.toNat ≤ 0x7E) := by
    rw [← isPrintable_iff, other]
    decide
  have alone : lead.toNat < 0xC0 ∨ 0xF7 < lead.toNat := by
    by_contra promises
    unfold promised at alone
    rw [if_neg (by omega)] at alone
    split_ifs at alone
    omega
  have reads := ofBytes_eq lead bytes
  rw [if_neg escape] at reads
  by_cases isNull : lead.toNat = 0x00
  · exact .inl ⟨_, Key.isPrintable_ctrl _, reads.trans (if_pos isNull)⟩
  rw [if_neg isNull] at reads
  by_cases isBackspace : lead.toNat = 0x08 ∨ lead.toNat = 0x7F
  · exact .inl ⟨_, rfl, reads.trans (if_pos isBackspace)⟩
  rw [if_neg isBackspace] at reads
  by_cases isTab : lead.toNat = 0x09
  · exact .inl ⟨_, rfl, reads.trans (if_pos isTab)⟩
  rw [if_neg isTab] at reads
  by_cases isEnter : lead.toNat = 0x0A ∨ lead.toNat = 0x0D
  · exact .inl ⟨_, rfl, reads.trans (if_pos isEnter)⟩
  rw [if_neg isEnter] at reads
  by_cases isCtrl : lead.toNat ≤ 0x1A
  · exact .inl ⟨_, Key.isPrintable_ctrl _, reads.trans (if_pos isCtrl)⟩
  rw [if_neg isCtrl] at reads
  by_cases isUnused : lead.toNat < 0x20
  · exact .inr (reads.trans (if_pos isUnused))
  rw [if_neg isUnused, if_neg (by omega)] at reads
  rcases alone with low | high
  · exact .inr (reads.trans (if_pos low))
  · rw [if_neg (by omega), if_neg (by omega), if_neg (by omega), if_neg (by omega)] at reads
    exact .inr reads

theorem typedAt?_eq_none (quiet : ∀ b ∈ bytes[place]?, isPrintable b = false) :
    typedAt? bytes place = none := by
  unfold typedAt?
  split
  · rename_i b found
    simp [quiet b found]
  · rfl

theorem filterMap_typedAt?_of_quiet (lead : UInt8) (bytes : List UInt8) (more : Nat)
    (quiet : ∀ b ∈ (lead :: bytes).take (more + 1), isPrintable b = false) :
    (List.range (more + 1)).filterMap (typedAt? (lead :: bytes)) = [] := by
  rw [List.filterMap_eq_nil_iff]
  intro place mem
  refine typedAt?_eq_none fun b found => quiet b ?_
  rw [List.mem_take_iff_getElem]
  obtain ⟨inside, rfl⟩ := List.getElem?_eq_some_iff.1 found
  have := List.mem_range.1 mem
  exact ⟨place, by omega, rfl⟩

theorem takes_printable (prints : isPrintable lead = true) (bytes : List UInt8) :
    Takes lead bytes 0 [.char (Char.ofNat lead.toNat)] := by
  obtain ⟨low, high⟩ := isPrintable_iff.1 prints
  have other : lead ≠ 0x1B := by
    rintro rfl
    contradiction
  have alone := sequenceLength_of_ne other bytes
  have apart : ¬ InSequence (lead :: bytes) 0 := by
    rintro ⟨start, first, inside⟩
    obtain rfl := Nat.le_zero.1 first
    rw [List.drop_zero, alone] at inside
    contradiction
  refine ⟨Nat.zero_le _, ?_, by simp, by omega, ?_⟩
  · rw [promised_of_lt (by omega)]
    exact Nat.zero_le _
  · have types : (Key.char (Char.ofNat lead.toNat)).isPrintable = true := by
      simp [Key.isPrintable, Key.char, toNat_ascii _ (Nat.lt_succ_of_le high), low, high]
    simp [typedAt?, prints, apart, types]

theorem takes_quiet {keys : List Key} (quiet : isPrintable lead = false)
    (whole : promised lead ≤ bytes.length) (reach : sequenceLength (lead :: bytes) = 0)
    (types : keys.filter Key.isPrintable = []) : Takes lead bytes 0 keys where
  within := Nat.zero_le _
  whole := whole
  behind := by simp
  reach := by omega
  typed := by
    rw [types, filterMap_typedAt?_of_quiet]
    simpa using quiet

/-- The bytes of a key sequence are part of it, and type nothing. -/
theorem takes_sequence {raw : List UInt8} {final : UInt8} (parameters : ∀ b ∈ raw, isParameter b = true)
    (ends : isFinal final = true) (rest : List UInt8) (types : key.isPrintable = false)
    (reach : sequenceLength (0x1B :: 0x5B :: (raw ++ final :: rest)) = raw.length + 3) :
    Takes 0x1B (0x5B :: (raw ++ final :: rest)) (raw.length + 2) [key] where
  within := by simp
  whole := Nat.zero_le _
  behind b mem := by
    have parts : b = 0x5B ∨ b ∈ raw ∨ b = final := by
      simpa [List.take_append, List.take_of_length_le] using mem
    have bounds : 0x30 ≤ b.toNat ∧ b.toNat ≤ 0x7E := by
      rcases parts with rfl | parameter | rfl
      · decide
      · have := isParameter_iff.1 (parameters b parameter)
        omega
      · have := isFinal_iff.1 ends
        omega
    refine ⟨promised_of_lt (by omega), ?_⟩
    rintro rfl
    exact absurd bounds.1 (by decide)
  reach := by omega
  typed := by
    symm
    simp only [List.filter_cons, types, Bool.false_eq_true, if_false, List.filter_nil,
      List.filterMap_eq_nil_iff, List.mem_range]
    intro place inside
    have part : InSequence (0x1B :: 0x5B :: (raw ++ final :: rest)) place :=
      ⟨0, Nat.zero_le _, by rw [List.drop_zero, reach]; omega⟩
    unfold typedAt?
    split
    · simp [part]
    · rfl

theorem takes_multibyte {least leading : Nat} {c : Char} (promises : 0 < promised lead)
    (long : 0x80 ≤ least) (enough : promised lead ≤ bytes.length)
    (read : scalar? least leading (bytes.take (promised lead)) = some c) :
    Takes lead bytes (promised lead) [.char c] := by
  obtain ⟨continued, least⟩ := scalar?_bounds read
  have types : (Key.char c).isPrintable = false := by
    simp only [Key.isPrintable, Key.char, Bool.and_eq_false_iff, decide_eq_false_iff_not]
    omega
  have high : 0xC0 ≤ lead.toNat := by
    by_contra low
    rw [promised_of_lt (by omega)] at promises
    contradiction
  have other : lead ≠ 0x1B := by
    rintro rfl
    contradiction
  have bounds : ∀ b ∈ bytes.take (promised lead), 0x80 ≤ b.toNat ∧ b.toNat < 0xC0 := by
    intro b mem
    have continues := continued b mem
    simp only [isContinuation, Bool.and_eq_true, decide_eq_true_eq, UInt8.le_iff_toNat_le] at continues
    exact ⟨continues.1, Nat.lt_succ_of_le continues.2⟩
  refine ⟨enough, enough, fun b mem => ⟨promised_of_lt (bounds b mem).2, ?_⟩, ?_, ?_⟩
  · rintro rfl
    exact absurd (bounds _ mem).1 (by decide)
  · rw [sequenceLength_of_ne other]
    exact Nat.zero_le _
  · rw [filterMap_typedAt?_of_quiet, List.filter_cons_of_neg (by simp [types]), List.filter_nil]
    intro b mem
    rw [Bool.eq_false_iff, ne_eq, isPrintable_iff]
    rcases List.mem_cons.1 (by simpa using mem) with rfl | mem
    · omega
    · have := bounds b mem
      omega

/-- What is read off the front takes its bytes, unless the end of the input cuts a character off. -/
theorem ofBytes_takes (lead : UInt8) (bytes : List UInt8) :
    match ofBytes lead bytes with
    | .key key more => Takes lead bytes more [key]
    | .junk => Takes lead bytes 0 []
    | .undecided =>
        lead = 0x1B ∧ Takes lead bytes 0 [.plain .escape] ∨ lead ≠ 0x1B ∧ bytes.length < promised lead := by
  by_cases isEscape : lead = 0x1B
  · subst isEscape
    have reads : ofBytes 0x1B bytes = escape bytes := rfl
    rw [reads]
    rcases escape_cases bytes with ⟨waits, reach⟩ | ⟨bare, reach⟩ |
      ⟨raw, final, rest, key, rfl, parameters, ends, types, found, reach⟩
    · rw [waits]
      exact .inl ⟨rfl, takes_quiet rfl (Nat.zero_le _) reach rfl⟩
    · rw [bare]
      exact takes_quiet rfl (Nat.zero_le _) reach rfl
    · rw [found]
      exact takes_sequence parameters ends rest types reach
  · have reach := sequenceLength_of_ne isEscape bytes
    cases prints : isPrintable lead with
    | true =>
        obtain ⟨low, high⟩ := isPrintable_iff.1 prints
        rw [ofBytes_ascii low high]
        exact takes_printable prints bytes
    | false =>
        rcases Nat.eq_zero_or_pos (promised lead) with alone | promises
        · rcases ofBytes_of_other isEscape prints alone bytes with ⟨key, types, reads⟩ | reads
          · rw [reads]
            exact takes_quiet prints (alone ▸ Nat.zero_le _) reach (by simp [types])
          · rw [reads]
            exact takes_quiet prints (alone ▸ Nat.zero_le _) reach rfl
        · obtain ⟨least, leading, long, reads⟩ := ofBytes_of_promised promises
          rw [reads, multibyte]
          by_cases short : bytes.length < promised lead
          · rw [if_pos short]
            exact .inr ⟨isEscape, short⟩
          · rw [if_neg short]
            cases read : scalar? least leading (bytes.take (promised lead)) with
            | some c => exact takes_multibyte promises long (by omega) read
            | none => exact takes_quiet prints (by omega) reach rfl

theorem wholeLength_append {front : List UInt8} (alone : ∀ b ∈ front, promised b = 0)
    (rest : List UInt8) : wholeLength (front ++ rest) = front.length + wholeLength rest := by
  induction front with
  | nil => simp
  | cons b front ih =>
      rw [List.forall_mem_cons] at alone
      rw [List.cons_append, wholeLength, alone.1, if_neg (Nat.not_lt_zero _), ih alone.2,
        List.length_cons]
      omega

theorem wholeLength_le (bytes : List UInt8) : wholeLength bytes ≤ bytes.length := by
  induction bytes with
  | nil => exact Nat.le_refl 0
  | cons lead bytes ih =>
      rw [wholeLength, List.length_cons]
      split
      · exact Nat.zero_le _
      · exact Nat.succ_le_succ ih

namespace Takes

variable {keys : List Key} (takes : Takes lead bytes more keys)
include takes

theorem wholeLength_eq : wholeLength (lead :: bytes) = more + 1 + wholeLength (bytes.drop more) := by
  have parts := wholeLength_append (fun b mem => (takes.behind b mem).1) (bytes.drop more)
  rw [List.take_append_drop, List.length_take_of_le takes.within] at parts
  rw [wholeLength, if_neg (Nat.not_lt.2 takes.whole), parts]
  omega

/-- No key sequence that begins at the front reaches beyond it. -/
theorem inSequence_iff (place : Nat) :
    InSequence (lead :: bytes) (more + 1 + place) ↔ InSequence (bytes.drop more) place := by
  constructor
  · rintro ⟨start, before, inside⟩
    rcases Nat.lt_or_ge more start with beyond | among
    · obtain ⟨start, rfl⟩ := Nat.exists_eq_add_of_lt beyond
      refine ⟨start, by omega, ?_⟩
      rw [List.drop_drop]
      rw [List.drop_succ_cons] at inside
      omega
    · cases start with
      | zero =>
          have reach := takes.reach
          rw [List.drop_zero] at inside
          omega
      | succ start =>
          have inBytes : start < bytes.length := Nat.lt_of_lt_of_le among takes.within
          have other := (takes.behind bytes[start] (by
            rw [List.mem_take_iff_getElem]
            exact ⟨start, by omega, rfl⟩)).2
          rw [List.drop_succ_cons, List.drop_eq_getElem_cons inBytes, sequenceLength_of_ne other] at inside
          omega
  · rintro ⟨start, before, inside⟩
    refine ⟨more + 1 + start, by omega, ?_⟩
    rw [List.drop_drop] at inside
    rw [show more + 1 + start = more + start + 1 by omega, List.drop_succ_cons]
    omega

theorem typedAt?_eq (place : Nat) :
    typedAt? (lead :: bytes) (more + 1 + place) = typedAt? (bytes.drop more) place := by
  have same : (lead :: bytes)[more + 1 + place]? = (bytes.drop more)[place]? := by
    rw [List.getElem?_drop, show more + 1 + place = more + place + 1 by omega, List.getElem?_cons_succ]
  simp only [typedAt?, same, takes.inSequence_iff]

/-- The keys of the front and those of the rest are the keys of all. -/
theorem typed_append :
    keys.filter Key.isPrintable ++
        (List.range (wholeLength (bytes.drop more))).filterMap (typedAt? (bytes.drop more)) =
      (List.range (wholeLength (lead :: bytes))).filterMap (typedAt? (lead :: bytes)) := by
  have shifted : typedAt? (lead :: bytes) ∘ (more + 1 + ·) = typedAt? (bytes.drop more) :=
    funext takes.typedAt?_eq
  rw [takes.wholeLength_eq, List.range_add, List.filterMap_append, List.filterMap_map, shifted, takes.typed]

end Takes

end Scan

namespace Decoder

/-- Undecided bytes are read the same way, whether they were held back or not. -/
theorem complete_append_resolve (bytes : List UInt8) :
    (complete bytes).1 ++ resolve (complete bytes).2 = resolve bytes := by
  fun_induction complete bytes with
  | case1 => simp [resolve]
  | case2 lead bytes key more found later ih =>
      rw [resolve, found]
      exact congrArg (key :: ·) ih
  | case3 lead bytes found => rfl
  | case4 lead bytes found ih =>
      rw [ih, resolve, found]

/-- The printable keys are those of the bytes in front of a character that is cut off. -/
theorem resolve_filter (bytes : List UInt8) :
    (resolve bytes).filter Key.isPrintable =
      (List.range (Scan.wholeLength bytes)).filterMap (Scan.typedAt? bytes) := by
  fun_induction resolve bytes with
  | case1 => rfl
  | case2 lead bytes key more found ih =>
      have takes := Scan.ofBytes_takes lead bytes
      rw [found] at takes
      rw [← takes.typed_append, ← ih, ← List.filter_append]
      rfl
  | case3 bytes found ih =>
      have takes := Scan.ofBytes_takes 0x1B bytes
      rw [found] at takes
      obtain ⟨-, takes⟩ | ⟨other, -⟩ := takes
      · rw [← takes.typed_append, List.drop_zero, ← ih, ← List.filter_append]
        rfl
      · contradiction
  | case4 lead bytes found other =>
      have takes := Scan.ofBytes_takes lead bytes
      rw [found] at takes
      obtain ⟨same, -⟩ | ⟨-, short⟩ := takes
      · contradiction
      · simp [Scan.wholeLength, short]
  | case5 lead bytes found ih =>
      have takes := Scan.ofBytes_takes lead bytes
      rw [found] at takes
      rw [← takes.typed_append, List.drop_zero, ← ih]
      rfl

end Decoder

theorem decode_eq_resolve (bytes : List UInt8) : decode bytes = Decoder.resolve bytes := by
  rw [← Decoder.complete_append_resolve]
  rfl

/-- Every printable byte outside key sequences types its character, in the order of the bytes, up to the first
character that the end of the input cuts off; so all of them do, unless one stands behind the lead byte of such a
character. -/
theorem decode_types_printable (bytes : List UInt8) :
    (decode bytes).filter Key.isPrintable =
        (List.range (Scan.wholeLength bytes)).filterMap (Scan.typedAt? bytes) ∧
      ((decode bytes).filter Key.isPrintable =
          (List.range bytes.length).filterMap (Scan.typedAt? bytes) ↔
        ∀ place, Scan.wholeLength bytes ≤ place → Scan.typedAt? bytes place = none) := by
  rw [decode_eq_resolve, Decoder.resolve_filter]
  refine ⟨rfl, ?_⟩
  obtain ⟨beyond, length⟩ := Nat.exists_eq_add_of_le (Scan.wholeLength_le bytes)
  rw [length, List.range_add, List.filterMap_append, List.filterMap_map, List.self_eq_append_right,
    List.filterMap_eq_nil_iff]
  constructor
  · intro lost place behind
    obtain ⟨offset, rfl⟩ := Nat.exists_eq_add_of_le behind
    rcases Nat.lt_or_ge offset beyond with inside | outside
    · exact lost offset (List.mem_range.2 inside)
    · have ended : bytes[Scan.wholeLength bytes + offset]? = none :=
        List.getElem?_eq_none (by omega)
      unfold Scan.typedAt?
      rw [ended]
  · intro lost offset _
    exact lost _ (Nat.le_add_right _ _)

/-- A lead byte at the end takes the letter behind it along, although it promises more than one byte. -/
theorem letter_lost_at_end :
    ¬ (decode [0xE2, 0x41]).filter Key.isPrintable =
      (List.range 2).filterMap (Scan.typedAt? [0xE2, 0x41]) := by
  decide +kernel

end ModalPanes
