import ModalPanes.Proofs.Key.Utf8

/-!
# The notation of keys

Every key that a terminal sends or a name stands for has a written form, and reading it gives the key back: as
a token of its own, and within a longer text, where neither the plain characters nor the names in brackets run
into what stands beside them.  Only a closing bracket with a modifier ends its own name in a longer text.
-/

namespace ModalPanes

theorem toLower_toLower (c : Char) : c.toLower.toLower = c.toLower := by
  by_cases upper : c.val ≥ 'A'.val ∧ c.val ≤ 'Z'.val
  · have moved : c.toLower.val.toNat = c.val.toNat + 32 := by
      unfold Char.toLower
      rw [dif_pos upper]
      have low := UInt32.le_iff_toNat_le.1 upper.1
      have high := UInt32.le_iff_toNat_le.1 upper.2
      simp at low high ⊢
      omega
    apply dif_neg
    rintro ⟨-, again⟩
    have low := UInt32.le_iff_toNat_le.1 upper.1
    have high := UInt32.le_iff_toNat_le.1 again
    rw [moved] at high
    simp at low high
    omega
  · have same : c.toLower = c := dif_neg upper
    rw [same, same]

theorem toNat_ascii : ∀ n < 0x7F, (Char.ofNat n).toNat = n := by
  decide

namespace Key

/-- Some input makes this key: bytes of a terminal, a text with names in it, or a token. -/
def Producible (key : Key) : Prop :=
  (∃ bytes, key ∈ decode bytes) ∨ (∃ text, key ∈ readTyped text) ∨
    ∃ token keys, readToken token = .ok keys ∧ key ∈ keys

/-- A character without modifiers is not a control character, and Ctrl knows no upper case. -/
structure Canonical (key : Key) : Prop where
  types : ∀ c, key.code = .char c → key.mods = {} → Types c
  lower : ∀ c, key.code = .char c → key.mods.ctrl = true → c.toLower = c

theorem Canonical.of_code {key : Key} (other : ∀ c, key.code ≠ .char c) : key.Canonical where
  types c is := absurd is (other c)
  lower c is := absurd is (other c)

theorem canonical_char {c : Char} (types : Types c) : (char c).Canonical where
  types := by
    rintro _ ⟨⟩ -
    exact types
  lower := by
    rintro _ - ⟨⟩

theorem canonical_ctrl {c : Char} (lower : c.toLower = c) : (ctrl c).Canonical where
  types := by
    rintro _ - ⟨⟩
  lower := by
    rintro _ ⟨⟩ -
    exact lower

end Key

section Producing

namespace Scan

variable {lead : UInt8} {bytes : List UInt8} {key : Key} {count : Nat}

theorem letterKey?_ne {final : UInt8} {code : KeyCode} (found : letterKey? final = some code) (c : Char) :
    code ≠ .char c := by
  rintro rfl
  unfold letterKey? at found
  split_ifs at found <;> cases found

theorem numberedKey?_ne {number : Nat} {code : KeyCode} (found : numberedKey? number = some code)
    (c : Char) : code ≠ .char c := by
  rintro rfl
  unfold numberedKey? at found
  split at found <;> cases found

theorem canonical_of_escape (found : escape bytes = .key key count) : key.Canonical := by
  have bare : bareEscape = .key key count → key.Canonical := by
    rintro ⟨⟩
    exact .of_code nofun
  unfold escape at found
  split at found
  · contradiction
  · split at found
    · dsimp only at found
      split at found
      · contradiction
      · split at found
        · split at found
          · rename_i pressed known
            cases found
            obtain ⟨code, named, rfl⟩ := Option.map_eq_some_iff.1 known
            split at named
            · exact .of_code (numberedKey?_ne named)
            · exact .of_code (letterKey?_ne named)
          · exact bare found
        · exact bare found
    · exact bare found

/-- A character is read off continuation bytes, and its number is none that fewer bytes can write. -/
theorem scalar?_bounds {least leading : Nat} {continuations : List UInt8} {c : Char}
    (read : scalar? least leading continuations = some c) :
    (∀ b ∈ continuations, isContinuation b = true) ∧ least ≤ c.toNat := by
  unfold scalar? at read
  obtain ⟨enough, read⟩ := Option.ite_none_right_eq_some.1 read
  obtain ⟨valid, read⟩ := Option.dite_none_right_eq_some.1 read
  cases read
  rw [Bool.and_eq_true, List.all_eq_true, decide_eq_true_eq] at enough
  exact enough

theorem canonical_of_multibyte {needed least leading : Nat} (long : 0x80 ≤ least)
    (found : multibyte needed least leading bytes = .key key count) : key.Canonical := by
  unfold multibyte at found
  split at found
  · contradiction
  · split at found
    · rename_i c read
      cases found
      have bound := (scalar?_bounds read).2
      apply Key.canonical_char
      unfold Key.Types
      omega
    · contradiction

theorem canonical_of_key (found : ofBytes lead bytes = .key key count) : key.Canonical := by
  cases leads lead with
  | escape _ reads => exact canonical_of_escape (reads bytes ▸ found)
  | named code other reads =>
      cases (reads bytes).symm.trans found
      exact .of_code other
  | ctrl c lower reads =>
      cases (reads bytes).symm.trans found
      exact Key.canonical_ctrl lower
  | printable low high reads =>
      cases (reads bytes).symm.trans found
      apply Key.canonical_char
      unfold Key.Types
      rw [toNat_ascii _ (Nat.lt_succ_of_le high)]
      omega
  | multibyte _ _ _ long reads => exact canonical_of_multibyte long (reads bytes ▸ found)
  | junk reads => cases (reads bytes).symm.trans found

end Scan

theorem Decoder.canonical_complete (bytes : List UInt8) :
    ∀ key ∈ (complete bytes).1, key.Canonical := by
  fun_induction complete bytes with
  | case1 => nofun
  | case2 lead bytes key count found later ih =>
      intro other mem
      rcases List.mem_cons.1 mem with rfl | mem
      · exact Scan.canonical_of_key found
      · exact ih other mem
  | case3 => nofun
  | case4 lead bytes found ih => exact ih

theorem Decoder.canonical_resolve (bytes : List UInt8) : ∀ key ∈ resolve bytes, key.Canonical := by
  fun_induction resolve bytes with
  | case1 => nofun
  | case2 lead bytes key count found ih =>
      intro other mem
      rcases List.mem_cons.1 mem with rfl | mem
      · exact Scan.canonical_of_key found
      · exact ih other mem
  | case3 bytes found ih =>
      intro other mem
      rcases List.mem_cons.1 mem with rfl | mem
      · exact .of_code nofun
      · exact ih other mem
  | case4 => nofun
  | case5 lead bytes found ih => exact ih

theorem canonical_decode {bytes : List UInt8} {key : Key} (mem : key ∈ decode bytes) :
    key.Canonical := by
  rcases List.mem_append.1 mem with mem | mem
  · exact Decoder.canonical_complete _ key mem
  · exact Decoder.canonical_resolve _ key mem

namespace Key

/-- Of all names only those of the space and of the opening bracket stand for characters. -/
theorem plain_of_baseName? {name : List Char} {key : Key} (found : baseName? name = some key) :
    key.mods = {} ∧ ∀ c, key.code = .char c → c = ' ' ∨ c = '<' := by
  obtain ⟨code, known, rfl⟩ := Option.map_eq_some_iff.1 found
  refine ⟨rfl, ?_⟩
  rintro c rfl
  obtain ⟨front, rest, split, -⟩ := List.lookup_eq_some_iff.1 known
  have mem : (String.ofList (name.map Char.toLower), KeyCode.char c) ∈ names := by
    rw [split]
    exact List.mem_append_right _ List.mem_cons_self
  have chars : ∀ entry ∈ names, ∀ c, entry.2 = .char c → c = ' ' ∨ c = '<' := by
    simp [names]
  exact chars _ mem c rfl

theorem mods_of_single? {name : List Char} {key : Key} (found : single? name = some key) :
    key.mods = {} := by
  unfold single? at found
  split at found <;> cases found
  rfl

theorem canonical_ofName? {name : List Char} {key : Key} (found : ofName? name = some key) :
    key.Canonical := by
  unfold ofName? at found
  dsimp only at found
  split at found
  · obtain ⟨bare, chars⟩ := plain_of_baseName? found
    constructor
    · intro c is _
      rcases chars c is with rfl | rfl <;> decide
    · intro c _ held
      rw [bare] at held
      contradiction
  · rename_i modified
    obtain ⟨base, known, rfl⟩ := Option.map_eq_some_iff.1 found
    have bare : base.mods = {} := by
      rcases Option.or_eq_some_iff.1 known with known | ⟨-, known⟩
      · exact (plain_of_baseName? known).1
      · exact mods_of_single? known
    have mods : base.mods.union (splitModifiers name).1 = (splitModifiers name).1 := by
      rw [bare]
      simp [Modifiers.union]
    constructor
    · intro c _ none
      rw [mods] at none
      contradiction
    · intro c is held
      rw [mods] at held
      dsimp only at is
      unfold lowerUnderCtrl at is
      split at is
      · rw [held, if_pos rfl] at is
        cases is
        exact toLower_toLower _
      · rename_i other
        exact absurd is (other c)

theorem canonical_readTypedFrom (before text : List Char) :
    ∀ key ∈ readTypedFrom before text, key.Canonical := by
  fun_induction readTypedFrom before text with
  | case1 before => exact fun key mem => canonical_decode mem
  | case2 before text key rest found ih =>
      intro other mem
      rcases List.mem_append.1 mem with mem | mem
      · exact canonical_decode mem
      · rcases List.mem_cons.1 mem with rfl | mem
        · unfold bracketed? at found
          split at found
          · contradiction
          · obtain ⟨key, known, same⟩ := Option.map_eq_some_iff.1 found
            cases same
            exact canonical_ofName? known
        · exact ih other mem
  | case3 before text found ih => exact ih
  | case4 before c text other ih => exact ih

theorem canonical_caret? {text : List Char} {key : Key} (found : caret? text = some key) :
    key.Canonical := by
  unfold caret? at found
  split at found
  · split at found
    · cases found
      exact canonical_ctrl (toLower_toLower _)
    · contradiction
  · contradiction

theorem canonical_readToken {token : List Char} {keys : List Key} (read : readToken token = .ok keys) :
    ∀ key ∈ keys, key.Canonical := by
  unfold readToken at read
  split at read
  · contradiction
  · dsimp only at read
    split at read
    · rename_i key known
      cases read
      intro other mem
      obtain rfl := List.mem_singleton.1 mem
      rcases Option.or_eq_some_iff.1 known with known | ⟨-, known⟩
      · exact canonical_ofName? known
      · exact canonical_caret? known
    · split at read
      · contradiction
      · cases read
        exact fun key mem => canonical_decode mem

theorem Producible.canonical {key : Key} (producible : key.Producible) : key.Canonical := by
  rcases producible with ⟨bytes, mem⟩ | ⟨text, mem⟩ | ⟨token, keys, read, mem⟩
  · exact canonical_decode mem
  · exact canonical_readTypedFrom [] text key mem
  · exact canonical_readToken read key mem

end Key

end Producing

namespace Key

section Names

theorem splitModifiers_of_none {name : List Char} (bare : modifierWord? name = none) :
    splitModifiers name = ({}, name) := by
  rw [splitModifiers]
  split
  · rfl
  · rename_i found
    rw [bare] at found
    contradiction

theorem splitModifiers_of_some {name : List Char} {mods : Modifiers} {length : Nat}
    (found : modifierWord? name = some (mods, length)) :
    splitModifiers name =
      (mods.union (splitModifiers (name.drop length)).1, (splitModifiers (name.drop length)).2) := by
  rw [splitModifiers]
  split
  · rename_i bare
    rw [bare] at found
    contradiction
  · rename_i other same
    rw [found] at same
    cases same
    rfl

/-- The modifiers are read off a name in the order in which they are written. -/
theorem splitModifiers_modsName (mods : Modifiers) {name : List Char} (bare : modifierWord? name = none) :
    splitModifiers (modsName mods ++ name) = (mods, name) := by
  have base := splitModifiers_of_none bare
  have ctrl : ∀ rest, modifierWord? ('C' :: '-' :: rest) = some ({ ctrl := true }, 2) := fun _ => by
    simp [modifierWord?, modifierWords]
  have alt : ∀ rest, modifierWord? ('M' :: '-' :: rest) = some ({ alt := true }, 2) := fun _ => by
    simp [modifierWord?, modifierWords]
  have shift : ∀ rest, modifierWord? ('S' :: '-' :: rest) = some ({ shift := true }, 2) := fun _ => by
    simp [modifierWord?, modifierWords]
  obtain ⟨hasShift, hasAlt, hasCtrl⟩ := mods
  cases hasShift <;> cases hasAlt <;> cases hasCtrl <;>
    simp [modsName, splitModifiers_of_some (ctrl _), splitModifiers_of_some (alt _),
      splitModifiers_of_some (shift _), base, Modifiers.union]

theorem baseName?_single (c : Char) : baseName? [c] = none := by
  have long : names.all (fun entry => decide (2 ≤ entry.1.length)) = true := by decide
  have absent : names.lookup (String.ofList ([c].map Char.toLower)) = none := by
    rw [List.lookup_eq_none_iff]
    intro entry mem
    apply bne_iff_ne.2
    intro same
    have two := List.all_eq_true.1 long entry mem
    rw [← same] at two
    simp at two
  unfold baseName?
  rw [absent]
  rfl

theorem modifierWord?_single (c : Char) : modifierWord? [c] = none := by
  simp [modifierWord?, modifierWords]

/-- The name of a key is a name without modifiers, or a character. -/
theorem codeName_reads (code : KeyCode) :
    modifierWord? (codeName code) = none ∧
      (baseName? (codeName code)).or (single? (codeName code)) = some (plain code) := by
  cases code with
  | char c =>
      by_cases blank : c = ' '
      · subst blank
        decide
      · have name : codeName (.char c) = [c] := if_neg blank
        rw [name, baseName?_single, modifierWord?_single]
        exact ⟨rfl, rfl⟩
  | _ => decide

theorem ofName?_bare {name : List Char} (bare : modifierWord? name = none) :
    ofName? name = baseName? name := by
  unfold ofName?
  rw [splitModifiers_of_none bare]
  rfl

/-- Behind modifiers every name is read, and without them that of a key that is no character. -/
theorem ofName?_name {key : Key} (canonical : key.Canonical)
    (named : key.mods = {} → ∀ c, key.code ≠ .char c) :
    ofName? (modsName key.mods ++ codeName key.code) = some key := by
  obtain ⟨bare, reads⟩ := codeName_reads key.code
  unfold ofName?
  rw [splitModifiers_modsName key.mods bare]
  dsimp only
  split
  · rename_i none
    have other := named none
    obtain ⟨code, mods⟩ := key
    cases none
    cases code with
    | char c => exact absurd rfl (other c)
    | _ => decide
  · rw [reads, Option.map_some]
    have lower : lowerUnderCtrl key.mods (plain key.code) = key.code := by
      unfold lowerUnderCtrl plain
      dsimp only
      split
      · rename_i c is
        split
        · rename_i held
          rw [canonical.lower c is held, is]
        · exact is.symm
      · rfl
    rw [lower]
    simp [plain, Modifiers.union]

end Names

/-- The closing bracket with a modifier: its written form holds the bracket that ends a name. -/
def ClosesEarly (key : Key) : Prop := key.code = .char '>' ∧ key.mods ≠ {}

instance (key : Key) : Decidable key.ClosesEarly := inferInstanceAs (Decidable (_ ∧ _))

/-- The written forms of a key: the character that it types, or a name in brackets. -/
inductive Written (key : Key) : List Char → Prop where
  | typed (c : Char) (types : Types c) (apart : c ≠ '<') (is : key = char c) : Written key [c]
  | named (name : List Char) (reads : ofName? name = some key)
      (closed : ¬ key.ClosesEarly → '>' ∉ name) : Written key ('<' :: (name ++ ['>']))

theorem eq_of_mem_codeName {code : KeyCode} (mem : '>' ∈ codeName code) : code = .char '>' := by
  cases code with
  | char c =>
      by_cases blank : c = ' '
      · subst blank
        exact absurd mem (by decide)
      · have name : codeName (.char c) = [c] := if_neg blank
        rw [name, List.mem_singleton] at mem
        rw [mem]
  | _ => exact absurd mem (by decide)

theorem written_bracketed {key : Key} (canonical : key.Canonical)
    (named : key.mods = {} → ∀ c, key.code ≠ .char c) : key.Written key.bracketed := by
  refine .named _ (ofName?_name canonical named) fun late mem => ?_
  rcases List.mem_append.1 mem with mem | mem
  · unfold modsName at mem
    split_ifs at mem <;> simp at mem
  · apply late
    have bracket := eq_of_mem_codeName mem
    exact ⟨bracket, fun none => named none _ bracket⟩

theorem Canonical.written {key : Key} (canonical : key.Canonical) : key.Written key.display := by
  unfold display
  split
  · rename_i c is
    split
    · rename_i none
      have same : key = char c := by
        obtain ⟨code, mods⟩ := key
        cases is
        cases none
        rfl
      split
      · rename_i bracket
        subst same bracket
        exact .named "lt".toList ((ofName?_bare (by decide)).trans (by decide)) fun _ => by decide
      · rename_i apart
        split
        · rename_i blank
          subst same blank
          exact .named "Space".toList ((ofName?_bare (by decide)).trans (by decide)) fun _ => by
            decide
        · exact .typed c (canonical.types c is none) apart same
    · rename_i modified
      exact written_bracketed canonical fun none => absurd none modified
  · rename_i other
    exact written_bracketed canonical fun _ => other

theorem upToClose?_append {name : List Char} (clear : '>' ∉ name) (rest : List Char) :
    upToClose? (name ++ '>' :: rest) = some (name, rest) := by
  induction name with
  | nil => rfl
  | cons c name ih =>
      rw [List.mem_cons, not_or] at clear
      rw [List.cons_append, upToClose?, if_neg (Ne.symm clear.1), ih clear.2]
      rfl

theorem readTypedFrom_plain {c : Char} (apart : c ≠ '<') (before text : List Char) :
    readTypedFrom before (c :: text) = readTypedFrom (c :: before) text := by
  rw [readTypedFrom, if_neg apart]

theorem readTypedFrom_named {name : List Char} {key : Key} (reads : ofName? name = some key)
    (clear : '>' ∉ name) (before rest : List Char) :
    readTypedFrom before ('<' :: (name ++ ['>']) ++ rest) =
      ofText before.reverse ++ key :: readTypedFrom [] rest := by
  have close := upToClose?_append clear rest
  have text : '<' :: (name ++ ['>']) ++ rest = '<' :: (name ++ '>' :: rest) := by simp
  have found : ∃ shorter, bracketed? (name ++ '>' :: rest) = some (key, ⟨rest, shorter⟩) := by
    unfold bracketed?
    split
    · rename_i none
      rw [close] at none
      contradiction
    · rename_i other behind same
      rw [close] at same
      cases same
      rw [reads]
      exact ⟨length_of_upToClose? close, rfl⟩
  obtain ⟨shorter, found⟩ := found
  rw [text, readTypedFrom, if_pos rfl, found]

/-- Written keys are read one by one, and what was typed before them stays in front. -/
theorem readTypedFrom_display {keys : List Key} (canonical : ∀ key ∈ keys, key.Canonical)
    (closed : ∀ key ∈ keys, ¬ key.ClosesEarly) {before : List Char} (types : ∀ c ∈ before, Types c) :
    readTypedFrom before (keys.flatMap display) = before.reverse.map char ++ keys := by
  have typed : ofText before.reverse = before.reverse.map char :=
    ofText_eq_map fun c mem => types c (List.mem_reverse.1 mem)
  induction keys generalizing before with
  | nil => rw [List.flatMap_nil, readTypedFrom, typed, List.append_nil]
  | cons key keys ih =>
      rw [List.forall_mem_cons] at canonical closed
      rw [List.flatMap_cons]
      have written := canonical.1.written
      generalize key.display = text at written
      cases written with
      | typed c inText apart is =>
          have all : ∀ other ∈ c :: before, Types other := List.forall_mem_cons.2 ⟨inText, types⟩
          rw [List.singleton_append, readTypedFrom_plain apart, ih canonical.2 closed.2 all
            (ofText_eq_map fun other mem => all other (List.mem_reverse.1 mem)), is]
          simp
      | named name reads clear =>
          rw [readTypedFrom_named reads (clear closed.1), typed,
            ih canonical.2 closed.2 (by simp) (ofText_eq_map (by simp))]
          rfl

theorem readToken_display {key : Key} (canonical : key.Canonical) :
    readToken key.display = .ok [key] := by
  have written := canonical.written
  generalize key.display = text at written
  unfold readToken
  cases written with
  | typed c types apart is =>
      have outside : unbracket? [c] = none := by
        unfold unbracket?
        split
        · rename_i same
          exact absurd (List.cons.inj same).1 apart
        · rfl
      have noName : (ofName? [c]).or (caret? [c]) = none := by
        rw [ofName?_bare (modifierWord?_single c), baseName?_single]
        simp [caret?]
      rw [outside]
      dsimp only [Option.getD_none]
      rw [noName, is]
      exact congrArg Except.ok (ofText_eq_map (by simpa using types))
  | named name reads clear =>
      have inside : unbracket? ('<' :: (name ++ ['>'])) = some name := by
        simp [unbracket?]
      rw [inside]
      dsimp only [Option.getD_some]
      rw [reads]
      rfl

/-- Written keys are read back: any of them in a row, but for a modified closing bracket, and each of them as a
token of its own. -/
theorem display_round_trip :
    (∀ keys : List Key, (∀ key ∈ keys, key.Producible ∧ ¬ key.ClosesEarly) →
        readTyped (keys.flatMap display) = keys) ∧
      ∀ key : Key, key.Producible → readToken key.display = .ok [key] := by
  constructor
  · intro keys all
    have read : readTypedFrom [] (keys.flatMap display) = [].reverse.map char ++ keys :=
      readTypedFrom_display (fun key mem => (all key mem).1.canonical) (fun key mem => (all key mem).2) (by simp)
    simpa [readTyped] using read
  · exact fun key producible => readToken_display producible.canonical

/-- Angle brackets, modifiers and a character that is not ASCII. -/
theorem display_round_trip_brackets :
    ∃ keys, keys = [char 'g', char '<', char '>', ctrl 'r', ⟨.char '<', { alt := true }⟩, char ' ',
        ⟨.char '-', { shift := true }⟩, ⟨.left, ⟨true, true, true⟩⟩, char '語'] ∧
      readTyped (keys.flatMap display) = keys ∧ readToken (ctrl '>').display = .ok [ctrl '>'] := by
  refine ⟨_, rfl, display_round_trip.1 _ fun key mem => ⟨?_, ?_⟩, display_round_trip.2 _ ?_⟩
  · refine .inr (.inl ⟨"g<lt>><C-R><M-<> <S--><C-M-S-left>語".toList, ?_⟩)
    revert key
    decide +kernel
  · revert key
    decide
  · exact .inr (.inr ⟨"C->".toList, [ctrl '>'], by decide +kernel, List.mem_singleton_self _⟩)

end Key

end ModalPanes
