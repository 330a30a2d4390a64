import ModalPanes.Ex
import Mathlib.Algebra.Ring.Parity
import Mathlib.Data.List.Perm.Basic

/-!
# Reading a substitution back

A substitution is written as a range, its name, and three parts behind delimiters, with a backslash in front of
every delimiter inside a part.  Two scanners take it apart again.  The one that splits skips whatever stands behind
a backslash, so that it must meet backslashes in pairs wherever a delimiter or the end of the part follows; the one
that takes the backslashes away only looks for a delimiter behind one.  On such parts the two agree, and the range in
front of the name is read on its own, because no range goes on with a letter.
-/

namespace ModalPanes

variable {delimiter c : Char} {text rest digits front : List Char}

namespace Ex

section Escaping

/-- The text with a backslash in front of each delimiter. -/
def escape (delimiter : Char) (text : List Char) : List Char :=
  text.flatMap fun c => if c = delimiter then ['\\', c] else [c]

theorem escape_delimiter (delimiter : Char) (text : List Char) :
    escape delimiter (delimiter :: text) = '\\' :: delimiter :: escape delimiter text := by
  unfold escape
  rw [List.flatMap_cons, if_pos rfl]
  rfl

theorem escape_char (other : c ≠ delimiter) (text : List Char) :
    escape delimiter (c :: text) = c :: escape delimiter text := by
  unfold escape
  rw [List.flatMap_cons, if_neg other]
  rfl

theorem head?_escape (ordinary : delimiter ≠ '\\') (text : List Char) :
    (escape delimiter text).head? ≠ some delimiter := by
  cases text with
  | nil => nofun
  | cons c text =>
      by_cases same : c = delimiter
      · rw [same, escape_delimiter]
        simpa using Ne.symm ordinary
      · rw [escape_char same]
        simpa using same

theorem unescape_cons (other : text.head? ≠ some delimiter) (c : Char) :
    unescape delimiter (c :: text) = c :: unescape delimiter text := by
  cases text with
  | nil => rfl
  | cons d text =>
      have differs : d ≠ delimiter := by simpa using other
      rw [unescape, if_neg (fun both => differs both.2)]

/-- Whatever its backslashes are, a text is what is left of it once the escapes are taken away again. -/
theorem unescape_escape (ordinary : delimiter ≠ '\\') (text : List Char) :
    unescape delimiter (escape delimiter text) = text := by
  induction text with
  | nil => rfl
  | cons c text ih =>
      by_cases same : c = delimiter
      · rw [same, escape_delimiter, unescape, if_pos ⟨rfl, rfl⟩, ih]
      · rw [escape_char same, unescape_cons (head?_escape ordinary text), ih]

/-- The number of backslashes at the end of a text. -/
def backslashes (text : List Char) : Nat := (text.reverse.takeWhile (· == '\\')).length

/-- Behind a text that ends in backslashes in pairs, the number stays even or odd. -/
theorem even_backslashes_append (pairs : Even (backslashes front)) (text : List Char) :
    Even (backslashes (front ++ text)) ↔ Even (backslashes text) := by
  unfold backslashes at pairs ⊢
  rw [List.reverse_append, List.takeWhile_append]
  split
  · rename_i all
    rw [List.length_append, ← all, Nat.even_add, iff_true_right pairs]
  · rfl

/-- Every run of backslashes in front of a delimiter or at the end of the text has even length. -/
def EvenRuns (delimiter : Char) (text : List Char) : Prop :=
  ∀ i ≤ text.length, text[i]? = none ∨ text[i]? = some delimiter → Even (backslashes (text.take i))

instance (delimiter : Char) (text : List Char) : Decidable (EvenRuns delimiter text) :=
  inferInstanceAs (Decidable (∀ i ≤ text.length, _ → _))

theorem EvenRuns.behind (even : EvenRuns delimiter (front ++ text)) (pairs : Even (backslashes front)) :
    EvenRuns delimiter text := by
  intro i within next
  have later := even (front.length + i) (by rw [List.length_append]; omega)
    (by rwa [List.getElem?_append_right (Nat.le_add_right ..), Nat.add_sub_cancel_left])
  rwa [List.take_length_add_append, even_backslashes_append pairs] at later

theorem EvenRuns.behind_char (plain : c ≠ '\\') (even : EvenRuns delimiter (c :: text)) :
    EvenRuns delimiter text := by
  have whole : EvenRuns delimiter ([c] ++ text) := even
  exact whole.behind (by simp [backslashes, plain])

theorem EvenRuns.behind_escape (even : EvenRuns delimiter ('\\' :: c :: text)) : EvenRuns delimiter text := by
  have whole : EvenRuns delimiter (['\\', c] ++ text) := even
  refine whole.behind ?_
  by_cases again : c = '\\' <;> simp [backslashes, again]

/-- No backslash stands alone in front of a delimiter or at the end. -/
theorem EvenRuns.next (even : EvenRuns delimiter ('\\' :: text)) : ∃ c rest, text = c :: rest ∧ c ≠ delimiter := by
  have alone : ¬ Even (backslashes (('\\' :: text).take 1)) := Nat.not_even_one
  cases text with
  | nil => exact absurd (even 1 (Nat.le_refl _) (.inl rfl)) alone
  | cons c text =>
      refine ⟨c, text, rfl, ?_⟩
      rintro rfl
      exact alone (even 1 (Nat.le_add_left ..) (.inr rfl))

theorem splitUnescaped?_char (other : c ≠ delimiter) (plain : c ≠ '\\') (text : List Char) :
    splitUnescaped? delimiter (c :: text) =
      (splitUnescaped? delimiter text).map fun parts => (c :: parts.1, parts.2) := by
  cases text <;> simp [splitUnescaped?, other, plain]

/-- An escaped part ends at the first delimiter behind it. -/
theorem splitUnescaped?_escape (ordinary : delimiter ≠ '\\') (even : EvenRuns delimiter text) (rest : List Char) :
    splitUnescaped? delimiter (escape delimiter text ++ delimiter :: rest) =
      some (escape delimiter text, rest) := by
  -- by the length of the text, since a backslash is skipped together with the character behind it
  induction length : text.length using Nat.strong_induction_on generalizing text with
  | _ n ih =>
      have shorter : ∀ {text : List Char}, text.length < n → EvenRuns delimiter text →
          splitUnescaped? delimiter (escape delimiter text ++ delimiter :: rest) =
            some (escape delimiter text, rest) := fun lt even => ih _ lt even rfl
      cases text with
      | nil => simp [escape, splitUnescaped?, ordinary]
      | cons c text =>
          rw [List.length_cons] at length
          by_cases isDelimiter : c = delimiter
          · subst isDelimiter
            have behind : EvenRuns c text := EvenRuns.behind_char ordinary even
            rw [escape_delimiter, List.cons_append, List.cons_append, splitUnescaped?, shorter (by omega) behind]
            rfl
          · by_cases escapes : c = '\\'
            · subst escapes
              obtain ⟨d, later, rfl, other⟩ := even.next
              rw [List.length_cons] at length
              have behind : EvenRuns delimiter later := even.behind_escape
              rw [escape_char (Ne.symm ordinary), escape_char other, List.cons_append, List.cons_append,
                splitUnescaped?, shorter (by omega) behind]
              rfl
            · have behind : EvenRuns delimiter text := even.behind_char escapes
              rw [escape_char isDelimiter, List.cons_append, splitUnescaped?_char isDelimiter escapes,
                shorter (by omega) behind]
              rfl

end Escaping

end Ex

section Flags

/-- The letters of the flags that are set. -/
def SubstituteFlags.letters (flags : SubstituteFlags) : List Char :=
  (if flags.global then ['g'] else []) ++ (if flags.ignoreCase then ['i'] else []) ++
    if flags.countOnly then ['n'] else []

theorem SubstituteFlags.mem_letters {flags : SubstituteFlags} (mem : c ∈ flags.letters) : c ∈ ['g', 'i', 'n'] := by
  have only : ∀ {isSet : Bool} {letter : Char}, (c ∈ if isSet then [letter] else []) → c = letter := by
    intro isSet letter mem
    cases isSet with
    | true => exact List.mem_singleton.1 mem
    | false => contradiction
  rcases List.mem_append.1 mem with front | last
  · rcases List.mem_append.1 front with first | second
    · exact only first ▸ List.mem_cons_self
    · exact only second ▸ List.mem_cons_of_mem _ List.mem_cons_self
  · exact only last ▸ List.mem_cons_of_mem _ (List.mem_cons_of_mem _ List.mem_cons_self)

/-- The order of the letters does not matter. -/
theorem Ex.flags_perm {letters others : List Char} (perm : letters.Perm others) : flags letters = flags others := by
  unfold flags
  refine List.Perm.foldl_eq' perm (fun c _ d _ flags => ?_) _
  split_ifs <;> rfl

theorem Ex.flags_letters {flags : SubstituteFlags} {letters : List Char} (perm : letters.Perm flags.letters) :
    Ex.flags letters = flags := by
  rw [flags_perm perm]
  obtain ⟨global, ignoreCase, countOnly⟩ := flags
  cases global <;> cases ignoreCase <;> cases countOnly <;> rfl

end Flags

section Ranges

/-- How an address is written: by its number, counted from one, or by a sign.  A number beyond a machine word stands
for the largest one. -/
inductive Address.Written : List Char → Address → Prop where
  | line {digits : List Char} (all : ∀ c ∈ digits, c.isDigit = true) (positive : 1 ≤ Numeral.value digits) :
      Written digits (.line (Numeral.saturate (Numeral.value digits) - 1))
  | current : Written ['.'] .current
  | last : Written ['$'] .last

inductive LineRange.Written : List Char → LineRange → Prop where
  | currentLine : Written [] .currentLine
  | all : Written ['%'] .all
  | visual : Written "\x27<,\x27>".toList .visual
  | one {text : List Char} {address : Address} (written : address.Written text) :
      Written text (.lines address address)
  | both {text later : List Char} {first second : Address} (written : first.Written text)
      (behind : second.Written later) : Written (text ++ ',' :: later) (.lines first second)

variable {address : Address} {range : LineRange}

theorem Numeral.read?_digits (all : ∀ c ∈ digits, c.isDigit = true) (some : digits ≠ []) :
    (Numeral.read? digits).getD Numeral.largest = Numeral.saturate (Numeral.value digits) := by
  rw [Numeral.read?_of_digits all some]
  unfold Numeral.saturate
  split
  · rename_i le
    rw [Nat.min_eq_left le]
    rfl
  · rename_i gt
    rw [Nat.min_eq_right (Nat.le_of_not_le gt)]
    rfl

theorem Address.Written.start (written : address.Written text) :
    ∃ c rest, text = c :: rest ∧ (c.isDigit = true ∨ c = '.' ∨ c = '$') := by
  cases written with
  | @line _ all positive =>
      cases text with
      | nil => exact absurd positive (by decide)
      | cons c rest => exact ⟨c, rest, rfl, .inl (all c List.mem_cons_self)⟩
  | current => exact ⟨'.', [], rfl, .inr (.inl rfl)⟩
  | last => exact ⟨'$', [], rfl, .inr (.inr rfl)⟩

/-- An address is read up to the next character that is no digit. -/
theorem Ex.address?_written (written : address.Written text) (ends : c.isDigit = false) (rest : List Char) :
    address? (text ++ c :: rest) = some (address, c :: rest) := by
  cases written with
  | current => rfl
  | last => rfl
  | @line _ all positive =>
      have some : text ≠ [] := by
        rintro rfl
        exact absurd positive (by decide)
      have digits : (text ++ c :: rest).takeWhile Char.isDigit = text := by
        rw [List.takeWhile_append_of_pos all, List.takeWhile_cons_of_neg (by simp [ends]), List.append_nil]
      unfold address?
      split
      · rename_i later dot
        obtain ⟨d, digitsLater, rfl⟩ := List.exists_cons_of_ne_nil some
        obtain ⟨rfl, -⟩ := List.cons.inj dot
        exact absurd (all '.' List.mem_cons_self) (by decide)
      · rename_i later dollar
        obtain ⟨d, digitsLater, rfl⟩ := List.exists_cons_of_ne_nil some
        obtain ⟨rfl, -⟩ := List.cons.inj dollar
        exact absurd (all '$' List.mem_cons_self) (by decide)
      · dsimp only
        rw [digits, List.isEmpty_eq_false_iff.2 some, Numeral.read?_digits all some, List.drop_left]
        rfl

/-- A range is read up to the name of the command. -/
theorem Ex.range_written (written : range.Written front) (rest : List Char) :
    Ex.range (front ++ 's' :: rest) = (range, 's' :: rest) := by
  have unsigned : ∀ {c : Char} (later : List Char), c.isDigit = true ∨ c = '.' ∨ c = '$' →
      behind? ['%'] (c :: later) = none ∧ behind? "\x27<,\x27>".toList (c :: later) = none := by
    intro c later starts
    have other : '%' ≠ c ∧ '\'' ≠ c := by
      constructor <;>
      · rintro rfl
        rcases starts with digit | dot | dollar <;> contradiction
    constructor
    · simp [behind?, other.1]
    · simp [behind?, other.2]
  cases written with
  | currentLine => rfl
  | all => rfl
  | visual => rfl
  | one written =>
      have read := address?_written written (by decide : 's'.isDigit = false) rest
      obtain ⟨c, later, rfl, starts⟩ := written.start
      obtain ⟨percent, marks⟩ := unsigned (later ++ 's' :: rest) starts
      rw [List.cons_append] at read ⊢
      unfold Ex.range
      rw [percent, marks, read]
      rfl
  | @both text later first second written behind =>
      have read := address?_written written (by decide : ','.isDigit = false) (later ++ 's' :: rest)
      have next := address?_written behind (by decide : 's'.isDigit = false) rest
      rw [List.append_assoc, List.cons_append]
      obtain ⟨c, more, rfl, starts⟩ := written.start
      obtain ⟨percent, marks⟩ := unsigned (more ++ ',' :: (later ++ 's' :: rest)) starts
      rw [List.cons_append] at read ⊢
      unfold Ex.range
      rw [percent, marks, read]
      dsimp only
      rw [show behind? [','] (',' :: (later ++ 's' :: rest)) = some (later ++ 's' :: rest) from rfl,
        Option.bind_some, next]

/-- A command with a range does not start with what is skipped in front of it. -/
theorem LineRange.Written.dropWhile (written : range.Written front) (rest : List Char) :
    (front ++ 's' :: rest).dropWhile (fun c => c == ' ' || c == ':') = front ++ 's' :: rest := by
  obtain ⟨c, later, starts, other⟩ : ∃ c later, front ++ 's' :: rest = c :: later ∧ c ≠ ' ' ∧ c ≠ ':' := by
    have started : ∀ {text : List Char} {address : Address}, address.Written text → ∀ more,
        ∃ c later, text ++ more = c :: later ∧ c ≠ ' ' ∧ c ≠ ':' := by
      intro text address written more
      obtain ⟨c, later, rfl, starts⟩ := written.start
      refine ⟨c, _, rfl, ?_⟩
      constructor <;>
      · rintro rfl
        rcases starts with digit | dot | dollar <;> contradiction
    cases written with
    | currentLine => exact ⟨'s', rest, rfl, by decide⟩
    | all => exact ⟨'%', _, rfl, by decide⟩
    | visual => exact ⟨'\'', _, rfl, by decide⟩
    | one written => exact started written _
    | both written behind =>
        rw [List.append_assoc]
        exact started written _
  rw [starts, List.dropWhile_cons_of_neg (by simp [other])]

end Ranges

/-- A character that separates the parts of a substitution, wherever it stands. -/
def Separates (c : Char) : Prop :=
  Unicode.isAlphanumeric c = false ∧ Unicode.isSpace c = false ∧ c ∉ ['\\', '"', '|']

instance (c : Char) : Decidable (Separates c) :=
  inferInstanceAs (Decidable (_ = false ∧ _ = false ∧ c ∉ _))

/-- Nothing is taken from the end of a text that does not end in white space. -/
theorem Blank.trimEnd_append (text : List Char) (ends : Unicode.isSpace c = false) :
    Blank.trimEnd (text ++ [c]) = text ++ [c] := by
  unfold Blank.trimEnd
  rw [List.reverse_append, List.reverse_singleton, List.singleton_append,
    List.dropWhile_cons_of_neg (by simp [ends]), List.reverse_cons, List.reverse_reverse]

namespace Ex

theorem substituteBody?_delimiter (separates : Separates delimiter) (rest : List Char) :
    substituteBody? ('s' :: delimiter :: rest) = some (delimiter :: rest) := by
  obtain ⟨letter, space, others⟩ := separates
  have long : 'u' ≠ delimiter := by
    rintro rfl
    exact absurd letter (by decide +kernel)
  have blank : delimiter ≠ ' ' := by
    rintro rfl
    exact absurd space (by decide +kernel)
  have admitted : isDelimiter delimiter = true := by simp_all [isDelimiter]
  unfold substituteBody?
  simp [behind?, long, admitted]

/-- What stands behind the name of the command is taken apart at its delimiters. -/
theorem substitution_escape {range : LineRange} {pattern replacement letters : List Char} {flags : SubstituteFlags}
    (ordinary : delimiter ≠ '\\') (evenPattern : EvenRuns delimiter pattern)
    (evenReplacement : EvenRuns delimiter replacement) (chosen : letters.Perm flags.letters) :
    substitution range (delimiter :: (escape delimiter pattern ++ delimiter ::
        (escape delimiter replacement ++ delimiter :: letters))) =
      .substitute range pattern replacement flags := by
  unfold substitution
  simp only [splitUnescaped?_escape ordinary evenPattern, splitUnescaped?_escape ordinary evenReplacement,
    Option.getD_some, unescape_escape ordinary, flags_letters chosen]

/-- A substitution is read back as it was written: its range, its pattern and replacement, whose delimiters are
escaped, and its flags in any order. -/
theorem parse_substitution {range : LineRange} {pattern replacement letters : List Char} {flags : SubstituteFlags}
    (written : range.Written front) (separates : Separates delimiter) (evenPattern : EvenRuns delimiter pattern)
    (evenReplacement : EvenRuns delimiter replacement) (chosen : letters.Perm flags.letters) :
    parse (front ++ 's' :: delimiter :: (escape delimiter pattern ++ delimiter ::
        (escape delimiter replacement ++ delimiter :: letters))) =
      .substitute range pattern replacement flags := by
  have ordinary : delimiter ≠ '\\' := by
    rintro rfl
    exact separates.2.2 List.mem_cons_self
  obtain ⟨before, last, ended, solid⟩ : ∃ before last, delimiter :: letters = before ++ [last] ∧
      Unicode.isSpace last = false := by
    refine ⟨(delimiter :: letters).dropLast, (delimiter :: letters).getLast (List.cons_ne_nil _ _),
      (List.dropLast_concat_getLast _).symm, ?_⟩
    rcases List.mem_cons.1 (List.getLast_mem (List.cons_ne_nil delimiter letters)) with same | letter
    · rw [same]
      exact separates.2.1
    · have flag := SubstituteFlags.mem_letters (chosen.mem_iff.1 letter)
      simp only [List.mem_cons, List.not_mem_nil, or_false] at flag
      rcases flag with same | same | same <;>
      · rw [same]
        decide +kernel
  generalize whole : 's' :: delimiter :: (escape delimiter pattern ++ delimiter ::
    (escape delimiter replacement ++ delimiter :: letters)) = command
  have untrimmed : Blank.trimEnd (front ++ command) = front ++ command := by
    have end_last : front ++ command = (front ++ 's' :: delimiter :: (escape delimiter pattern ++ delimiter ::
        (escape delimiter replacement ++ before))) ++ [last] := by
      rw [← whole, ended]
      simp
    rw [end_last, Blank.trimEnd_append _ solid]
  have letter : Unicode.isSpace 's' = false := by decide +kernel
  unfold parse
  subst whole
  rw [written.dropWhile]
  dsimp only
  rw [untrimmed, if_neg (by simp), range_written written]
  dsimp only
  rw [Blank.trimFront, List.dropWhile_cons_of_neg (by simp [letter]), substituteBody?_delimiter separates]
  exact substitution_escape ordinary evenPattern evenReplacement chosen

/-- Both parts hold delimiters, and backslashes in pairs in front of them; the flags stand in another order. -/
theorem parse_substitution_arrow :
    EvenRuns '→' "a\\\\→\\d".toList ∧ EvenRuns '→' "→\\\\".toList ∧
      parse "2,$s→a\\\\\\→\\d→\\→\\\\→ng".toList =
        .substitute (.lines (.line 1) .last) "a\\\\→\\d".toList "→\\\\".toList
          { global := true, countOnly := true } := by
  have evenPattern : EvenRuns '→' "a\\\\→\\d".toList := by decide
  have evenReplacement : EvenRuns '→' "→\\\\".toList := by decide
  refine ⟨evenPattern, evenReplacement, ?_⟩
  have digit : ∀ c ∈ ['2'], c.isDigit = true := List.forall_mem_singleton.2 rfl
  have two : Address.Written ['2'] (.line 1) := .line digit (by decide)
  have text : "2,$s→a\\\\\\→\\d→\\→\\\\→ng".toList = (['2'] ++ ',' :: ['$']) ++ 's' :: '→' ::
      (escape '→' "a\\\\→\\d".toList ++ '→' :: (escape '→' "→\\\\".toList ++ '→' :: ['n', 'g'])) := by decide
  have chosen : ['n', 'g'].Perm (SubstituteFlags.letters { global := true, countOnly := true }) := .swap ..
  rw [text]
  exact parse_substitution (.both two .last) (by decide +kernel) evenPattern evenReplacement chosen

/-- The first line whose number does not fit into a machine word is read as the one before it. -/
theorem parse_substitution_beyond_word :
    Numeral.value "18446744073709551616".toList = 18446744073709551616 ∧
      parse "18446744073709551616s/a/b/".toList =
        .substitute (.lines (.line (18446744073709551615 - 1)) (.line (18446744073709551615 - 1)))
          ['a'] ['b'] {} ∧
      parse "18446744073709551616s/a/b/".toList ≠
        .substitute (.lines (.line (18446744073709551616 - 1)) (.line (18446744073709551616 - 1)))
          ['a'] ['b'] {} := by
  decide +kernel

end Ex

end ModalPanes
