import ModalPanes.Options

/-!
# Options that are set back

The text that shows all options is a list of arguments which sets them: whatever the options were before, they
are those of the text afterwards.  No command leaves the values that may be assigned.
-/

namespace ModalPanes

namespace Blank

/-- The words of a text, of which the first and the last may still be empty. -/
def cut (text : List Char) : List (List Char) := text.foldr consWord [[]]

theorem cut_ne_nil (text : List Char) : cut text ≠ [] := by
  cases text with
  | nil => exact List.cons_ne_nil _ _
  | cons c text =>
      show consWord c (cut text) ≠ []
      unfold consWord
      split
      · exact List.cons_ne_nil _ _
      · split <;> exact List.cons_ne_nil _ _

/-- A blank ends the last word in front of it and begins the first one behind it. -/
theorem cut_append {c : Char} (blank : Unicode.isSpace c = true) (front rest : List Char) :
    cut (front ++ c :: rest) = cut front ++ cut rest := by
  induction front with
  | nil => simp [cut, consWord, blank]
  | cons d front ih =>
      show consWord d (cut (front ++ c :: rest)) = consWord d (cut front) ++ cut rest
      rw [ih]
      unfold consWord
      split
      · rfl
      · obtain ⟨word, words, same⟩ := List.exists_cons_of_ne_nil (cut_ne_nil front)
        simp [same]

theorem words_append {c : Char} (blank : Unicode.isSpace c = true) (front rest : List Char) :
    words (front ++ c :: rest) = words front ++ words rest := by
  show (cut (front ++ c :: rest)).filter _ = (cut front).filter _ ++ (cut rest).filter _
  rw [cut_append blank, List.filter_append]

theorem words_blank {c : Char} (blank : Unicode.isSpace c = true) (rest : List Char) :
    words (c :: rest) = words rest :=
  words_append blank [] rest

/-- A text without blanks is one word. -/
theorem words_of_unbroken {word : List Char} (some : word ≠ [])
    (unbroken : ∀ c ∈ word, Unicode.isSpace c = false) : words word = [word] := by
  have whole : cut word = [word] := by
    clear some
    induction word with
    | nil => rfl
    | cons c word ih =>
        rw [List.forall_mem_cons] at unbroken
        show consWord c (cut word) = _
        rw [ih unbroken.2, consWord, unbroken.1]
        rfl
  show (cut word).filter _ = _
  rw [whole]
  simp [some]

theorem words_joinSpaced (texts : List (List Char)) :
    words (Options.joinSpaced texts) = texts.flatMap words := by
  unfold Options.joinSpaced List.intercalate
  induction texts with
  | nil => rfl
  | cons text texts ih =>
      cases texts with
      | nil => simp
      | cons next texts =>
          rw [List.intersperse_cons_cons, List.flatten_cons, List.flatten_cons, List.singleton_append,
            words_append rfl, ih]
          rfl

end Blank

section Decimal

variable {n : Nat} {c : Char} {text : List Char}

theorem decimal_eq_toDigits (n : Nat) : decimal n = Nat.toDigits 10 n := Nat.toList_repr

theorem isDigit_of_mem_decimal (mem : c ∈ decimal n) : c.isDigit = true := by
  rw [decimal_eq_toDigits] at mem
  exact Nat.isDigit_of_mem_toDigits (by decide) (by decide) mem

theorem isSpace_of_isDigit (digit : c.isDigit = true) : Unicode.isSpace c = false := by
  have table : ∀ n < 58, 48 ≤ n → Unicode.whiteSpace.has n = false := by decide
  simp only [Char.isDigit, ge_iff_le, Bool.and_eq_true, decide_eq_true_eq, UInt32.le_iff_toNat_le] at digit
  exact table c.toNat (Nat.lt_succ_of_le digit.2) digit.1

/-- A number that fits a machine word is read back from its decimal digits. -/
theorem Numeral.read?_decimal (fits : n ≤ largest) : read? (decimal n) = some n := by
  have some : decimal n ≠ [] := by
    rw [decimal_eq_toDigits]
    exact Nat.toDigits_ne_nil
  have value : value (decimal n) = n := by
    rw [decimal_eq_toDigits]
    refine Eq.trans ?_ (Nat.ofDigitChars_ten_toDigits (n := n))
    simp only [Numeral.value, Nat.ofDigitChars, digitValue, Nat.mul_comm]
  rw [read?_of_digits (fun _ mem => isDigit_of_mem_decimal mem) some, value, if_pos fits]

theorem Numeral.le_largest (read : read? text = some n) : n ≤ largest := by
  unfold read? at read
  simp only [Option.ite_none_left_eq_some, Option.ite_none_right_eq_some, Option.some.injEq] at read
  obtain ⟨-, fits, rfl⟩ := read
  exact fits

end Decimal

namespace Options

/-- The argument that sets an option to the value that it has. -/
def argument (options : Options) : Setting → List Char
  | .flag flag => (if options.flag flag then [] else "no".toList) ++ flag.name
  | .quantity quantity => quantity.name ++ '=' :: decimal (options.quantity quantity)

/-- Give an option the value that it has in others. -/
def copy (options other : Options) : Setting → Options
  | .flag flag => options.setFlag (other.flag flag) flag
  | .quantity quantity => options.setQuantity (other.quantity quantity) quantity

/-- The values that may be assigned, all of which fit a machine word. -/
structure InRange (options : Options) : Prop where
  numberWidth : 1 ≤ options.numberWidth ∧ options.numberWidth ≤ 20
  tabStop : 1 ≤ options.tabStop ∧ options.tabStop ≤ Numeral.largest
  scrollOff : options.scrollOff ≤ Numeral.largest

theorem inRange_iff {options : Options} :
    options.InRange ↔ ∀ quantity : Quantity,
      quantity.accepts (options.quantity quantity) = true ∧ options.quantity quantity ≤ Numeral.largest := by
  have accepts : ∀ n, Quantity.numberWidth.accepts n = true ↔ 1 ≤ n ∧ n ≤ 20 := fun n => by
    simp [Quantity.accepts]
  constructor
  · rintro ⟨width, stop, off⟩ (_ | _ | _)
    · exact ⟨(accepts _).2 width, Nat.le_trans width.2 (by decide)⟩
    · exact ⟨decide_eq_true stop.1, stop.2⟩
    · exact ⟨rfl, off⟩
  · intro all
    exact ⟨(accepts _).1 (all .numberWidth).1, ⟨of_decide_eq_true (all .tabStop).1, (all .tabStop).2⟩,
      (all .scrollOff).2⟩

variable {options other next : Options}

theorem words_shown (options : Options) (setting : Setting) :
    Blank.words (options.shown setting) = [options.argument setting] := by
  cases setting with
  | flag flag =>
      cases on : options.flag flag <;> cases flag <;> simp only [shown, argument, on] <;> decide
  | quantity quantity =>
      have unbroken : ∀ c ∈ options.argument (.quantity quantity), Unicode.isSpace c = false := by
        intro c mem
        rcases List.mem_append.1 mem with named | valued
        · have names : quantity.name.any Unicode.isSpace = false := by
            cases quantity <;> rfl
          exact Bool.eq_false_iff.2 (List.any_eq_false.1 names c named)
        · rcases List.mem_cons.1 valued with rfl | digit
          · decide
          · exact isSpace_of_isDigit (isDigit_of_mem_decimal digit)
      show Blank.words (' ' :: ' ' :: options.argument (.quantity quantity)) = _
      rw [Blank.words_blank rfl, Blank.words_blank rfl, Blank.words_of_unbroken _ unbroken]
      cases quantity <;> exact List.cons_ne_nil _ _

theorem ofArgument_assignment {name : List Char} (plain : '=' ∉ name) (value : List Char) :
    Directive.ofArgument (name ++ '=' :: value) = .assign name value := by
  have contains : (name ++ '=' :: value).contains '=' = true := by simp
  have other : name ++ '=' :: value ≠ "all".toList := fun same =>
    absurd (same ▸ contains) (by decide)
  have front : ∀ c ∈ name, (c != '=') = true := fun c mem => by
    rw [bne_iff_ne]
    rintro rfl
    exact plain mem
  unfold Directive.ofArgument
  rw [if_neg other, if_pos contains, List.takeWhile_append_of_pos front, List.dropWhile_append_of_pos front]
  simp

/-- Carrying out the argument of an option copies its value and shows nothing. -/
theorem apply_argument (inRange : other.InRange) (options : Options) (setting : Setting) :
    options.apply (Directive.ofArgument (other.argument setting)) =
      .ok (options.copy other setting, none) := by
  cases setting with
  | flag flag =>
      cases on : other.flag flag <;> cases flag <;> simp only [argument, copy, on] <;> rfl
  | quantity quantity =>
      obtain ⟨accepts, fits⟩ := inRange_iff.1 inRange quantity
      have known : resolve quantity.name = .ok (.quantity quantity) := by
        cases quantity <;> rfl
      have plain : '=' ∉ quantity.name := by
        cases quantity <;> decide
      unfold argument
      rw [ofArgument_assignment plain, apply, assign]
      simp only [known, Numeral.read?_decimal fits, accepts, if_true]
      rfl

/-- Carrying out the arguments of several options copies their values. -/
theorem applyAll_arguments (inRange : other.InRange) (options : Options) (settings : List Setting) :
    options.applyAll (settings.map fun setting => Directive.ofArgument (other.argument setting)) =
      (settings.foldl (fun options => options.copy other) options, .ok []) := by
  induction settings generalizing options with
  | nil => rfl
  | cons setting settings ih =>
      rw [List.map_cons, applyAll, apply_argument inRange]
      dsimp only
      rw [ih]
      rfl

-- Every option is among those that are shown, so nothing is left of what was set before.
theorem copy_all (options other : Options) :
    Setting.all.foldl (fun options => options.copy other) options = other := rfl

theorem set_shown (inRange : other.InRange) (options : Options) :
    options.set (joinSpaced (Setting.all.map other.shown)) = (other, .ok none) := by
  have words : Blank.words (joinSpaced (Setting.all.map other.shown)) = Setting.all.map other.argument := by
    rw [Blank.words_joinSpaced, List.flatMap_map]
    simp only [words_shown]
    rfl
  have directives : Directive.ofArguments (joinSpaced (Setting.all.map other.shown)) =
      Setting.all.map fun setting => Directive.ofArgument (other.argument setting) := by
    unfold Directive.ofArguments
    rw [words]
    rfl
  unfold set
  rw [directives, applyAll_arguments inRange, copy_all]
  rfl

theorem InRange.setFlag (inRange : options.InRange) (value : Bool) (flag : Flag) :
    (options.setFlag value flag).InRange := by
  cases flag <;> exact { inRange with }

theorem InRange.setQuantity (inRange : options.InRange) {n : Nat} {quantity : Quantity}
    (accepts : quantity.accepts n = true) (fits : n ≤ Numeral.largest) :
    (options.setQuantity n quantity).InRange := by
  rw [inRange_iff] at inRange ⊢
  intro other
  by_cases same : other = quantity
  · subst same
    cases other <;> exact ⟨accepts, fits⟩
  · have kept : (options.setQuantity n quantity).quantity other = options.quantity other := by
      cases other <;> cases quantity <;> first | rfl | contradiction
    rw [kept]
    exact inRange other

theorem exists_of_map_eq_ok {ε α β : Type} {result : Except ε α} {f : α → β} {b : β}
    (mapped : result.map f = .ok b) : ∃ a, result = .ok a ∧ f a = b := by
  cases result with
  | error => contradiction
  | ok a => exact ⟨a, rfl, Except.ok.inj mapped⟩

theorem InRange.changeFlag (inRange : options.InRange) {name : List Char} {change : Bool → Bool}
    (changed : options.changeFlag name change = .ok next) : next.InRange := by
  unfold Options.changeFlag at changed
  split at changed
  · contradiction
  · contradiction
  · cases changed
    exact inRange.setFlag _ _

/-- What is read as a number fits a machine word, and is assigned only if the option accepts it. -/
theorem InRange.assign (inRange : options.InRange) {name value : List Char}
    (assigned : options.assign name value = .ok next) : next.InRange := by
  unfold Options.assign at assigned
  dsimp only at assigned
  split at assigned
  · contradiction
  · contradiction
  · split at assigned
    · contradiction
    · rename_i n read
      split at assigned
      · rename_i accepts
        cases assigned
        exact inRange.setQuantity accepts (Numeral.le_largest read)
      · contradiction

/-- A directive that succeeds leaves no option with a value that may not be assigned. -/
theorem InRange.apply (inRange : options.InRange) {directive : Directive} {echo : Option (List Char)}
    (applied : options.apply directive = .ok (next, echo)) : next.InRange := by
  cases directive with
  | showChanged | showAll =>
      cases applied
      exact inRange
  | query name =>
      obtain ⟨setting, -, same⟩ := exists_of_map_eq_ok applied
      cases same
      exact inRange
  | on name | off name | toggle name =>
      obtain ⟨changed, found, same⟩ := exists_of_map_eq_ok applied
      cases same
      exact inRange.changeFlag found
  | assign name value =>
      obtain ⟨changed, found, same⟩ := exists_of_map_eq_ok applied
      cases same
      exact inRange.assign found

theorem InRange.applyAll (inRange : options.InRange) (directives : List Directive) :
    (options.applyAll directives).1.InRange := by
  induction directives generalizing options with
  | nil => exact inRange
  | cons directive directives ih =>
      unfold Options.applyAll
      split
      · exact inRange
      · rename_i next echo applied
        exact ih (inRange.apply applied)

theorem InRange.set (inRange : options.InRange) (args : List Char) : (options.set args).1.InRange :=
  inRange.applyAll _

theorem inRange_foldl_set (inRange : options.InRange) (commands : List (List Char)) :
    (commands.foldl (fun options args => (options.set args).1) options).InRange := by
  induction commands generalizing options with
  | nil => exact inRange
  | cons args commands ih => exact ih (inRange.set args)

theorem inRange_default : ({} : Options).InRange := by
  refine ⟨?_, ?_, ?_⟩ <;> decide

/-- Showing all options shows each of them, and changes none. -/
theorem set_all (options : Options) :
    options.set "all".toList = (options, .ok (some (joinSpaced (Setting.all.map options.shown)))) := by
  have directives : Directive.ofArguments "all".toList = [.showAll] := by decide
  have alone : ∀ text, joinSpaced [text] = text := fun text => by
    simp [joinSpaced, List.intercalate]
  unfold set
  rw [directives]
  show (options, Except.ok (some (joinSpaced [joinSpaced _]))) = _
  rw [alone]

/-- What `all` shows sets the options back, whatever they are by then; and starting from the defaults, no
sequence of commands, those that fail included, leaves the values of which this is true. -/
theorem shown_sets_back (shown other : Options) (inRange : shown.InRange) (commands : List (List Char)) :
    (∃ text, shown.set "all".toList = (shown, .ok (some text)) ∧ other.set text = (shown, .ok none)) ∧
      (commands.foldl (fun options args => (options.set args).1) ({} : Options)).InRange :=
  ⟨⟨_, set_all shown, set_shown inRange other⟩, inRange_foldl_set inRange_default commands⟩

/-- Options at the ends of their ranges are set back onto others. -/
theorem shown_sets_back_largest :
    let shown : Options := { relativeNumber := true, numberWidth := 20, scrollOff := Numeral.largest }
    let other : Options := { wrap := false }
    shown.InRange ∧ (∃ text, shown.set "all".toList = (shown, .ok (some text)) ∧
      other.set text = (shown, .ok none)) ∧ (({} : Options).set "nuw=12 ts=0 so=3".toList).1.InRange := by
  intro shown other
  have inRange : shown.InRange := ⟨by decide, by decide, by decide⟩
  exact ⟨inRange, shown_sets_back shown other inRange ["nuw=12 ts=0 so=3".toList]⟩

end Options

end ModalPanes
