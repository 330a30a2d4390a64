import ModalPanes.Key.Decoder

/-!
# Keys from names

Scripts write keys by name: `Escape`, `C-r`, `<Left>`, `^W`.  A name is read without regard to case,
except for the single character behind a modifier.  `readTyped` reads text with bracketed names in it,
`readToken` one element of a list of keys.
-/

namespace ModalPanes

/-- Why a key token is refused. -/
inductive KeyError where
  | empty
  | unknownName (name : List Char)
deriving DecidableEq

namespace KeyError

def message : KeyError → List Char
  | .empty => "empty key token".toList
  | .unknownName name => "unknown key name \x60".toList ++ name ++ ['\x60']

end KeyError

namespace Key

/-- The keys that have a name, by their names in lower case. -/
def names : List (String × KeyCode) :=
  [("esc", .escape), ("escape", .escape), ("cr", .enter), ("enter", .enter), ("return", .enter),
    ("bs", .backspace), ("backspace", .backspace), ("tab", .tab), ("space", .char ' '),
    ("lt", .char '<'), ("del", .delete), ("delete", .delete), ("insert", .insert), ("up", .up),
    ("down", .down), ("left", .left), ("right", .right), ("home", .home), ("end", .endKey),
    ("pageup", .pageUp), ("pagedown", .pageDown)]

def baseName? (name : List Char) : Option Key :=
  (names.lookup (String.ofList (name.map Char.toLower))).map plain

/-- The words that stand for modifiers, each with its dash, longest first. -/
def modifierWords : List (List Char × Modifiers) :=
  [("ctrl-".toList, { ctrl := true }), ("shift-".toList, { shift := true }),
    ("alt-".toList, { alt := true }), ("c-".toList, { ctrl := true }),
    ("m-".toList, { alt := true }), ("a-".toList, { alt := true }),
    ("s-".toList, { shift := true })]

def modifierWord? (name : List Char) : Option (Modifiers × Nat) :=
  (modifierWords.find? fun word => word.1.isPrefixOf (name.map Char.toLower)).map
    fun word => (word.2, word.1.length)

/-- Every modifier word has at least two characters. -/
theorem two_le_of_modifierWord? {name : List Char} {mods : Modifiers} {length : Nat}
    (found : modifierWord? name = some (mods, length)) : 2 ≤ length ∧ length ≤ name.length := by
  unfold modifierWord? at found
  obtain ⟨word, hword, heq⟩ := Option.map_eq_some_iff.1 found
  have member := List.mem_of_find?_eq_some hword
  have pre := List.find?_some hword
  have lengths := (List.isPrefixOf_iff_prefix.1 pre).length_le
  simp only [Prod.mk.injEq] at heq
  have two : 2 ≤ word.1.length := by
    simp only [modifierWords, List.mem_cons, List.not_mem_nil, or_false] at member
    rcases member with rfl | rfl | rfl | rfl | rfl | rfl | rfl <;> decide
  simp only [List.length_map] at lengths
  omega

/-- All modifiers in front of a name, and the name behind them. -/
def splitModifiers (name : List Char) : Modifiers × List Char :=
  match _found : modifierWord? name with
  | none => ({}, name)
  | some (mods, length) =>
      let later := splitModifiers (name.drop length)
      (mods.union later.1, later.2)
termination_by name.length
decreasing_by
  have bound := two_le_of_modifierWord? _found
  simp only [List.length_drop]
  omega

def single? : List Char → Option Key
  | [c] => some (char c)
  | _ => none

/-- Ctrl knows no upper case. -/
def lowerUnderCtrl (mods : Modifiers) (key : Key) : KeyCode :=
  match key.code with
  | .char c => .char (if mods.ctrl then c.toLower else c)
  | code => code

/-- The key that a name stands for.  A single character is a name only behind a modifier. -/
def ofName? (name : List Char) : Option Key :=
  let split := splitModifiers name
  if split.1 = {} then baseName? name
  else
    ((baseName? split.2).or (single? split.2)).map fun key =>
      ⟨lowerUnderCtrl split.1 key, key.mods.union split.1⟩

/-- The text up to the first closing bracket, and the text behind it. -/
def upToClose? : List Char → Option (List Char × List Char)
  | [] => none
  | c :: text =>
      if c = '>' then some ([], text)
      else (upToClose? text).map fun found => (c :: found.1, found.2)

/-- What follows a closing bracket is shorter than the whole. -/
theorem length_of_upToClose? {text name rest : List Char}
    (found : upToClose? text = some (name, rest)) : rest.length < text.length := by
  induction text generalizing name with
  | nil => simp [upToClose?] at found
  | cons c text ih =>
      unfold upToClose? at found
      split at found
      · simp only [Option.some.injEq, Prod.mk.injEq] at found
        simp [← found.2]
      · obtain ⟨later, hlater, heq⟩ := Option.map_eq_some_iff.1 found
        simp only [Prod.mk.injEq] at heq
        have := @ih later.1 (by rw [hlater, ← heq.2])
        simp only [List.length_cons]
        omega

/-- The key named at the front of a text that follows an opening bracket, and the text behind it. -/
def bracketed? (text : List Char) : Option (Key × { rest : List Char // rest.length < text.length }) :=
  match found : upToClose? text with
  | none => none
  | some (name, rest) => (ofName? name).map fun key => (key, ⟨rest, length_of_upToClose? found⟩)

/-- The keys of a text of characters, as a terminal would send them. -/
def ofText (text : List Char) : List Key :=
  decode (text.flatMap String.utf8EncodeChar)

/-- The keys of a text in which names of keys stand in brackets; `before` holds, backwards, the plain
text since the last name.  Brackets around anything else are plain text. -/
def readTypedFrom (before : List Char) : List Char → List Key
  | [] => ofText before.reverse
  | c :: text =>
      if c = '<' then
        match bracketed? text with
        | some (key, rest) => ofText before.reverse ++ key :: readTypedFrom [] rest.1
        | none => readTypedFrom (c :: before) text
      else readTypedFrom (c :: before) text
termination_by text => text.length
decreasing_by
  · have := rest.2
    simp only [List.length_cons]
    omega
  · simp
  · simp

/-- The keys of a text that mixes raw characters with names in brackets. -/
def readTyped (text : List Char) : List Key :=
  readTypedFrom [] text

def caret? : List Char → Option Key
  | ['^', c] => if c.isAlpha then some (ctrl c.toLower) else none
  | _ => none

/-- The inside of a token in brackets. -/
def unbracket? : List Char → Option (List Char)
  | '<' :: text => if text.getLast? = some '>' then some text.dropLast else none
  | _ => none

/-- The keys of one token: a name, bare or in brackets, or else text typed key by key.  A name in
brackets has to be known. -/
def readToken (token : List Char) : Except KeyError (List Key) :=
  if token.isEmpty then .error .empty
  else
    let inside := unbracket? token
    let bare := inside.getD token
    match (ofName? bare).or (caret? bare) with
    | some key => .ok [key]
    | none => if inside.isSome then .error (.unknownName bare) else .ok (ofText token)

end Key

end ModalPanes
