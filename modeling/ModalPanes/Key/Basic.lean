/-!
# Keys

A key press is a key together with the modifiers held down.  Every key has a written form in angle
brackets, and the keys that type a character are told apart from commands by `Key.typed?`.
-/

namespace ModalPanes

/-- The modifier keys held down during a key press. -/
structure Modifiers where
  shift : Bool := false
  alt : Bool := false
  ctrl : Bool := false
deriving DecidableEq, Inhabited

namespace Modifiers

def none : Modifiers := {}

def union (a b : Modifiers) : Modifiers :=
  ⟨a.shift || b.shift, a.alt || b.alt, a.ctrl || b.ctrl⟩

/-- The numeric form: one for Shift, two for Alt, four for Ctrl. -/
def bits (mods : Modifiers) : Nat :=
  mods.shift.toNat + 2 * mods.alt.toNat + 4 * mods.ctrl.toNat

/-- The modifiers whose bits are set; higher bits mean nothing. -/
def ofBits (n : Nat) : Modifiers :=
  ⟨n.testBit 0, n.testBit 1, n.testBit 2⟩

@[simp] theorem ofBits_bits (mods : Modifiers) : ofBits mods.bits = mods := by
  obtain ⟨shift, alt, ctrl⟩ := mods
  cases shift <;> cases alt <;> cases ctrl <;> rfl

@[simp] theorem union_none (mods : Modifiers) : mods.union none = mods := by
  simp [union, none]

end Modifiers

/-- Which key was pressed. -/
inductive KeyCode where
  | char (c : Char)
  | enter
  | tab
  | backspace
  | escape
  | delete
  | insert
  | up
  | down
  | left
  | right
  | home
  | endKey
  | pageUp
  | pageDown
deriving DecidableEq, Inhabited

/-- A key press. -/
structure Key where
  code : KeyCode
  mods : Modifiers := {}
deriving DecidableEq, Inhabited

namespace Key

def char (c : Char) : Key := ⟨.char c, {}⟩

def plain (code : KeyCode) : Key := ⟨code, {}⟩

def ctrl (c : Char) : Key := ⟨.char c, { ctrl := true }⟩

/-- The character that the key types, if neither Ctrl nor Alt turns it into a command. -/
def typed? (key : Key) : Option Char :=
  match key.code with
  | .char c => if key.mods.ctrl || key.mods.alt then none else some c
  | _ => none

/-- Ctrl alone with the given character. -/
def isCtrl (key : Key) (c : Char) : Bool :=
  key == ctrl c

@[simp] theorem typed?_char (c : Char) : (char c).typed? = some c := rfl

@[simp] theorem typed?_ctrl (c : Char) : (ctrl c).typed? = none := rfl

def codeName : KeyCode → List Char
  | .char c => if c = ' ' then "Space".toList else [c]
  | .enter => "CR".toList
  | .tab => "Tab".toList
  | .backspace => "BS".toList
  | .escape => "Esc".toList
  | .delete => "Del".toList
  | .insert => "Insert".toList
  | .up => "Up".toList
  | .down => "Down".toList
  | .left => "Left".toList
  | .right => "Right".toList
  | .home => "Home".toList
  | .endKey => "End".toList
  | .pageUp => "PageUp".toList
  | .pageDown => "PageDown".toList

def modsName (mods : Modifiers) : List Char :=
  (if mods.ctrl then ['C', '-'] else []) ++ (if mods.alt then ['M', '-'] else []) ++
    (if mods.shift then ['S', '-'] else [])

def bracketed (key : Key) : List Char :=
  '<' :: (modsName key.mods ++ codeName key.code ++ ['>'])

/-- The written form: an unmodified character stands for itself, except the opening bracket and the
space; every other key is a name in brackets. -/
def display (key : Key) : List Char :=
  match key.code with
  | .char c =>
      if key.mods = {} then
        if c = '<' then "<lt>".toList else if c = ' ' then "<Space>".toList else [c]
      else bracketed key
  | _ => bracketed key

end Key

end ModalPanes
