import ModalPanes.Session.Basic
import ModalPanes.Toml

/-!
# Settings

The settings file has the size of the terminal, the options of every pane and the key in front of the commands
of a session.  What it leaves out has a default, and what has no meaning is left out of account.
-/

namespace ModalPanes

/-- What a settings file says. -/
structure Settings where
  cols : Nat := 80
  rows : Nat := 24
  tabWidth : Nat := 8
  number : Bool := false
  relativeNumber : Bool := false
  numberWidth : Nat := 4
  filename : Option (List Char) := none
  leader : List Char := "C-b".toList
deriving DecidableEq

/-- What can be wrong with the name of the leader key: it names no key, or more than one. -/
inductive LeaderError where
  | unknown (token : List Char) (error : KeyError)
  | several (token : List Char)
deriving DecidableEq

namespace LeaderError

def message : LeaderError → List Char
  | unknown token error => named token ++ ": ".toList ++ error.message
  | several token => named token ++ " must be a single key".toList
where
  named (token : List Char) : List Char := "multiplexer prefix \x60".toList ++ token ++ ['\x60']

end LeaderError

namespace Settings

def largestSize : Nat := 65535

/-- The widest number column that is used. -/
def largestNumberWidth : Nat := 20

def ofEntries? (entries : Toml.Entries) : Option Settings := do
  let terminal ← Toml.readKey entries "terminal" [] Toml.entries?
  let editor ← Toml.readKey entries "editor" [] Toml.entries?
  let multiplexer ← Toml.readKey entries "multiplexer" [] Toml.entries?
  let base : Settings := {}
  let cols ← Toml.readKey terminal "cols" base.cols (Toml.natUpTo? largestSize)
  let rows ← Toml.readKey terminal "rows" base.rows (Toml.natUpTo? largestSize)
  let tabWidth ← Toml.readKey editor "tab_width" base.tabWidth (Toml.natUpTo? Numeral.largest)
  let number ← Toml.readKey editor "number" base.number Toml.bool?
  let relativeNumber ← Toml.readKey editor "relativenumber" base.relativeNumber Toml.bool?
  let numberWidth ← Toml.readKey editor "numberwidth" base.numberWidth (Toml.natUpTo? Numeral.largest)
  let filename ← Toml.readKey editor "filename" base.filename fun value => value.text?.map some
  let leader ← Toml.readKey multiplexer "prefix" base.leader Toml.text?
  return ⟨cols, rows, tabWidth, number, relativeNumber, numberWidth, filename, leader⟩

def read? (file : List Char) : Option Settings := (Toml.read? file).bind ofEntries?

/-- The options of every pane; widths are brought into their bounds. -/
def options (settings : Settings) : Options :=
  { number := settings.number
    relativeNumber := settings.relativeNumber
    numberWidth := max 1 (min settings.numberWidth largestNumberWidth)
    tabStop := max settings.tabWidth 1 }

def leaderKey (settings : Settings) : Except LeaderError Key :=
  let token := Blank.trim settings.leader
  match Key.readToken token with
  | .ok [key] => .ok key
  | .ok _ => .error (.several token)
  | .error error => .error (.unknown token error)

/-- What a session starts with. -/
def setup (settings : Settings) : Except LeaderError Setup :=
  settings.leaderKey.map fun leader =>
    { cols := settings.cols
      rows := settings.rows
      options := settings.options
      filename := settings.filename
      leader := leader }

end Settings

end ModalPanes
