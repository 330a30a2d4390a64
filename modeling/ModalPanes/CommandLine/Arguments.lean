import ModalPanes.Text.Numeral

/-!
# Arguments

The program is called with a file of scenarios and options.  An option with a value takes it from behind an
equals sign or from the next argument, which must not look like an option.  No option but the choice of a
scenario may be given twice.
-/

namespace ModalPanes

namespace CommandLine

/-- What the program is asked to do. -/
structure Arguments where
  fixtures : Option (List Char) := none
  cols : Option Nat := none
  rows : Option Nat := none
  scenarios : List (List Char) := []
  expected : Option (List Char) := none
  pretty : Bool := false
  config : Option (List Char) := none
deriving DecidableEq

/-- How a call is understood. -/
inductive Call where
  | run (arguments : Arguments)
  | version
  | help
  | refused
deriving DecidableEq

/-- The options that take a value. -/
inductive ValueOption where
  | cols
  | rows
  | scenario
  | expected
  | config
deriving DecidableEq

def ValueOption.ofName? (name : List Char) : Option ValueOption :=
  [("cols", cols), ("rows", rows), ("scenario", scenario), ("expected", expected),
    ("config", config)].findSome? fun entry => if entry.1.toList = name then some entry.2 else none

/-- A size: a decimal number with an optional sign, from 0 to 65535. -/
def size? (text : List Char) : Option Nat :=
  let negative := text.head? == some '-'
  let digits := if negative || text.head? == some '+' then text.tail else text
  if digits.isEmpty || !digits.all Char.isDigit then none
  else
    let n := Numeral.value digits
    if n ≤ 65535 ∧ (negative → n = 0) then some n else none

/-- A path, which is not empty. -/
def path? (text : List Char) : Option (List Char) := if text.isEmpty then none else some text

/-- Set what has not been set before. -/
def setOnce {α : Type} (old new : Option α) : Option (Option α) :=
  if old.isSome || new.isNone then none else some new

namespace Arguments

def setValue (arguments : Arguments) (value : List Char) : ValueOption → Option Arguments
  | .cols => (setOnce arguments.cols (size? value)).map fun new => { arguments with cols := new }
  | .rows => (setOnce arguments.rows (size? value)).map fun new => { arguments with rows := new }
  | .scenario => some { arguments with scenarios := arguments.scenarios ++ [value] }
  | .expected =>
      (setOnce arguments.expected (path? value)).map fun new => { arguments with expected := new }
  | .config =>
      (setOnce arguments.config (path? value)).map fun new => { arguments with config := new }

/-- Take the file of scenarios. -/
def setFixtures (arguments : Arguments) (value : List Char) : Option Arguments :=
  (setOnce arguments.fixtures (path? value)).map fun new => { arguments with fixtures := new }

/-- The call, once all arguments are taken: the file of scenarios has to be among them. -/
def finish (arguments : Arguments) : Call :=
  if arguments.fixtures.isSome then .run arguments else .refused

end Arguments

/-- Whether an argument looks like an option; a single dash does not. -/
def looksLikeOption (arg : List Char) : Bool := arg.head? == some '-' && 1 < arg.length

/-- Arguments behind the end of the options. -/
def readPlain (arguments : Arguments) : List (List Char) → Call
  | [] => arguments.finish
  | arg :: rest =>
      match arguments.setFixtures arg with
      | some arguments => readPlain arguments rest
      | none => .refused

/-- A long option without a value of its own. -/
inductive Flag where
  | pretty
  | version
  | help

def Flag.ofName? (name : List Char) : Option Flag :=
  [("pretty", pretty), ("version", version), ("help", help)].findSome? fun entry =>
    if entry.1.toList = name then some entry.2 else none

/-- The name of a long option, and its value if one is attached. -/
def splitOption (body : List Char) : List Char × Option (List Char) :=
  let name := body.takeWhile (· != '=')
  match body.drop name.length with
  | _ :: value => (name, some value)
  | [] => (name, none)

/-- Read arguments from left to right; the first one that does not fit refuses the call. -/
def readFrom (arguments : Arguments) : List (List Char) → Call
  | [] => arguments.finish
  | arg :: rest =>
      match arg with
      | ['-', '-'] => readPlain arguments rest
      | '-' :: '-' :: body =>
          let parts := splitOption body
          match ValueOption.ofName? parts.1, Flag.ofName? parts.1, parts.2 with
          | some option, _, some value =>
              match arguments.setValue value option with
              | some arguments => readFrom arguments rest
              | none => .refused
          | some option, _, none =>
              match rest with
              | [] => .refused
              | value :: rest =>
                  if looksLikeOption value then .refused
                  else
                    match arguments.setValue value option with
                    | some arguments => readFrom arguments rest
                    | none => .refused
          | none, some .pretty, none =>
              if arguments.pretty then .refused
              else readFrom { arguments with pretty := true } rest
          | none, some .version, none => .version
          | none, some .help, none => .help
          | none, _, _ => .refused
      | '-' :: 'V' :: _ => .version
      | '-' :: 'h' :: _ => .help
      | '-' :: _ :: _ => .refused
      | plain =>
          match arguments.setFixtures plain with
          | some arguments => readFrom arguments rest
          | none => .refused

def Call.ofArguments (args : List (List Char)) : Call := readFrom {} args

end CommandLine

end ModalPanes
