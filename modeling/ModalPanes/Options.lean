import ModalPanes.Text.Numeral

/-!
# Options

The options of a pane, and the command that shows and changes them.  An argument of the command is read
as a `Directive`; directives are carried out in turn, and one that fails ends the command without taking
back those before it.
-/

namespace ModalPanes

/-- The options that are on or off. -/
inductive Flag where
  | number
  | relativeNumber
  | wrap
deriving DecidableEq

inductive Quantity where
  | numberWidth
  | tabStop
  | scrollOff
deriving DecidableEq

inductive Setting where
  | flag (flag : Flag)
  | quantity (quantity : Quantity)
deriving DecidableEq

namespace Flag

def name : Flag → List Char
  | number => "number".toList
  | relativeNumber => "relativenumber".toList
  | wrap => "wrap".toList

end Flag

namespace Quantity

def name : Quantity → List Char
  | numberWidth => "numberwidth".toList
  | tabStop => "tabstop".toList
  | scrollOff => "scrolloff".toList

/-- The values that may be assigned. -/
def accepts : Quantity → Nat → Bool
  | numberWidth, n => 1 ≤ n && n ≤ 20
  | tabStop, n => 0 < n
  | scrollOff, _ => true

end Quantity

namespace Setting

/-- All options, in the order in which they are shown. -/
def all : List Setting :=
  [.flag .number, .flag .relativeNumber, .quantity .numberWidth, .quantity .tabStop,
    .quantity .scrollOff, .flag .wrap]

def ofName? (name : List Char) : Option Setting :=
  [("number", .flag .number), ("nu", .flag .number), ("relativenumber", .flag .relativeNumber),
    ("rnu", .flag .relativeNumber), ("numberwidth", .quantity .numberWidth),
    ("nuw", .quantity .numberWidth), ("tabstop", .quantity .tabStop), ("ts", .quantity .tabStop),
    ("scrolloff", .quantity .scrollOff), ("so", .quantity .scrollOff),
    ("wrap", Setting.flag .wrap)].lookup (String.ofList name)

def isFlagName (name : List Char) : Bool :=
  match ofName? name with
  | some (.flag _) => true
  | _ => false

def isQuantityName (name : List Char) : Bool :=
  match ofName? name with
  | some (.quantity _) => true
  | _ => false

end Setting

/-- One argument of the command that sets options. -/
inductive Directive where
  | on (name : List Char)
  | off (name : List Char)
  | toggle (name : List Char)
  | query (name : List Char)
  | assign (name value : List Char)
  | showChanged
  | showAll
deriving DecidableEq

namespace Directive

def stripEnd? (mark : Char) (text : List Char) : Option (List Char) :=
  if text.getLast? = some mark then some text.dropLast else none

def stripFront? (front text : List Char) : Option (List Char) :=
  if front.isPrefixOf text then some (text.drop front.length) else none

/-- The name behind a leading word, if it is that of an option that is on or off. -/
def flagBehind? (front arg : List Char) : Option (List Char) :=
  match stripFront? front arg with
  | some name => if Setting.isFlagName name then some name else none
  | none => none

/-- Read one argument.  A leading `no` or `inv` counts only in front of the name of an option that is
on or off, because other names begin the same way. -/
def ofArgument (arg : List Char) : Directive :=
  if arg = "all".toList then .showAll
  else if arg.contains '=' then
    .assign (arg.takeWhile (· != '=')) ((arg.dropWhile (· != '=')).drop 1)
  else
    match stripEnd? '?' arg with
    | some name => .query name
    | none =>
        match stripEnd? '!' arg with
        | some name => .toggle name
        | none =>
            match flagBehind? "no".toList arg with
            | some name => .off name
            | none =>
                match flagBehind? "inv".toList arg with
                | some name => .toggle name
                | none => if Setting.isQuantityName arg then .query arg else .on arg

/-- Read all arguments; without any, the changed options are shown. -/
def ofArguments (args : List Char) : List Directive :=
  match Blank.words args with
  | [] => [.showChanged]
  | words => words.map ofArgument

end Directive

/-- Why a directive is refused. -/
inductive SetError where
  | unknownOption (name : List Char)
  | invalidArgument (argument : List Char)
  | numberRequired (argument : List Char)
  | mustBePositive (argument : List Char)
deriving DecidableEq

def SetError.message : SetError → List Char
  | unknownOption name => "E518: Unknown option: ".toList ++ name
  | invalidArgument argument => "E474: Invalid argument: ".toList ++ argument
  | numberRequired argument => "E521: Number required after =: ".toList ++ argument
  | mustBePositive argument => "E487: Argument must be positive: ".toList ++ argument

/-- The options of a pane. -/
structure Options where
  number : Bool := false
  relativeNumber : Bool := false
  numberWidth : Nat := 4
  tabStop : Nat := 8
  scrollOff : Nat := 0
  wrap : Bool := true
deriving DecidableEq, Inhabited

namespace Options

def flag (options : Options) : Flag → Bool
  | .number => options.number
  | .relativeNumber => options.relativeNumber
  | .wrap => options.wrap

def setFlag (options : Options) (value : Bool) : Flag → Options
  | .number => { options with number := value }
  | .relativeNumber => { options with relativeNumber := value }
  | .wrap => { options with wrap := value }

def quantity (options : Options) : Quantity → Nat
  | .numberWidth => options.numberWidth
  | .tabStop => options.tabStop
  | .scrollOff => options.scrollOff

def setQuantity (options : Options) (value : Nat) : Quantity → Options
  | .numberWidth => { options with numberWidth := value }
  | .tabStop => { options with tabStop := value }
  | .scrollOff => { options with scrollOff := value }

def gutterEnabled (options : Options) : Bool := options.number || options.relativeNumber

/-- How an option is shown: two columns for a leading `no`, then the name and a number's value. -/
def shown (options : Options) : Setting → List Char
  | .flag flag => (if options.flag flag then "  ".toList else "no".toList) ++ flag.name
  | .quantity quantity => "  ".toList ++ quantity.name ++ '=' :: decimal (options.quantity quantity)

def joinSpaced (texts : List (List Char)) : List Char := [' '].intercalate texts

def resolve (name : List Char) : Except SetError Setting :=
  match Setting.ofName? name with
  | some setting => .ok setting
  | none => .error (.unknownOption name)

def changeFlag (options : Options) (name : List Char) (change : Bool → Bool) :
    Except SetError Options :=
  match resolve name with
  | .error error => .error error
  | .ok (.quantity _) => .error (.invalidArgument name)
  | .ok (.flag flag) => .ok (options.setFlag (change (options.flag flag)) flag)

def assign (options : Options) (name value : List Char) : Except SetError Options :=
  let argument := name ++ '=' :: value
  match resolve name with
  | .error error => .error error
  | .ok (.flag _) => .error (.invalidArgument argument)
  | .ok (.quantity quantity) =>
      match Numeral.read? value with
      | none => .error (.numberRequired argument)
      | some n =>
          if quantity.accepts n then .ok (options.setQuantity n quantity)
          else .error (.mustBePositive argument)

/-- Carry out a directive: the options afterwards, and the text to show, if any. -/
def apply (options : Options) : Directive → Except SetError (Options × Option (List Char))
  | .showChanged =>
      let changed := Setting.all.filter fun s => options.shown s != ({} : Options).shown s
      .ok (options, some (joinSpaced (changed.map options.shown)))
  | .showAll => .ok (options, some (joinSpaced (Setting.all.map options.shown)))
  | .query name => (resolve name).map fun setting => (options, some (options.shown setting))
  | .on name => (options.changeFlag name fun _ => true).map (·, none)
  | .off name => (options.changeFlag name fun _ => false).map (·, none)
  | .toggle name => (options.changeFlag name not).map (·, none)
  | .assign name value => (options.assign name value).map (·, none)

/-- Carry out directives until one fails: the options reached, and the texts to show or the error. -/
def applyAll (options : Options) : List Directive → Options × Except SetError (List (List Char))
  | [] => (options, .ok [])
  | directive :: rest =>
      match options.apply directive with
      | .error error => (options, .error error)
      | .ok (options, echo) =>
          let later := applyAll options rest
          (later.1, later.2.map (echo.toList ++ ·))

/-- Carry out the arguments of the command: the options reached, and the text to show or the error. -/
def set (options : Options) (args : List Char) : Options × Except SetError (Option (List Char)) :=
  let result := options.applyAll (Directive.ofArguments args)
  (result.1, result.2.map fun texts => if texts.isEmpty then none else some (joinSpaced texts))

end Options

end ModalPanes
