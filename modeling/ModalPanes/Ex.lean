import ModalPanes.Text.Numeral

/-!
# Command lines

What the user types behind a colon.  Every text is some command; one that is not understood is kept for
the message that says so.
-/

namespace ModalPanes

/-- A line by number, counted from zero, or by its place. -/
inductive Address where
  | line (n : Nat)
  | current
  | last
deriving DecidableEq

def Address.resolve (cursorLine lastLine : Nat) : Address → Nat
  | .line n => n
  | .current => cursorLine
  | .last => lastLine

/-- The lines that a command is for. -/
inductive LineRange where
  | currentLine
  | all
  | lines (first second : Address)
  | visual
deriving DecidableEq

structure SubstituteFlags where
  global : Bool := false
  ignoreCase : Bool := false
  countOnly : Bool := false
deriving DecidableEq, Inhabited

/-- A command line. -/
inductive ExCommand where
  | empty
  | write
  | quit
  | forceQuit
  | writeQuit
  | exitSave
  | goto (address : Address)
  | set (args : List Char)
  | noHighlight
  | substitute (range : LineRange) (pattern replacement : List Char) (flags : SubstituteFlags)
  | repeatSubstitute (range : LineRange)
  | unknown (text : List Char)
deriving DecidableEq

namespace Ex

def behind? (front text : List Char) : Option (List Char) :=
  if front.isPrefixOf text then some (text.drop front.length) else none

def address? (text : List Char) : Option (Address × List Char) :=
  match text with
  | '.' :: rest => some (.current, rest)
  | '$' :: rest => some (.last, rest)
  | _ =>
      let digits := text.takeWhile Char.isDigit
      if digits.isEmpty then none
      else some (.line ((Numeral.read? digits).getD Numeral.largest - 1), text.drop digits.length)

def range (text : List Char) : LineRange × List Char :=
  match behind? ['%'] text with
  | some rest => (.all, rest)
  | none =>
      match behind? "\x27<,\x27>".toList text with
      | some rest => (.visual, rest)
      | none =>
          match address? text with
          | none => (.currentLine, text)
          | some (first, rest) =>
              match (behind? [','] rest).bind address? with
              | some (second, rest) => (.lines first second, rest)
              | none => (.lines first first, rest)

/-- Whether a character may separate the parts of a substitution. -/
def isDelimiter (c : Char) : Bool :=
  !Unicode.isAlphanumeric c && c != '\\' && c != '"' && c != '|' && c != ' '

/-- What follows the name of the substitute command, if that is the command. -/
def substituteBody? (text : List Char) : Option (List Char) :=
  match (behind? "substitute".toList text).or (behind? ['s'] text) with
  | none => none
  | some [] => some []
  | some (c :: rest) => if isDelimiter c then some (c :: rest) else none

/-- The text in front of the first delimiter without a backslash, and the text behind it. -/
def splitUnescaped? (delimiter : Char) : List Char → Option (List Char × List Char)
  | [] => none
  | '\\' :: c :: rest =>
      (splitUnescaped? delimiter rest).map fun parts => ('\\' :: c :: parts.1, parts.2)
  | c :: rest =>
      if c = delimiter ∧ c ≠ '\\' then some ([], rest)
      else (splitUnescaped? delimiter rest).map fun parts => (c :: parts.1, parts.2)

/-- The text with the backslash taken from each delimiter that has one. -/
def unescape (delimiter : Char) : List Char → List Char
  | [] => []
  | [c] => [c]
  | c :: d :: rest =>
      if c = '\\' ∧ d = delimiter then delimiter :: unescape delimiter rest
      else c :: unescape delimiter (d :: rest)

/-- The flags that letters ask for; every `g` turns the first one over. -/
def flags (letters : List Char) : SubstituteFlags :=
  letters.foldl (fun flags c =>
    if c = 'g' then { flags with global := !flags.global }
    else if c = 'i' then { flags with ignoreCase := true }
    else if c = 'n' then { flags with countOnly := true }
    else flags) {}

def substitution (range : LineRange) (body : List Char) : ExCommand :=
  match body with
  | [] => .repeatSubstitute range
  | delimiter :: rest =>
      match splitUnescaped? delimiter rest with
      | none => .substitute range (unescape delimiter rest) [] {}
      | some (pattern, rest) =>
          let parts := (splitUnescaped? delimiter rest).getD (rest, [])
          .substitute range (unescape delimiter pattern) (unescape delimiter parts.1) (flags parts.2)

def named? (name : List Char) (arg : List Char) : Option ExCommand :=
  [("w", .write), ("write", .write), ("w!", .write), ("q", .quit), ("quit", .quit),
    ("q!", .forceQuit), ("quit!", .forceQuit), ("wq", .writeQuit), ("wq!", .writeQuit),
    ("x", .exitSave), ("xit", .exitSave), ("exit", .exitSave), ("x!", .exitSave), ("se", .set arg),
    ("set", .set arg), ("noh", .noHighlight), ("nohl", .noHighlight), ("nohls", .noHighlight),
    ("nohlsearch", ExCommand.noHighlight)].lookup (String.ofList name)

/-- The command of a line without its colon.  A range alone goes to its last line; most commands ignore
theirs. -/
def parse (input : List Char) : ExCommand :=
  let text := Blank.trimEnd (input.dropWhile fun c => c == ' ' || c == ':')
  if text.isEmpty then .empty
  else
    let ranged := range text
    let rest := Blank.trimFront ranged.2
    match substituteBody? rest with
    | some body => substitution ranged.1 body
    | none =>
        if rest.isEmpty then
          match ranged.1 with
          | .lines _ second => .goto second
          | .all => .goto .last
          | _ => .unknown text
        else
          let name := rest.takeWhile fun c => !Unicode.isSpace c
          let arg := Blank.trimFront (rest.drop name.length)
          (named? name arg).getD (.unknown text)

end Ex

end ModalPanes
