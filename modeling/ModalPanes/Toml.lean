import ModalPanes.Text.Numeral

/-!
# Reading TOML

Settings are written line by line: headers of tables, and keys with values.  A key may be dotted, and stands
for one value only; a table has at most one header.  Values are integers, booleans and texts on one line;
other numbers can stand in a file but mean nothing.
-/

namespace ModalPanes

/-- How a table came about: by its own header, as a part of another header, or by a dotted key. -/
inductive TableOrigin where
  | header
  | implied
  | dotted
deriving DecidableEq

/-- A value of a TOML file. -/
inductive Toml where
  | integer (value : Int)
  | bool (value : Bool)
  | text (value : List Char)
  | other
  | table (origin : TableOrigin) (entries : List (List Char × Toml))

namespace Toml

abbrev Entries := List (List Char × Toml)

def alter (name : List Char) (change : Option Toml → Option Toml) : Entries → Option Entries
  | [] => (change none).map fun value => [(name, value)]
  | entry :: rest =>
      if entry.1 = name then (change (some entry.2)).map fun value => (name, value) :: rest
      else (alter name change rest).map (entry :: ·)

def openTable : List (List Char) → Entries → Option Entries
  | [], _ => none
  | [name], entries =>
      alter name
        (fun old =>
          match old with
          | none => some (table .header [])
          | some (table .implied inner) => some (table .header inner)
          | some _ => none)
        entries
  | name :: path, entries =>
      alter name
        (fun old =>
          match old with
          | none => (openTable path []).map (table .implied)
          | some (table origin inner) => (openTable path inner).map (table origin)
          | some _ => none)
        entries

/-- Add the value of a dotted key.  The key does not reach into tables with a header of their own. -/
def assign (value : Toml) : List (List Char) → Entries → Option Entries
  | [], _ => none
  | [name], entries => alter name (fun old => if old.isSome then none else some value) entries
  | name :: path, entries =>
      alter name
        (fun old =>
          match old with
          | none => (assign value path []).map (table .dotted)
          | some (table .header _) => none
          | some (table origin inner) => (assign value path inner).map (table origin)
          | some _ => none)
        entries

def assignIn (key : List (List Char)) (value : Toml) : List (List Char) → Entries → Option Entries
  | [], entries => assign value key entries
  | name :: path, entries =>
      alter name
        (fun old =>
          match old with
          | some (table origin inner) => (assignIn key value path inner).map (table origin)
          | _ => none)
        entries

def isBlank (c : Char) : Bool := c == ' ' || c == '\t'

/-- A text without the blanks in front. -/
def skipBlanks (text : List Char) : List Char := text.dropWhile isBlank

/-- Whether a character may stand in a text or a comment. -/
def isPlain (c : Char) : Bool := c == '\t' || (0x20 ≤ c.toNat && c.toNat != 0x7F)

/-- Whether nothing but a comment follows. -/
def isOver (text : List Char) : Bool :=
  match skipBlanks text with
  | [] => true
  | '#' :: comment => comment.all isPlain
  | _ => false

/-- The value of a digit in a number system. -/
def digit? (base : Nat) (c : Char) : Option Nat :=
  let value :=
    if c.isDigit then c.toNat - '0'.toNat
    else if 'a' ≤ c ∧ c ≤ 'f' then c.toNat - 'a'.toNat + 10
    else if 'A' ≤ c ∧ c ≤ 'F' then c.toNat - 'A'.toNat + 10
    else base
  if value < base then some value else none

def digitsValue? (base : Nat) (digits : List Char) : Option Nat :=
  if digits.isEmpty then none
  else digits.foldlM (fun value c => (digit? base c).map (value * base + ·)) 0

/-- The character with a number, unless it is half of a pair. -/
def charOf? (n : Nat) : Option Char := if n.isValidChar then some (Char.ofNat n) else none

def escaped? : Char → Option Char
  | 'b' => some '\x08'
  | 't' => some '\t'
  | 'n' => some '\n'
  | 'f' => some '\x0c'
  | 'r' => some '\r'
  | '"' => some '"'
  | '\\' => some '\\'
  | _ => none

/-- The text up to the closing quote, and what follows. -/
def basicBody (before : List Char) : List Char → Option (List Char × List Char)
  | [] => none
  | c :: rest =>
      if c = '"' then some (before.reverse, rest)
      else if c ≠ '\\' then if isPlain c then basicBody (c :: before) rest else none
      else
        match rest with
        | 'u' :: d₁ :: d₂ :: d₃ :: d₄ :: rest =>
            match (digitsValue? 16 [d₁, d₂, d₃, d₄]).bind charOf? with
            | some c => basicBody (c :: before) rest
            | none => none
        | 'U' :: d₁ :: d₂ :: d₃ :: d₄ :: d₅ :: d₆ :: d₇ :: d₈ :: rest =>
            match (digitsValue? 16 [d₁, d₂, d₃, d₄, d₅, d₆, d₇, d₈]).bind charOf? with
            | some c => basicBody (c :: before) rest
            | none => none
        | e :: rest =>
            match escaped? e with
            | some c => basicBody (c :: before) rest
            | none => none
        | [] => none

/-- A text without escapes up to its closing quote, and what follows. -/
def literalBody (text : List Char) : Option (List Char × List Char) :=
  let body := text.takeWhile fun c => c != '\x27' && isPlain c
  match text.drop body.length with
  | '\x27' :: rest => some (body, rest)
  | _ => none

/-- A text in quotes of either kind, and what follows. -/
def quoted? : List Char → Option (List Char × List Char)
  | '"' :: rest => basicBody [] rest
  | '\x27' :: rest => literalBody rest
  | _ => none

/-- Whether a character may stand in a key without quotes. -/
def isKeyChar (c : Char) : Bool := c.isAlphanum || c == '_' || c == '-'

def simpleKey? (text : List Char) : Option (List Char × List Char) :=
  match quoted? text with
  | some found => some found
  | none =>
      let key := text.takeWhile isKeyChar
      if key.isEmpty then none else some (key, text.dropWhile isKeyChar)

/-- A dotted key, and what follows; the number bounds its parts. -/
def keyWithin : Nat → List Char → Option (List (List Char) × List Char)
  | 0, _ => none
  | bound + 1, source =>
      match simpleKey? (skipBlanks source) with
      | none => none
      | some (key, rest) =>
          match skipBlanks rest with
          | '.' :: rest => (keyWithin bound rest).map fun found => (key :: found.1, found.2)
          | rest => some ([key], rest)

def key? (text : List Char) : Option (List (List Char) × List Char) :=
  keyWithin (text.length + 1) text

/-- Digits without the underscores, each of which has to stand between two digits. -/
def withoutUnderscores? (text : List Char) : Option (List Char) :=
  if text.isEmpty then none else go true text
where
  go (afterGap : Bool) : List Char → Option (List Char)
    | [] => if afterGap then none else some []
    | c :: rest =>
        if c = '_' then if afterGap then none else go true rest
        else (go false rest).map (c :: ·)

/-- A number in a system with a mark of its own. -/
def marked? (base : Nat) (digits : List Char) : Option Int :=
  ((withoutUnderscores? digits).bind (digitsValue? base)).map Int.ofNat

/-- A decimal number without sign; no zero stands in front of other digits. -/
def decimal? (text : List Char) : Option Nat :=
  (withoutUnderscores? text).bind fun digits =>
    if 1 < digits.length ∧ digits.head? = some '0' then none else digitsValue? 10 digits

def integer? : List Char → Option Int
  | '0' :: 'x' :: digits => marked? 16 digits
  | '0' :: 'o' :: digits => marked? 8 digits
  | '0' :: 'b' :: digits => marked? 2 digits
  | '+' :: digits => (decimal? digits).map Int.ofNat
  | '-' :: digits => (decimal? digits).map fun n => -(n : Int)
  | digits => (decimal? digits).map Int.ofNat

def unsigned : List Char → List Char
  | '+' :: rest => rest
  | '-' :: rest => rest
  | digits => digits

def isExponent : List Char → Bool
  | [] => true
  | e :: rest => (e == 'e' || e == 'E') && ((withoutUnderscores? (unsigned rest)).elim false isDigits)
where
  isDigits (digits : List Char) : Bool := digits.all Char.isDigit

/-- A number with a fraction, an exponent, or both, or one of the names for what is no number. -/
def isFraction (text : List Char) : Bool :=
  let text := unsigned text
  let isDigit := fun c : Char => c.isDigit || c == '_'
  let tail := text.dropWhile isDigit
  text == "inf".toList || text == "nan".toList ||
    ((decimal? (text.takeWhile isDigit)).isSome &&
      match tail with
      | '.' :: rest =>
          ((withoutUnderscores? (rest.takeWhile isDigit)).elim false fun digits =>
              digits.all Char.isDigit) &&
            isExponent (rest.dropWhile isDigit)
      | _ => isExponent tail)

/-- Whether a character belongs to a value without quotes. -/
def isWordChar (c : Char) : Bool :=
  c.isAlphanum || c == '_' || c == '-' || c == '+' || c == '.' || c == ':'

def word? (word : List Char) : Option Toml :=
  if word = "true".toList then some (bool true)
  else if word = "false".toList then some (bool false)
  else
    match integer? word with
    | some n => some (integer n)
    | none => if isFraction word then some other else none

def value? (source : List Char) : Option (Toml × List Char) :=
  match source with
  | '"' :: _ | '\x27' :: _ => (quoted? source).map fun found => (text found.1, found.2)
  | _ =>
      (word? (source.takeWhile isWordChar)).map fun value => (value, source.dropWhile isWordChar)

/-- What has been read: the entries, and the table that the next keys belong to. -/
structure Reading where
  entries : Entries := []
  path : List (List Char) := []

def readHeader (reading : Reading) (line : List Char) : Option Reading :=
  match key? line with
  | some (path, ']' :: rest) =>
      if isOver rest then (openTable path reading.entries).map fun entries => ⟨entries, path⟩ else none
  | _ => none

def readEntry (reading : Reading) (line : List Char) : Option Reading :=
  match key? line with
  | some (key, '=' :: rest) =>
      match value? (skipBlanks rest) with
      | some (value, rest) =>
          if isOver rest then
            (assignIn key value reading.path reading.entries).map fun entries =>
              { reading with entries := entries }
          else none
      | none => none
  | _ => none

def readLine (reading : Reading) (line : List Char) : Option Reading :=
  if isOver line then some reading
  else
    match skipBlanks line with
    | '[' :: rest => readHeader reading rest
    | rest => readEntry reading rest

/-- The lines of a file; a carriage return in front of a line feed belongs to the break. -/
def linesFrom (before : List Char) : List Char → List (List Char)
  | [] => [before.reverse]
  | '\r' :: '\n' :: rest => before.reverse :: linesFrom [] rest
  | '\n' :: rest => before.reverse :: linesFrom [] rest
  | c :: rest => linesFrom (c :: before) rest

/-- A file without the mark that can stand in front. -/
def withoutMark : List Char → List Char
  | '\uFEFF' :: rest => rest
  | file => file

def read? (file : List Char) : Option Entries :=
  ((linesFrom [] (withoutMark file)).foldlM readLine {}).map Reading.entries

def natUpTo? (bound : Nat) : Toml → Option Nat
  | integer (.ofNat n) => if n ≤ bound then some n else none
  | _ => none

def bool? : Toml → Option Bool
  | bool value => some value
  | _ => none

def text? : Toml → Option (List Char)
  | text value => some value
  | _ => none

def entries? : Toml → Option Entries
  | table _ entries => some entries
  | _ => none

/-- What the value of a key is, or a default if there is no such key. -/
def readKey {α : Type} (entries : Entries) (name : String) (default : α) (read? : Toml → Option α) :
    Option α :=
  match entries.lookup name.toList with
  | some value => read? value
  | none => some default

end Toml

end ModalPanes
