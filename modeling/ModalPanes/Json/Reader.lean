import ModalPanes.Json.Basic
import ModalPanes.Text.Numeral

/-!
# Reading JSON

A text is cut into tokens, and the tokens are read as one value.  Reading is strict: nothing may follow
the value, no comma may end a list, and texts hold whole characters only.
-/

namespace ModalPanes

namespace Json

/-- The parts of a JSON text. -/
inductive Token where
  | openArray
  | closeArray
  | openObject
  | closeObject
  | comma
  | colon
  | scalar (value : Json)

def hexDigit? (c : Char) : Option Nat :=
  if c.isDigit then some (c.toNat - '0'.toNat)
  else if 'a' ≤ c ∧ c ≤ 'f' then some (c.toNat - 'a'.toNat + 10)
  else if 'A' ≤ c ∧ c ≤ 'F' then some (c.toNat - 'A'.toNat + 10)
  else none

def hexValue? (digits : List Char) : Option Nat :=
  digits.foldlM (fun value c => (hexDigit? c).map (value * 16 + ·)) 0

/-- The character of an escape other than the one with digits. -/
def escaped? : Char → Option Char
  | '"' => some '"'
  | '\\' => some '\\'
  | '/' => some '/'
  | 'b' => some '\x08'
  | 'f' => some '\x0c'
  | 'n' => some '\n'
  | 'r' => some '\r'
  | 't' => some '\t'
  | _ => none

/-- Whether a code unit is the first half of a pair. -/
def isLeading (n : Nat) : Bool := 0xD800 ≤ n && n < 0xDC00

/-- Whether a code unit is the second half of a pair. -/
def isTrailing (n : Nat) : Bool := 0xDC00 ≤ n && n < 0xE000

def pairChar (leading trailing : Nat) : Char :=
  Char.ofNat (0x10000 + (leading - 0xD800) * 0x400 + (trailing - 0xDC00))

/-- The text up to the closing quote, and what follows. -/
def textBody (before : List Char) : List Char → Option (List Char × List Char)
  | [] => none
  | c :: rest =>
      if c = '"' then some (before.reverse, rest)
      else if c ≠ '\\' then
        if c.toNat < 0x20 then none else textBody (c :: before) rest
      else
        match rest with
        | 'u' :: d₁ :: d₂ :: d₃ :: d₄ :: rest =>
            match hexValue? [d₁, d₂, d₃, d₄] with
            | none => none
            | some unit =>
                if isLeading unit then
                  match rest with
                  | '\\' :: 'u' :: e₁ :: e₂ :: e₃ :: e₄ :: rest =>
                      match hexValue? [e₁, e₂, e₃, e₄] with
                      | some other =>
                          if isTrailing other then textBody (pairChar unit other :: before) rest
                          else none
                      | none => none
                  | _ => none
                else if isTrailing unit then none
                else textBody (Char.ofNat unit :: before) rest
        | e :: rest =>
            match escaped? e with
            | some c => textBody (c :: before) rest
            | none => none
        | [] => none

def isDigits (text : List Char) : Bool := !text.isEmpty && text.all Char.isDigit

/-- Whether some characters are the whole part of a number: digits without a zero in front. -/
def isWhole (text : List Char) : Bool :=
  isDigits text && (text.length == 1 || text.head? != some '0')

/-- The exponent that some characters are, if there are any. -/
def exponent? : List Char → Option Int
  | [] => some 0
  | mark :: rest =>
      let negative := rest.head? == some '-'
      let digits := if negative || rest.head? == some '+' then rest.tail else rest
      let size : Int := Numeral.value digits
      if (mark == 'e' || mark == 'E') && isDigits digits then some (if negative then -size else size)
      else none

/-- The digits behind the point and the exponent that some characters are; either may be left out. -/
def tail? : List Char → Option (List Char × Int)
  | '.' :: rest =>
      let fraction := rest.takeWhile Char.isDigit
      if fraction.isEmpty then none else (exponent? (rest.dropWhile Char.isDigit)).map (fraction, ·)
  | word => (exponent? word).map ([], ·)

def inRange (n : Int) : Bool := -9223372036854775808 ≤ n && n ≤ 18446744073709551615

/-- The number that some characters are.  Zero with a minus sign is no integer, and a number that is too
large for double precision is none at all. -/
def number? (word : List Char) : Option Json :=
  let negative := word.head? == some '-'
  let digits := if negative then word.tail else word
  let whole := digits.takeWhile Char.isDigit
  let tail := digits.dropWhile Char.isDigit
  let size : Int := Numeral.value whole
  let n := if negative then -size else size
  if !isWhole whole then none
  else if tail.isEmpty && inRange n && !(negative && n == 0) then some (.integer n)
  else
    (tail? tail).bind fun parts =>
      (Double.ofDecimal? negative whole parts.1 parts.2).map .float

def word? (word : List Char) : Option Json :=
  if word = "true".toList then some (.bool true)
  else if word = "false".toList then some (.bool false)
  else if word = "null".toList then some .null
  else number? word

def isBlank (c : Char) : Bool := c == ' ' || c == '\n' || c == '\t' || c == '\r'

def sign? : Char → Option Token
  | '[' => some .openArray
  | ']' => some .closeArray
  | '{' => some .openObject
  | '}' => some .closeObject
  | ',' => some .comma
  | ':' => some .colon
  | _ => none

def isWordChar (c : Char) : Bool := c.isAlphanum || c == '.' || c == '+' || c == '-'

/-- The tokens of a text; the number bounds their count. -/
def tokensWithin : Nat → List Char → Option (List Token)
  | _, [] => some []
  | 0, _ => none
  | bound + 1, c :: rest =>
      if isBlank c then tokensWithin bound rest
      else if c = '"' then
        match textBody [] rest with
        | some (body, rest) => (tokensWithin bound rest).map (.scalar (.text body) :: ·)
        | none => none
      else
        match sign? c with
        | some token => (tokensWithin bound rest).map (token :: ·)
        | none =>
            match word? (c :: rest.takeWhile isWordChar) with
            | some value =>
                (tokensWithin bound (rest.dropWhile isWordChar)).map (.scalar value :: ·)
            | none => none

def tokens? (text : List Char) : Option (List Token) := tokensWithin text.length text

mutual

def valueWithin : Nat → List Token → Option (Json × List Token)
  | _ + 1, .scalar value :: rest => some (value, rest)
  | _ + 1, .openArray :: .closeArray :: rest => some (.array [], rest)
  | bound + 1, .openArray :: rest =>
      (itemsWithin bound rest).map fun found => (.array found.1, found.2)
  | _ + 1, .openObject :: .closeObject :: rest => some (.object [], rest)
  | bound + 1, .openObject :: rest =>
      (fieldsWithin bound rest).map fun found => (.object found.1, found.2)
  | _, _ => none

def itemsWithin : Nat → List Token → Option (List Json × List Token)
  | 0, _ => none
  | bound + 1, tokens =>
      match valueWithin bound tokens with
      | some (value, .closeArray :: rest) => some ([value], rest)
      | some (value, .comma :: rest) =>
          (itemsWithin bound rest).map fun found => (value :: found.1, found.2)
      | _ => none

def fieldsWithin : Nat → List Token → Option (List (List Char × Json) × List Token)
  | bound + 1, .scalar (.text name) :: .colon :: tokens =>
      match valueWithin bound tokens with
      | some (value, .closeObject :: rest) => some ([(name, value)], rest)
      | some (value, .comma :: rest) =>
          (fieldsWithin bound rest).map fun found => ((name, value) :: found.1, found.2)
      | _ => none
  | _, _ => none

end

def read? (text : List Char) : Option Json :=
  (tokens? text).bind fun tokens =>
    match valueWithin (2 * tokens.length + 1) tokens with
    | some (value, []) => some value
    | _ => none

end Json

end ModalPanes
