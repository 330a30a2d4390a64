import ModalPanes.Json.Basic
import ModalPanes.Text.Quoted

/-!
# Writing JSON

The compact form has no blanks at all; the pretty form has a line for every item and field, indented by
two spaces a level.  Only quotes, backslashes and control characters are escaped.
-/

namespace ModalPanes

namespace Json

def escapeInText (c : Char) : List Char :=
  match c with
  | '"' => "\\\"".toList
  | '\\' => "\\\\".toList
  | '\x08' => "\\b".toList
  | '\x0c' => "\\f".toList
  | '\n' => "\\n".toList
  | '\r' => "\\r".toList
  | '\t' => "\\t".toList
  | _ =>
      if c.toNat < 0x10 then "\\u000".toList ++ hexadecimal c.toNat
      else if c.toNat < 0x20 then "\\u00".toList ++ hexadecimal c.toNat
      else [c]

def quoted (text : List Char) : List Char := '"' :: text.flatMap escapeInText ++ ['"']

def ofInteger (n : Int) : List Char :=
  if n < 0 then '-' :: decimal n.natAbs else decimal n.natAbs

/-- A value that is neither array nor object. -/
def scalarText : Json → List Char
  | null => "null".toList
  | bool true => "true".toList
  | bool false => "false".toList
  | integer n => ofInteger n
  | float number => number.written
  | text value => quoted value
  | array _ | object _ => []

mutual

def compact : Json → List Char
  | array items => '[' :: compactItems items
  | object fields => '{' :: compactFields fields
  | value => scalarText value

/-- Items with commas between them, and the closing bracket. -/
def compactItems : List Json → List Char
  | [] => [']']
  | [item] => compact item ++ [']']
  | item :: rest => compact item ++ ',' :: compactItems rest

/-- Fields with commas between them, and the closing brace. -/
def compactFields : List (List Char × Json) → List Char
  | [] => ['}']
  | [(name, value)] => quoted name ++ ':' :: compact value ++ ['}']
  | (name, value) :: rest => quoted name ++ ':' :: compact value ++ ',' :: compactFields rest

end

def newLine (level : Nat) : List Char := '\n' :: List.replicate (2 * level) ' '

mutual

def prettyAt (level : Nat) : Json → List Char
  | array [] => "[]".toList
  | array items => '[' :: prettyItems (level + 1) items ++ newLine level ++ [']']
  | object [] => ['{', '}']
  | object fields => '{' :: prettyFields (level + 1) fields ++ newLine level ++ ['}']
  | value => scalarText value

def prettyItems (level : Nat) : List Json → List Char
  | [] => []
  | [item] => newLine level ++ prettyAt level item
  | item :: rest => newLine level ++ prettyAt level item ++ ',' :: prettyItems level rest

def prettyFields (level : Nat) : List (List Char × Json) → List Char
  | [] => []
  | [(name, value)] => newLine level ++ quoted name ++ ": ".toList ++ prettyAt level value
  | (name, value) :: rest =>
      newLine level ++ quoted name ++ ": ".toList ++ prettyAt level value ++
        ',' :: prettyFields level rest

end

def pretty (value : Json) : List Char := prettyAt 0 value

end Json

end ModalPanes
