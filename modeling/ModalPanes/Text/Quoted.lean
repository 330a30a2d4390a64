import ModalPanes.Unicode.Printable

/-!
# Quoted text

The form in which descriptions show characters and texts: between quotes, with the usual escapes, and
with a number in braces for whatever cannot be shown.
-/

namespace ModalPanes

/-- The hexadecimal digits of a number, in lower case. -/
def hexadecimal (n : Nat) : List Char := Nat.toDigits 16 n

/-- A character as it stands between the given quotes. -/
def escapeChar (quote c : Char) : List Char :=
  if c = '\x00' then ['\\', '0']
  else if c = '\t' then ['\\', 't']
  else if c = '\r' then ['\\', 'r']
  else if c = '\n' then ['\\', 'n']
  else if c = '\\' ∨ c = quote then ['\\', c]
  else if Unicode.isPrintable c then [c]
  else "\\u\x7b".toList ++ hexadecimal c.toNat ++ ['\x7d']

def quoteChar (c : Char) : List Char :=
  '\x27' :: (escapeChar '\x27' c ++ ['\x27'])

def quoteText (text : List Char) : List Char :=
  '"' :: (text.flatMap (escapeChar '"') ++ ['"'])

def decimal (n : Nat) : List Char := (toString n).toList

end ModalPanes
