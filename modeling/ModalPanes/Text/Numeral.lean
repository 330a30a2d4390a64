import ModalPanes.Text.Quoted
import ModalPanes.Unicode.Letter

/-!
# Numerals and blanks

Numbers typed by the user are kept in a machine word: one written out may not be larger, and a count
built digit by digit stays at the largest.
-/

namespace ModalPanes

namespace Numeral

/-- The largest number of a machine word. -/
def largest : Nat := 18446744073709551615

/-- A number, or the largest one if it is beyond that. -/
def saturate (n : Nat) : Nat := min n largest

def digitValue (c : Char) : Nat := c.toNat - '0'.toNat

def value (digits : List Char) : Nat :=
  digits.foldl (fun n c => n * 10 + digitValue c) 0

/-- The number written by decimal digits, with a plus sign in front or not. -/
def read? (text : List Char) : Option Nat :=
  let digits := if text.head? = some '+' then text.drop 1 else text
  if digits.isEmpty || !digits.all Char.isDigit then none
  else if value digits ≤ largest then some (value digits)
  else none

@[simp] theorem saturate_le (n : Nat) : saturate n ≤ largest := Nat.min_le_right n largest

/-- Digits alone are read as the number that they write, if it fits a machine word. -/
theorem read?_of_digits {digits : List Char} (all : ∀ c ∈ digits, c.isDigit = true) (some : digits ≠ []) :
    read? digits = if value digits ≤ largest then .some (value digits) else none := by
  have unsigned : digits.head? ≠ .some '+' := fun signed =>
    absurd (all _ (List.mem_of_mem_head? signed)) (by decide)
  unfold read?
  rw [if_neg unsigned]
  dsimp only
  rw [List.isEmpty_eq_false_iff.2 some, List.all_eq_true.2 all]
  simp only [Bool.not_true, Bool.or_self, Bool.false_eq_true, if_false]

end Numeral

namespace Blank

def trimFront (text : List Char) : List Char := text.dropWhile Unicode.isSpace

def trimEnd (text : List Char) : List Char := (text.reverse.dropWhile Unicode.isSpace).reverse

/-- Without white space at either end. -/
def trim (text : List Char) : List Char := trimEnd (trimFront text)

/-- Put a character in front of a text cut at its white space; the first word is still open. -/
def consWord (c : Char) (words : List (List Char)) : List (List Char) :=
  if Unicode.isSpace c then [] :: words
  else
    match words with
    | [] => [[c]]
    | word :: rest => (c :: word) :: rest

def words (text : List Char) : List (List Char) :=
  (text.foldr consWord [[]]).filter fun word => !word.isEmpty

end Blank

end ModalPanes
