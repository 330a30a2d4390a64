import ModalPanes.Unicode.Folding
import ModalPanes.Unicode.Letter

/-!
# Sets of characters

The sets that a regular expression can name, closed under union, difference and the like.  A set is
data, and `CharSet.has` says what it means.
-/

namespace ModalPanes.Regex

inductive CharSet where
  | empty
  | single (c : Char)
  | range (first last : Char)
  | digit
  | space
  | word
  | complement (set : CharSet)
  | union (left right : CharSet)
  | intersection (left right : CharSet)
  | difference (left right : CharSet)
  | symmetricDifference (left right : CharSet)
  /-- Every character that differs from a member in case only. -/
  | caseless (set : CharSet)
deriving DecidableEq

namespace CharSet

def has : CharSet → Char → Bool
  | empty, _ => false
  | single d, c => c == d
  | range first last, c => first ≤ c && c ≤ last
  | digit, c => Unicode.isDigit c
  | space, c => Unicode.isSpace c
  | word, c => Unicode.isWord c
  | complement set, c => !set.has c
  | union left right, c => left.has c || right.has c
  | intersection left right, c => left.has c && right.has c
  | difference left right, c => left.has c && !right.has c
  | symmetricDifference left right, c => left.has c != right.has c
  | caseless set, c => (Unicode.caseVariants c).any set.has

/-- A set, without regard to case if asked. -/
def ofCase (ignoreCase : Bool) (set : CharSet) : CharSet :=
  if ignoreCase then caseless set else set

@[simp] theorem has_single (d c : Char) : (single d).has c = (c == d) := rfl

@[simp] theorem has_complement (set : CharSet) (c : Char) : (complement set).has c = !set.has c := rfl

/-- Ignoring case only adds characters. -/
theorem has_caseless_of_has {set : CharSet} {c : Char} (member : set.has c = true) :
    (caseless set).has c = true := by
  simp only [has, Unicode.caseVariants, List.any_cons, member, Bool.true_or]

/-- The room that a set takes in a compiled expression, in bytes, about. -/
def cost : CharSet → Nat
  | empty => 32
  | single c => if c.toNat < 128 then 32 else 32 * c.utf8Size
  | range _ last => if last.toNat < 128 then 40 else 400
  | digit => 4000
  | space => 700
  | word => 50000
  | complement set => 600 + set.cost
  | union left right => left.cost + right.cost
  | intersection left right => left.cost + right.cost
  | difference left right => left.cost + right.cost
  | symmetricDifference left right => left.cost + right.cost
  | caseless set => 2 * set.cost

end CharSet

end ModalPanes.Regex
