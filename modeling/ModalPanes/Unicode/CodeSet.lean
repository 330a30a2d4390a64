/-!
# Sets of code points

Character properties come as runs of consecutive code points.  A `CodeSet` lists, in increasing
order, the places at which membership changes: the first number starts a run, the second ends it
(and is outside), the third starts the next, and so on.
-/

namespace ModalPanes.Unicode

/-- A set of code points, as the increasing list of the places where membership changes. -/
abbrev CodeSet := List Nat

namespace CodeSet

/-- Membership, read off the first boundary above the code point. -/
def has : CodeSet → Nat → Bool
  | [], _ => false
  | [first], code => decide (first ≤ code)
  | first :: last :: rest, code =>
      if code < first then false
      else if code < last then true
      else has rest code

@[simp] theorem has_nil (code : Nat) : has [] code = false := rfl

end CodeSet

/-- Code points `first`, `first + step`, …, up to `last`, each moved by `shift`. -/
structure Stride where
  first : Nat
  last : Nat
  step : Nat
  shift : Int

namespace Stride

/-- A stride holds the code points between its ends that its step reaches. -/
def has (run : Stride) (code : Nat) : Bool :=
  run.first ≤ code && code ≤ run.last && (code - run.first) % run.step == 0

/-- The image of a code point under the first stride that holds it. -/
def image? : List Stride → Nat → Option Nat
  | [], _ => none
  | run :: runs, code =>
      if run.has code then some (Int.toNat (code + run.shift)) else image? runs code

/-- The code points that some stride moves onto the given one. -/
def preimages : List Stride → Nat → List Nat
  | [], _ => []
  | run :: runs, code =>
      let source := Int.toNat (code - run.shift)
      if run.has source then source :: preimages runs code else preimages runs code

end Stride

end ModalPanes.Unicode
