import ModalPanes.Mode
import ModalPanes.Search.Pattern

/-!
# Finding matches

A search goes from a position to the next match, or the previous one, and around the end of the text
once.  A match at the position itself is found last.
-/

namespace ModalPanes

/-- Where a search leads, and whether it went around the end of the text. -/
structure Found where
  pos : Position
  wrapped : Bool
deriving DecidableEq

/-- A match in a buffer. -/
structure LineMatch where
  start : Position
  length : Nat
deriving DecidableEq

namespace Buffer

variable (buf : Buffer) (pattern : Pattern)

def matchColumns (line : Nat) : List Nat :=
  (pattern.matchesOn (buf.line line)).map Prod.fst

/-- The first match on the lines `first + 1`, …, around the end, each taken once; on the line of the
position itself only up to it. -/
def searchDown (pos : Position) : List Nat → Option Found
  | [] => none
  | step :: steps =>
      let line := (pos.line + step) % buf.lineCount
      match (buf.matchColumns pattern line).find? fun c => line != pos.line || c ≤ pos.col with
      | some col => some ⟨⟨line, col⟩, buf.lineCount ≤ pos.line + step⟩
      | none => searchDown pos steps

/-- The last match on the lines above, around the start, each taken once; on the line of the position
itself only from it on. -/
def searchUp (pos : Position) : List Nat → Option Found
  | [] => none
  | step :: steps =>
      let line := (pos.line + buf.lineCount - step) % buf.lineCount
      match (buf.matchColumns pattern line).reverse.find? fun c => line != pos.line || pos.col ≤ c with
      | some col => some ⟨⟨line, col⟩, pos.line < step⟩
      | none => searchUp pos steps

/-- The next match behind a position, or the previous one in front of it. -/
def search (pos : Position) (direction : Direction) : Option Found :=
  let steps := (List.range buf.lineCount).map (· + 1)
  match direction with
  | .forward =>
      match (buf.matchColumns pattern pos.line).find? fun c => pos.col < c with
      | some col => some ⟨pos.withCol col, false⟩
      | none => buf.searchDown pattern pos steps
  | .backward =>
      match (buf.matchColumns pattern pos.line).reverse.find? fun c => c < pos.col with
      | some col => some ⟨pos.withCol col, false⟩
      | none => buf.searchUp pattern pos steps

def lineMatches (line : Nat) : List LineMatch :=
  ((pattern.matchesOn (buf.line line)).filter fun found => 0 < found.2).map fun found =>
    ⟨⟨line, found.1⟩, found.2⟩

/-- The matches on the lines from `first` up to, and without, `last`. -/
def matchesBetween (first last : Nat) : List LineMatch :=
  ((List.range (min last buf.lineCount - first)).map (first + ·)).flatMap (buf.lineMatches pattern)

end Buffer

/-- The last search of a pane: its pattern, its direction, and whether matches are highlighted. -/
structure SearchState where
  pattern : Option Pattern := none
  direction : Direction := .forward
  highlight : Bool := false
deriving DecidableEq

namespace SearchState

/-- A new search; its matches are highlighted. -/
def commit (pattern : Pattern) (direction : Direction) : SearchState :=
  ⟨some pattern, direction, true⟩

def setHighlight (state : SearchState) (on : Bool) : SearchState := { state with highlight := on }

def highlighted? (state : SearchState) : Option Pattern :=
  if state.highlight then state.pattern else none

end SearchState

end ModalPanes
