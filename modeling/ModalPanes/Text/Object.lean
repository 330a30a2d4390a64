import ModalPanes.Text.Word

/-!
# Text objects

A text object is a piece of text chosen by structure: a word, a quoted string, or what brackets
enclose, with or without its surroundings.  Brackets nest and may lie on different lines; quotes pair
up from the left on one line.
-/

namespace ModalPanes

namespace Bracket

/-- The index of the opening bracket that the end of these characters, given in reverse, lies inside
of; `depth` counts closed pairs under way. -/
def opening? (left right : Char) (depth : Nat) : List Char → Option Nat
  | [] => none
  | c :: rest =>
      if c = right then opening? left right (depth + 1) rest
      else if c = left then
        match depth with
        | 0 => some rest.length
        | inner + 1 => opening? left right inner rest
      else opening? left right depth rest

/-- How many characters lie in front of the closing bracket that the start of these characters lies
inside of. -/
def closing? (left right : Char) (depth : Nat) : List Char → Option Nat
  | [] => none
  | c :: rest =>
      let later :=
        if c = left then closing? left right (depth + 1) rest
        else if c = right then
          match depth with
          | 0 => none
          | inner + 1 => closing? left right inner rest
        else closing? left right depth rest
      if c = right ∧ c ≠ left ∧ depth = 0 then some 0 else later.map (· + 1)

/-- The brackets that the matching motion knows. -/
def pairs : List (Char × Char) := [('(', ')'), ('[', ']'), ('{', '}')]

end Bracket

inductive ObjectKind where
  | word
  | bigWord
  | quote (mark : Char)
  | bracket (left right : Char)
deriving DecidableEq

def ObjectKind.ofKey? (c : Char) : Option ObjectKind :=
  if c = 'w' then some .word
  else if c = 'W' then some .bigWord
  else if c = '"' ∨ c = '\x27' ∨ c = '\x60' then some (.quote c)
  else if c = '(' ∨ c = ')' ∨ c = 'b' then some (.bracket '(' ')')
  else if c = '[' ∨ c = ']' then some (.bracket '[' ']')
  else if c = '{' ∨ c = '}' ∨ c = 'B' then some (.bracket '{' '}')
  else if c = '<' ∨ c = '>' then some (.bracket '<' '>')
  else none

/-- A text object: what it selects, and whether the surroundings belong to it. -/
structure TextObject where
  kind : ObjectKind
  around : Bool
deriving DecidableEq

namespace Buffer

variable (buf : Buffer)

/-- The range between two character indices. -/
def indexRange (first last : Nat) : Range :=
  .between (buf.positionOf first) (buf.positionOf last)

def openingAt? (left right : Char) (index : Nat) : Option Nat :=
  Bracket.opening? left right 0 (buf.before index)

def closingAt? (left right : Char) (index : Nat) : Option Nat :=
  (Bracket.closing? left right 0 (buf.after (index + 1))).map (index + 1 + ·)

/-- The innermost pair of brackets around a character, itself included. -/
def bracketPair? (left right : Char) (pos : Position) : Option (Nat × Nat) :=
  let i := buf.index pos
  match buf.charAt? pos with
  | none => none
  | some c =>
      if c = left then (buf.closingAt? left right i).map fun last => (i, last)
      else if c = right then (buf.openingAt? left right i).map fun first => (first, i)
      else
        match buf.openingAt? left right i with
        | none => none
        | some first =>
            match buf.closingAt? left right first with
            | none => none
            | some last => if first < i ∧ i < last then some (first, last) else none

/-- The bracket that belongs to the first one from the cursor on in its line. -/
def matchingBracket? (pos : Position) : Option Position :=
  let isBracket := fun c => Bracket.pairs.any fun pair => c == pair.1 || c == pair.2
  let ahead := (buf.line pos.line).drop pos.col
  let skipped := (ahead.takeWhile fun c => !isBracket c).length
  match ahead.drop skipped with
  | [] => none
  | c :: _ =>
      let i := buf.index (pos.withCol (pos.col + skipped))
      let target := Bracket.pairs.findSome? fun pair =>
        if c = pair.1 then buf.closingAt? pair.1 pair.2 i
        else if c = pair.2 then buf.openingAt? pair.1 pair.2 i
        else none
      target.map buf.positionOf

/-- The run of characters of one class around a position, as indices. -/
def wordBounds? (class_ : Char → CharClass) (pos : Position) : Option (Nat × Nat) :=
  (buf.charAt? pos).map fun _ =>
    let i := buf.index pos
    let same := fun c => class_ c == Word.frontClass class_ (buf.after i)
    (i - ((buf.before i).takeWhile same).length, i + ((buf.after i).takeWhile same).length)

/-- The word at a position with the blanks behind it, or else those in front of it; blanks come with
the word behind them. -/
def aroundWordBounds? (class_ : Char → CharClass) (pos : Position) : Option (Nat × Nat) :=
  (buf.wordBounds? class_ pos).map fun bounds =>
    let isBlank := fun c => class_ c == .blank
    let ahead := buf.after bounds.2
    if Word.frontClass class_ (buf.after bounds.1) = .blank then
      let next := Word.frontClass class_ ahead
      let word := if next.isText then (ahead.takeWhile (class_ · == next)).length else 0
      (bounds.1, bounds.2 + word)
    else
      let blanks := (ahead.takeWhile isBlank).length
      if 0 < blanks then (bounds.1, bounds.2 + blanks)
      else (bounds.1 - ((buf.before bounds.1).takeWhile isBlank).length, bounds.2)

/-- Neighbours paired up from the left; one left over is dropped. -/
def pairUp : List Nat → List (Nat × Nat)
  | first :: second :: rest => (first, second) :: pairUp rest
  | _ => []

/-- The columns of the quotes around a position, or of the next quoted string of the line. -/
def quotePair? (buf : Buffer) (mark : Char) (pos : Position) : Option (Nat × Nat) :=
  let found := pairUp (columnsOf mark 0 (buf.line pos.line))
  (found.find? fun pair => pair.1 ≤ pos.col && pos.col ≤ pair.2).or
    (found.find? fun pair => pos.col < pair.1)

/-- A quoted string; its surroundings are the quotes and the white space behind them, or else in
front of them. -/
def quoteRange? (mark : Char) (around : Bool) (pos : Position) : Option Range :=
  (buf.quotePair? mark pos).map fun pair =>
    if around then
      let line := buf.line pos.line
      let behind := ((line.drop (pair.2 + 1)).takeWhile Unicode.isSpace).length
      let front :=
        if behind = 0 then ((line.take pair.1).reverse.takeWhile Unicode.isSpace).length else 0
      .between (pos.withCol (pair.1 - front)) (pos.withCol (pair.2 + 1 + behind))
    else .between (pos.withCol (pair.1 + 1)) (pos.withCol pair.2)

/-- What a pair of brackets encloses: whole lines if the brackets stand at the end of a line and at the
start of a later one with lines between them. -/
def bracketInside (pair : Nat × Nat) : Span :=
  let first := buf.positionOf pair.1
  let last := buf.positionOf pair.2
  if first.col + 1 = buf.lineLength first.line ∧
      ((buf.line last.line).take last.col).all Unicode.isSpace ∧ first.line + 1 < last.line then
    .lines (first.line + 1) (last.line - 1)
  else .chars (buf.indexRange (pair.1 + 1) pair.2)

end Buffer

namespace TextObject

/-- The text that the object selects at a position, if there is such an object. -/
def span? (object : TextObject) (buf : Buffer) (pos : Position) : Option Span :=
  let chars := fun bounds : Nat × Nat => Span.chars (buf.indexRange bounds.1 bounds.2)
  match object.kind, object.around with
  | .word, false => (buf.wordBounds? classify pos).map chars
  | .word, true => (buf.aroundWordBounds? classify pos).map chars
  | .bigWord, false => (buf.wordBounds? classifyBig pos).map chars
  | .bigWord, true => (buf.aroundWordBounds? classifyBig pos).map chars
  | .quote mark, around => (buf.quoteRange? mark around pos).map .chars
  | .bracket left right, false => (buf.bracketPair? left right pos).map buf.bracketInside
  | .bracket left right, true =>
      (buf.bracketPair? left right pos).map fun pair => chars (pair.1, pair.2 + 1)

end TextObject

end ModalPanes
