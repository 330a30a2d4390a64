import ModalPanes.Regex.CharSet

/-!
# Regular expressions and their matches

An expression is matched at a place of a text, and the place where the match ends is handed on to
whatever follows.  Of all ways to match, the first counts: alternatives from left to right, greedy
repetitions longest first, others shortest first.  A repetition does not go round again without having
passed a character.

`Expr.find?` gives the leftmost match from a place on, and `Expr.findAll` all matches that do not
overlap.  An empty match right behind another match is passed over.
-/

namespace ModalPanes.Regex

/-- A condition on the characters around a place.  Lines end at line feeds, or else at line feeds, at
carriage returns, and at both together. -/
inductive Anchor where
  | textStart
  | textEnd
  | lineStart
  | lineEnd
  | returnStart
  | returnEnd
  | wordBoundary
  | wordStart
  | wordEnd
  | wordStartHalf
  | wordEndHalf
deriving DecidableEq

/-- A regular expression.  Groups are numbered from one. -/
inductive Expr where
  | empty
  | set (set : CharSet)
  | anchor (anchor : Anchor)
  | seq (first second : Expr)
  | alt (first second : Expr)
  | repetition (least : Nat) (most : Option Nat) (greedy : Bool) (body : Expr)
  | group (index : Nat) (body : Expr)
deriving DecidableEq

/-- A place in a text: its index, the character in front of it and the text behind it. -/
structure Place where
  index : Nat
  previous : Option Char
  rest : List Char
deriving DecidableEq

namespace Place

def start (text : List Char) : Place := ⟨0, none, text⟩

def next? (place : Place) : Option Place :=
  match place.rest with
  | [] => none
  | c :: rest => some ⟨place.index + 1, some c, rest⟩

/-- Whether a condition holds here. -/
def satisfies (place : Place) (anchor : Anchor) : Bool :=
  let before := (place.previous.map Unicode.isWord).getD false
  let behind := (place.rest.head?.map Unicode.isWord).getD false
  match anchor with
  | .textStart => place.previous.isNone
  | .textEnd => place.rest.isEmpty
  | .lineStart => place.previous.isNone || place.previous == some '\n'
  | .lineEnd => place.rest.isEmpty || place.rest.head? == some '\n'
  | .returnStart =>
      place.previous.isNone || place.previous == some '\n' ||
        (place.previous == some '\r' && place.rest.head? != some '\n')
  | .returnEnd =>
      place.rest.isEmpty || place.rest.head? == some '\r' ||
        (place.rest.head? == some '\n' && place.previous != some '\r')
  | .wordBoundary => before != behind
  | .wordStart => !before && behind
  | .wordEnd => before && !behind
  | .wordStartHalf => !before
  | .wordEndHalf => !behind

end Place

/-- The stretches that groups matched, the latest first: group, start and end. -/
abbrev Captures := List (Nat × Nat × Nat)

/-- What follows a part of an expression: it gets the place where the part ended, and answers the end
of the whole match if there is one. -/
abbrev Rest := Place → Captures → Option (Place × Captures)

/-- A part of an expression as a search: from a place, for what follows. -/
abbrev Matcher := Place → Captures → Rest → Option (Place × Captures)

namespace Matcher

def times (body : Matcher) : Nat → Matcher
  | 0 => fun place caps rest => rest place caps
  | count + 1 => fun place caps rest =>
      body place caps fun stop caps => times body count stop caps rest

/-- Going on or stopping, in the order that greed asks for. -/
def choose (greedy : Bool) (more stop : Unit → Option (Place × Captures)) :
    Option (Place × Captures) :=
  if greedy then (more ()).or (stop ()) else (stop ()).or (more ())

/-- The same part at most so many times. -/
def upTo (greedy : Bool) (body : Matcher) : Nat → Matcher
  | 0 => fun place caps rest => rest place caps
  | count + 1 => fun place caps rest =>
      choose greedy (fun _ => body place caps fun stop caps => upTo greedy body count stop caps rest)
        fun _ => rest place caps

/-- Any number of rounds behind the first; every round has to pass a character, so `fuel`, the number
of characters left, bounds them. -/
def rounds (greedy : Bool) (body : Matcher) : Nat → Matcher
  | 0 => fun place caps rest => rest place caps
  | fuel + 1 => fun place caps rest =>
      choose greedy
        (fun _ => body place caps fun stop caps =>
          if stop.index = place.index then none else rounds greedy body fuel stop caps rest)
        fun _ => rest place caps

/-- One round and any number behind it; a first round that passes nothing is the only one. -/
def oneOrMore (greedy : Bool) (body : Matcher) : Matcher := fun place caps rest =>
  body place caps fun stop caps =>
    if stop.index = place.index then rest stop caps
    else rounds greedy body place.rest.length stop caps rest

def anyNumber (greedy : Bool) (body : Matcher) : Matcher := fun place caps rest =>
  choose greedy (fun _ => oneOrMore greedy body place caps rest) fun _ => rest place caps

/-- So many times, and up to so many more. -/
def between (greedy : Bool) (body : Matcher) (least : Nat) : Option Nat → Matcher
  | some most => fun place caps rest =>
      times body least place caps fun stop caps => upTo greedy body (most - least) stop caps rest
  | none =>
      match least with
      | 0 => anyNumber greedy body
      | count + 1 => fun place caps rest =>
          times body count place caps fun stop caps => oneOrMore greedy body stop caps rest

end Matcher

/-- A match: where it starts, where it ends, and what its groups matched. -/
structure Match where
  start : Place
  stop : Place
  captures : Captures

namespace Match

/-- The number of characters. -/
def length (found : Match) : Nat := found.stop.index - found.start.index

/-- The text of a group, empty if it took no part; group zero is the whole match. -/
def group (found : Match) (line : List Char) (index : Nat) : List Char :=
  if index = 0 then found.start.rest.take found.length
  else
    match found.captures.lookup index with
    | some (first, last) => (line.take last).drop first
    | none => []

end Match

namespace Expr

def matcher : Expr → Matcher
  | empty => fun place caps rest => rest place caps
  | set chars => fun place caps rest =>
      match place.rest with
      | c :: behind => if chars.has c then rest ⟨place.index + 1, some c, behind⟩ caps else none
      | [] => none
  | anchor condition => fun place caps rest =>
      if place.satisfies condition then rest place caps else none
  | seq first second => fun place caps rest =>
      matcher first place caps fun stop caps => matcher second stop caps rest
  | alt first second => fun place caps rest =>
      (matcher first place caps rest).or (matcher second place caps rest)
  | repetition least most greedy body => Matcher.between greedy (matcher body) least most
  | group index body => fun place caps rest =>
      matcher body place caps fun stop caps => rest stop ((index, place.index, stop.index) :: caps)

def matchAt? (expr : Expr) (place : Place) : Option Match :=
  (expr.matcher place [] fun stop caps => some (stop, caps)).map fun found =>
    ⟨place, found.1, found.2⟩

/-- The first match from a place on, given by its index, the character in front of it and the text. -/
def findFrom? (expr : Expr) (index : Nat) (previous : Option Char) : List Char → Option Match
  | [] => expr.matchAt? ⟨index, previous, []⟩
  | c :: rest =>
      match expr.matchAt? ⟨index, previous, c :: rest⟩ with
      | some found => some found
      | none => findFrom? expr (index + 1) (some c) rest

def find? (expr : Expr) (place : Place) : Option Match :=
  expr.findFrom? place.index place.previous place.rest

/-- The first match from a place on that is not an empty one at the end of the previous match. -/
def findNext? (expr : Expr) (place : Place) (lastStop : Option Nat) : Option Match :=
  match expr.find? place with
  | none => none
  | some found =>
      if found.start.index = found.stop.index ∧ some found.stop.index = lastStop then
        place.next?.bind expr.find?
      else some found

/-- The matches from a place on, at most `fuel` of them. -/
def findAllFrom (expr : Expr) : Nat → Place → Option Nat → List Match
  | 0, _, _ => []
  | fuel + 1, place, lastStop =>
      match expr.findNext? place lastStop with
      | none => []
      | some found => found :: findAllFrom expr fuel found.stop (some found.stop.index)

/-- All matches in a text that do not overlap, from left to right.  Their ends increase, so there are
no more of them than places. -/
def findAll (expr : Expr) (text : List Char) : List Match :=
  expr.findAllFrom (text.length + 1) (.start text) none

def isMatch (expr : Expr) (text : List Char) : Bool := (expr.find? (.start text)).isSome

/-- The room that a compiled expression takes, in bytes, about. -/
def cost : Expr → Nat
  | empty => 32
  | set chars => chars.cost
  | anchor _ => 32
  | seq first second => first.cost + second.cost
  | alt first second => 40 + first.cost + second.cost
  | repetition least most _ body =>
      match most with
      | some most => 32 + most * (body.cost + if least < most then 32 else 0)
      | none => 64 + max least 1 * body.cost
  | group _ body => 64 + body.cost

end Expr

end ModalPanes.Regex
