import ModalPanes.Cursor
import ModalPanes.Mode
import ModalPanes.Text.Object

/-!
# Motions

A motion with a count has a target: where the cursor goes, how an operator reads the way there, and what
becomes of the wanted column.  A motion that cannot move at all has no target, and an operator waiting
for it is given up.  Motions that search need the state of the search and are not resolved here.
-/

namespace ModalPanes

/-- A search for a character on the line: its direction, and whether it stops one short. -/
structure Find where
  direction : Direction
  till : Bool
deriving DecidableEq

/-- The same search the other way. -/
def Find.reversed (find : Find) : Find := { find with direction := find.direction.opposite }

/-- The four ways to go by words. -/
inductive WordStep where
  | forward
  | backward
  | endForward
  | endBackward
deriving DecidableEq

/-- The motions that go through the state of the search. -/
inductive SearchMotion where
  | next
  | previous
  | wordForward
  | wordBackward
deriving DecidableEq

/-- Where a key sends the cursor. -/
inductive Motion where
  | left
  | right
  | up
  | down
  | lineStart
  | firstNonBlank
  | lineEnd
  | nextLineStart
  | previousLineStart
  | word (step : WordStep) (big : Bool)
  | firstLine
  | lastLine
  | column
  | find (find : Find) (c : Char)
  | repeatFind (reversed : Bool)
  | paragraph (direction : Direction)
  | matchBracket
  | screenTop
  | screenMiddle
  | screenBottom
  | search (motion : SearchMotion)
deriving DecidableEq

namespace Motion

/-- How an operator reads the way to the target. -/
def kind : Motion → RangeKind
  | up | down | nextLineStart | previousLineStart | firstLine | lastLine
  | screenTop | screenMiddle | screenBottom => .linewise
  | lineEnd | matchBracket => .inclusive
  | word .endForward _ | word .endBackward _ => .inclusive
  | find way _ => if way.direction.isForward then .inclusive else .exclusive
  | _ => .exclusive

/-- Whether the motion goes through the state of the search. -/
def isSearch : Motion → Bool
  | search _ => true
  | _ => false

end Motion

/-- What a motion does to the wanted column. -/
inductive StickyEffect where
  | keep
  | reset
  | lineEnd
deriving DecidableEq

/-- Where a motion leads. -/
structure Target where
  pos : Position
  kind : RangeKind
  sticky : StickyEffect := .reset
deriving DecidableEq

/-- What a motion looks at.  An operator changes where a word motion stops, and one that changes text
may stay on the last character of a word. -/
structure MotionContext where
  buf : Buffer
  cursor : Cursor
  count : Option Nat := none
  lastFind : Option (Find × Char) := none
  viewTop : Nat := 0
  viewRows : Nat := 0
  operator : Bool := false
  changeWord : Bool := false

namespace Buffer

variable (buf : Buffer)

def isEmptyLine (line : Nat) : Bool := buf.lineLength line == 0

/-- Down from a line, over at most `room` lines, as long as lines are empty or not, as asked. -/
def downWhile (empty : Bool) : Nat → Nat → Nat
  | 0, line => line
  | room + 1, line => if buf.isEmptyLine line = empty then downWhile empty room (line + 1) else line

/-- Up from a line as long as lines are empty or not, as asked. -/
def upWhile (empty : Bool) : Nat → Nat
  | 0 => 0
  | line + 1 => if buf.isEmptyLine (line + 1) = empty then upWhile empty line else line + 1

/-- The next empty line behind a paragraph, or the last line. -/
def paragraphDown (line : Nat) : Nat :=
  let text := buf.downWhile true (buf.lastLine - line) line
  buf.downWhile false (buf.lastLine - text) text

/-- The empty line in front of a paragraph, or the first line. -/
def paragraphUp (line : Nat) : Nat := buf.upWhile false (buf.upWhile true line)

/-- Several paragraphs down; behind the last one is the end of the text. -/
def paragraphForward (pos : Position) (count : Nat) : Position :=
  let line := Nat.repeat buf.paragraphDown count pos.line
  if line = buf.lastLine then ⟨line, buf.lineLength line⟩ else ⟨line, 0⟩

def paragraphBackward (pos : Position) (count : Nat) : Position :=
  ⟨Nat.repeat buf.paragraphUp count pos.line, 0⟩

/-- Where a search for a character on the line leads.  A repeated one that stops short passes over a
character right in front of it, so that it can get ahead. -/
def findTarget? (pos : Position) (find : Find) (c : Char) (count : Nat) (repeated : Bool) :
    Option Target :=
  let skip := if repeated && find.till then 1 else 0
  match find.direction with
  | .forward =>
      (buf.findForward? (pos.withCol (pos.col + skip)) c count).map fun col =>
        ⟨pos.withCol (if find.till then col - 1 else col), .inclusive, .reset⟩
  | .backward =>
      (buf.findBackward? (pos.withCol (pos.col - skip)) c count).map fun col =>
        ⟨pos.withCol (if find.till then col + 1 else col), .exclusive, .reset⟩

def classifier (big : Bool) : Char → CharClass := if big then classifyBig else classify

def wordStep (step : WordStep) (big : Bool) (pos : Position) : Position :=
  match step with
  | .forward => buf.wordForward (classifier big) pos
  | .backward => buf.wordBackward (classifier big) pos
  | .endForward => buf.wordEndForward (classifier big) pos
  | .endBackward => buf.wordEndBackward (classifier big) pos

/-- Word starts ahead.  For an operator the last step does not leave a line that is not empty. -/
def wordsForward (operator big : Bool) : Nat → Position → Position
  | 0, pos => pos
  | count + 1, pos =>
      let next := buf.wordStep .forward big pos
      if operator && count == 0 && pos.line < next.line && 0 < buf.lineLength pos.line then
        ⟨pos.line, buf.lineLength pos.line⟩
      else wordsForward operator big count next

/-- Whether a position holds the last character of a word. -/
def atWordEnd (big : Bool) (pos : Position) : Bool :=
  let here := (buf.charAt? pos).map (classifier big)
  let next := (buf.charAt? (pos.withCol (pos.col + 1))).map (classifier big)
  (here.map CharClass.isText).getD false && here != next

/-- The first character of a line that is not blank; lines beyond the end are the last one. -/
def lineStartOf (line : Nat) : Position :=
  let line := min line buf.lastLine
  ⟨line, buf.firstNonBlank line⟩

end Buffer

namespace MotionContext

variable (context : MotionContext)

def times : Nat := max (context.count.getD 1) 1

/-- Where a motion that does not search leads. -/
def resolve (motion : Motion) : Option Target :=
  let buf := context.buf
  let pos := context.cursor.pos
  let n := context.times
  let last := buf.lastLine
  let aim := fun pos : Position => some { pos := pos, kind := motion.kind : Target }
  let toLine := fun line : Nat => aim (buf.lineStartOf line)
  let vertical := fun line : Nat =>
    some ({ pos := ⟨line, context.cursor.sticky.within (buf.lastColumn false line)⟩
            kind := motion.kind
            sticky := .keep } : Target)
  let bottom := min (context.viewTop + max context.viewRows 1 - 1) last
  match motion with
  | .left =>
      if pos.col = 0 then none
      else aim (pos.withCol (min pos.col (buf.lineLength pos.line) - n))
  | .right => aim (pos.withCol (min (pos.col + n) (buf.lineLength pos.line)))
  | .up => if pos.line = 0 then none else vertical (pos.line - n)
  | .down => if pos.line = last then none else vertical (min (pos.line + n) last)
  | .lineStart => aim (pos.withCol 0)
  | .firstNonBlank => aim (pos.withCol (buf.firstNonBlank pos.line))
  | .lineEnd =>
      let line := min (pos.line + n - 1) last
      some ⟨⟨line, buf.lastColumn false line⟩, motion.kind, .lineEnd⟩
  | .nextLineStart => if pos.line = last then none else toLine (pos.line + n)
  | .previousLineStart => if pos.line = 0 then none else toLine (pos.line - n)
  | .word .forward big => aim (buf.wordsForward context.operator big n pos)
  | .word .endForward big =>
      let stays := context.changeWord && buf.atWordEnd big pos
      aim (Nat.repeat (buf.wordStep .endForward big) (if stays then n - 1 else n) pos)
  | .word step big => aim (Nat.repeat (buf.wordStep step big) n pos)
  | .firstLine => toLine ((context.count.getD 1) - 1)
  | .lastLine => toLine (match context.count with | some line => line - 1 | none => last)
  | .column => aim (pos.withCol (min (n - 1) (buf.lastColumn false pos.line)))
  | .find find c => buf.findTarget? pos find c n false
  | .repeatFind reversed =>
      context.lastFind.bind fun found =>
        buf.findTarget? pos (if reversed then found.1.reversed else found.1) found.2 n true
  | .paragraph .forward => aim (buf.paragraphForward pos n)
  | .paragraph .backward => aim (buf.paragraphBackward pos n)
  | .matchBracket =>
      match context.count with
      | some percent =>
          if percent ≤ 100 then
            let line := (percent * buf.lineCount + 99) / 100 - 1
            some ⟨⟨line, buf.firstNonBlank line⟩, .linewise, .reset⟩
          else none
      | none => (buf.matchingBracket? pos).bind aim
  | .screenTop => toLine (min (context.viewTop + n - 1) bottom)
  | .screenMiddle =>
      let visible := max (min context.viewRows (buf.lineCount - min context.viewTop last)) 1
      toLine (context.viewTop + (visible - 1) / 2)
  | .screenBottom => toLine (max (bottom - (n - 1)) context.viewTop)
  | .search _ => none

end MotionContext

end ModalPanes
