import ModalPanes.Pane.Edit

/-!
# Moving the cursor

Motions of a pane, searches included, and the span that an operator makes of the way to a target.
-/

namespace ModalPanes

/-- The span between the cursor and a target.  An exclusive way that ends at the start of a later line
stops at the end of the line before it, and takes whole lines if it starts inside the indent; a way of
no length is none. -/
def Target.span? (target : Target) (buf : Buffer) (start : Position) : Option Span :=
  let range := Range.between start target.pos
  match target.kind with
  | .linewise => some (.lines range.start.line range.stop.line)
  | .inclusive => some (.chars ⟨range.start, range.stop.withCol (range.stop.col + 1)⟩)
  | .exclusive =>
      if range.isEmpty then none
      else if range.stop.col = 0 ∧ range.start.line < range.stop.line then
        let line := range.stop.line - 1
        if range.start.col ≤ buf.firstNonBlank range.start.line then
          some (.lines range.start.line line)
        else some (.chars ⟨range.start, ⟨line, buf.lineLength line⟩⟩)
      else some (.chars range)

namespace Pane

variable (pane : Pane)

def goTo (target : Target) : Pane :=
  let sticky := pane.cursor.sticky
  let pane := pane.jump pane.mode.cursorPastEnd target.pos
  match target.sticky with
  | .keep => pane.moveCursor (·.setSticky sticky)
  | .lineEnd => pane.moveCursor (·.setSticky .lineEnd)
  | .reset => pane

/-- What is said when a search went around the end of the text. -/
def wrapNotice : Direction → List Char
  | .forward => "search hit BOTTOM, continuing at TOP".toList
  | .backward => "search hit TOP, continuing at BOTTOM".toList

/-- Search several times in a row, if every search finds something. -/
def searchTimes (buf : Buffer) (pattern : Pattern) (direction : Direction) :
    Nat → Found → Option Found
  | 0, found => some found
  | count + 1, found =>
      match buf.search pattern found.pos direction with
      | none => none
      | some next => searchTimes buf pattern direction count ⟨next.pos, found.wrapped || next.wrapped⟩

/-- Search several times from a position, and say what was searched for, or that the search went
around. -/
def searchFrom (pattern : Pattern) (start : Position) (direction : Direction) (count : Nat) :
    Option Target × Pane :=
  match searchTimes pane.buffer pattern direction (max count 1) ⟨start, false⟩ with
  | none => (none, pane.fail ("E486: Pattern not found: ".toList ++ pattern.source))
  | some found =>
      (some ⟨found.pos, .exclusive, .reset⟩,
        pane.say (if found.wrapped then wrapNotice direction else direction.sign :: pattern.source))

/-- Where the match under the cursor or behind it on its line starts. -/
def matchStart (pattern : Pattern) : Position :=
  let pos := pane.cursor.pos
  ((pane.buffer.lineMatches pattern pos.line).find? fun found =>
    pos.col < found.start.col + found.length).elim pos LineMatch.start

/-- The target of a search that goes on with the last pattern; its matches are highlighted again. -/
def searchAgain (start : Position) (direction : Direction) (count : Option Nat) :
    Option Target × Pane :=
  match pane.search.pattern with
  | none => (none, pane.fail "E35: No previous regular expression".toList)
  | some pattern =>
      { pane with search := pane.search.setHighlight true }.searchFrom pattern start direction
        (count.getD 1)

def searchWord (direction : Direction) (count : Option Nat) : Option Target × Pane :=
  match Pattern.ofWordAt? pane.buffer pane.cursor.pos with
  | none => (none, pane.fail "E348: No string under cursor".toList)
  | some pattern =>
      { pane with search := .commit pattern direction }.searchAgain (pane.matchStart pattern)
        direction count

def resolveSearch (motion : SearchMotion) (count : Option Nat) : Option Target × Pane :=
  let direction := pane.search.direction
  match motion with
  | .next => pane.searchAgain pane.cursor.pos direction count
  | .previous => pane.searchAgain pane.cursor.pos direction.opposite count
  | .wordForward => pane.searchWord .forward count
  | .wordBackward => pane.searchWord .backward count

def resolve (motion : Motion) (count : Option Nat) (operator changeWord : Bool) :
    Option Target × Pane :=
  match motion with
  | .search motion => pane.resolveSearch motion count
  | _ =>
      let context : MotionContext :=
        { buf := pane.buffer
          cursor := pane.cursor
          count := count
          lastFind := pane.lastFind
          viewTop := pane.view.top
          viewRows := pane.visibleLines
          operator := operator
          changeWord := changeWord }
      (context.resolve motion, pane)

def move (motion : Motion) (count : Option Nat) : Pane :=
  match pane.resolve motion count false false with
  | (some target, pane) => pane.goTo target
  | (none, pane) => pane

/-- The motion that an operator takes: changing a word leaves the blanks behind it, as if the motion
went to the end of the word. -/
def motionFor (op : Operator) (motion : Motion) : Motion × Bool :=
  let onText :=
    ((pane.buffer.charAt? pane.cursor.pos).map fun c => !Unicode.isSpace c).getD false
  match motion with
  | .word .forward big =>
      if op = .change ∧ onText then (.word .endForward big, true) else (motion, false)
  | _ => (motion, false)

/-- Apply an operator to the way of a motion.  A way of no length changes nothing, but a change still
starts typing. -/
def operateByMotion (pending : PendingOperator) (motion : Motion) (count : Option Nat) : Pane :=
  let count := mergeCounts pending.count count
  let start := pane.cursor.pos
  let chosen := pane.motionFor pending.op motion
  match pane.resolve chosen.1 count true chosen.2 with
  | (none, pane) => pane.cancelCommand
  | (some target, pane) =>
      match target.span? pane.buffer start with
      | some span => pane.operate pending.op span
      | none =>
          let pane := { pane with register := none }
          if pending.op = .change then pane.startInsert .plain 1 else pane

/-- Apply an operator to some lines from the cursor on. -/
def operateOnLinesHere (op : Operator) (count : Nat) : Pane :=
  let first := pane.cursor.pos.line
  pane.operate op (.lines first (min (first + max count 1 - 1) pane.buffer.lastLine))

end Pane

end ModalPanes
