import ModalPanes.Text.Buffer

/-!
# Undo and redo

Edits are recorded in transactions, one for each step that undo takes back.  Undoing a transaction runs
its edits backwards, each inverted; redoing runs them forwards again.  Every transaction has a number of
its own that is never given out twice, so the number of the newest one names the state of the text.
-/

namespace ModalPanes

/-- A change of the text: something put in, or something taken out, at a position. -/
inductive Edit where
  | insert (pos : Position) (text : List Char)
  | erase (pos : Position) (text : List Char)
deriving DecidableEq

namespace Edit

/-- Where a text ends that starts at the given position. -/
def stopOf (start : Position) : List Char → Position
  | [] => start
  | c :: text => stopOf (if c = '\n' then ⟨start.line + 1, 0⟩ else ⟨start.line, start.col + 1⟩) text

def rangeOf (start : Position) (text : List Char) : Range :=
  .between start (stopOf start text)

def apply (buf : Buffer) : Edit → Buffer
  | .insert pos text => buf.insert pos text
  | .erase pos text => buf.erase (rangeOf pos text)

/-- The change that takes this one back. -/
def inverse : Edit → Edit
  | .insert pos text => .erase pos text
  | .erase pos text => .insert pos text

@[simp] theorem inverse_inverse (edit : Edit) : edit.inverse.inverse = edit := by
  cases edit <;> rfl

def text : Edit → List Char
  | .insert _ text => text
  | .erase _ text => text

end Edit

/-- The edits of one step, newest first, with the cursor on either side of the step. -/
structure Transaction where
  id : Nat
  edits : List Edit
  before : Position
  after : Position
deriving DecidableEq

namespace Transaction

/-- Take the edits back, the newest first. -/
def undo (step : Transaction) (buf : Buffer) : Buffer :=
  step.edits.foldl (fun buf edit => edit.inverse.apply buf) buf

/-- Make the edits again, the oldest first. -/
def redo (step : Transaction) (buf : Buffer) : Buffer :=
  step.edits.reverse.foldl Edit.apply buf

end Transaction

/-- The steps done and undone, newest first, and the step under way. -/
structure History where
  done : List Transaction := []
  undone : List Transaction := []
  current : Option Transaction := none
  lastId : Nat := 0
deriving DecidableEq, Inhabited

namespace History

/-- Whether a step is under way. -/
def isOpen (history : History) : Bool := history.current.isSome

/-- End the step under way, and say whether it changed anything; a step without edits is dropped. -/
def commit (history : History) (cursor : Position) : History × Bool :=
  match history.current with
  | none => (history, false)
  | some step =>
      if step.edits.isEmpty then ({ history with current := none }, false)
      else
        let id := history.lastId + 1
        ({ done := { step with id := id, after := cursor } :: history.done
           undone := []
           current := none
           lastId := id }, true)

/-- Start a step; one still under way ends first. -/
def start (history : History) (cursor : Position) : History :=
  { (history.commit cursor).1 with current := some ⟨0, [], cursor, cursor⟩ }

/-- Record an edit in the step under way; an edit without text is none. -/
def record (history : History) (edit : Edit) : History :=
  if edit.text.isEmpty then history
  else
    { history with
      current := history.current.map fun step => { step with edits := edit :: step.edits } }

/-- Take back the newest step: the cursor to restore, the history and the buffer. -/
def undo (history : History) (buf : Buffer) : Option Position × History × Buffer :=
  let history :=
    match history.current with
    | some step => (history.commit step.after).1
    | none => history
  match history.done with
  | [] => (none, history, buf)
  | step :: rest =>
      (some step.before, { history with done := rest, undone := step :: history.undone }, step.undo buf)

/-- Make the newest step taken back again: the cursor to restore, the history and the buffer. -/
def redo (history : History) (buf : Buffer) : Option Position × History × Buffer :=
  match history.undone with
  | [] => (none, history, buf)
  | step :: rest =>
      (some step.before, { history with done := step :: history.done, undone := rest }, step.redo buf)

/-- The number of the newest step done; zero for the first text. -/
def stateId (history : History) : Nat :=
  match history.done with
  | [] => 0
  | step :: _ => step.id

end History

end ModalPanes
