import ModalPanes.Text.Buffer
import ModalPanes.Unicode.Letter

/-!
# Words

A word is a run of letters, digits and underscores, or a run of other characters that are not blank; a
big word is any run of characters that are not blank.  An empty line counts as a word when moving to
the start of a word, or back to the end of one.

The motions see the text as it lies on either side of a place: what follows in reading order, what
precedes in reverse.  Forward motions answer how many characters they pass, backward motions the index
they reach, which is the number of characters still in front of it.
-/

namespace ModalPanes

/-- What a character is for word motions. -/
inductive CharClass where
  | word
  | punctuation
  | blank
  | newline
deriving DecidableEq, Inhabited

namespace CharClass

def isText : CharClass → Bool
  | word | punctuation => true
  | blank | newline => false

end CharClass

def isWordChar (c : Char) : Bool :=
  Unicode.isAlphanumeric c || c == '_'

def classify (c : Char) : CharClass :=
  if c = '\n' then .newline
  else if Unicode.isSpace c then .blank
  else if isWordChar c then .word
  else .punctuation

/-- The class for big words, which knows no punctuation. -/
def classifyBig (c : Char) : CharClass :=
  match classify c with
  | .punctuation => .word
  | other => other

namespace Word

variable (class_ : Char → CharClass)

/-- The class at the front of a text; the end counts as a line feed. -/
def frontClass : List Char → CharClass
  | [] => .newline
  | c :: _ => class_ c

/-- Whether the place behind these characters, given in reverse, starts a line when a line feed
follows. -/
def startsLine : List Char → Bool
  | [] => true
  | c :: _ => Line.isBreak c && c != '\r'

/-- The blanks and line feeds in front of the next word or empty line. -/
def gapLength : List Char → Nat
  | [] => 0
  | c :: rest =>
      match class_ c with
      | .word | .punctuation => 0
      | .blank => gapLength rest + 1
      | .newline => if rest.head? = some '\n' then 1 else gapLength rest + 1

def toNextStart (after : List Char) : Nat :=
  let first := frontClass class_ after
  let run := if first.isText then (after.takeWhile (class_ · == first)).length else 0
  run + gapLength class_ (after.drop run)

/-- How far it is to the next end of a word, from the character under the cursor. -/
def toNextEnd (after : List Char) : Nat :=
  let later := after.drop 1
  let gap := (later.takeWhile fun c => !(class_ c).isText).length
  match later.drop gap with
  | [] => after.length
  | c :: rest => 1 + gap + (rest.takeWhile (class_ · == class_ c)).length

def previousStart : List Char → Nat
  | [] => 0
  | c :: rest =>
      if (class_ c).isText then (rest.dropWhile (class_ · == class_ c)).length
      else if class_ c = .newline ∧ startsLine rest then rest.length
      else previousStart rest

def lastEnd : List Char → Nat
  | [] => 0
  | c :: rest =>
      if (class_ c).isText then rest.length
      else if class_ c = .newline ∧ startsLine rest then rest.length
      else lastEnd rest

/-- The index of the last end of a word in front of the one that `first` belongs to. -/
def previousEnd (first : CharClass) (before : List Char) : Nat :=
  if first.isText then lastEnd class_ (before.dropWhile (class_ · == first))
  else lastEnd class_ before

end Word

namespace Buffer

variable (class_ : Char → CharClass) (buf : Buffer)

def before (index : Nat) : List Char := (buf.text.take index).reverse

def after (index : Nat) : List Char := buf.text.drop index

/-- The next start of a word, or the end of the buffer. -/
def wordForward (pos : Position) : Position :=
  let i := buf.index pos
  buf.positionOf (i + Word.toNextStart class_ (buf.after i))

/-- The previous start of a word, or the start of the buffer. -/
def wordBackward (pos : Position) : Position :=
  buf.positionOf (Word.previousStart class_ (buf.before (buf.index pos)))

def wordEndForward (pos : Position) : Position :=
  let i := buf.index pos
  buf.positionOf (i + Word.toNextEnd class_ (buf.after i))

def wordEndBackward (pos : Position) : Position :=
  let i := buf.index pos
  buf.positionOf (Word.previousEnd class_ (Word.frontClass class_ (buf.after i)) (buf.before i))

end Buffer

namespace Word

/-- The run of characters with a property that a column lies in, or the next one: where it starts, and
its text. -/
def runAt? (holds : Char → Bool) (line : List Char) (col : Nat) : Option (Nat × List Char) :=
  let behind := line.drop col
  match behind with
  | [] => none
  | c :: _ =>
      let start :=
        if holds c then col - ((line.take col).reverse.takeWhile holds).length
        else col + (behind.takeWhile fun d => !holds d).length
      let run := (line.drop start).takeWhile holds
      if run.isEmpty then none else some (start, run)

end Word

/-- A word to search for: its column, its text, and whether it is a keyword. -/
structure WordAt where
  col : Nat
  text : List Char
  keyword : Bool
deriving DecidableEq

/-- The keyword under the cursor or behind it on its line, or else the characters there that are not
blank. -/
def Buffer.wordAt? (buf : Buffer) (pos : Position) : Option WordAt :=
  let line := buf.line pos.line
  let col := min pos.col line.length
  match Word.runAt? isWordChar line col with
  | some (start, text) => some ⟨start, text, true⟩
  | none => (Word.runAt? (fun c => !Unicode.isSpace c) line col).map fun run => ⟨run.1, run.2, false⟩

end ModalPanes
