import ModalPanes.Text.Quoted

/-!
# Lines of a text

A line ends behind a line feed, a carriage return, or one of the rarer line breaks; a carriage return
and the line feed behind it are one break.  `pieces` cuts a text into its lines with their breaks, and
joining the pieces gives the text back.  Only a line feed is taken off the end of a line when it is shown
or edited: the other breaks count as characters of their line.
-/

namespace ModalPanes

def byteLength : List Char → Nat
  | [] => 0
  | c :: rest => c.utf8Size + byteLength rest

namespace Line

def isBreak (c : Char) : Bool :=
  c == '\n' || c == '\r' || c == '\x0b' || c == '\x0c' || c == '\u0085' || c == '\u2028' || c == '\u2029'

/-- Put a character in front of a text cut into pieces.  A break becomes a piece of its own, except a
carriage return in front of a line feed. -/
def consPieces (c : Char) : List (List Char) → List (List Char)
  | [] => [[c]]
  | piece :: rest =>
      if isBreak c && !(c == '\r' && piece.head? == some '\n') then [c] :: piece :: rest
      else (c :: piece) :: rest

/-- The lines of a text with their breaks; the last one has none, and may be empty. -/
def pieces (text : List Char) : List (List Char) :=
  text.foldr consPieces [[]]

/-- The line without its line feed. -/
def trimBreak (piece : List Char) : List Char :=
  if piece.getLast? = some '\n' then piece.dropLast else piece

@[simp] theorem pieces_nil : pieces [] = [[]] := rfl

@[simp] theorem pieces_cons (c : Char) (text : List Char) :
    pieces (c :: text) = consPieces c (pieces text) := rfl

@[simp] theorem flatten_consPieces (c : Char) (cut : List (List Char)) :
    (consPieces c cut).flatten = c :: cut.flatten := by
  unfold consPieces
  split
  · rfl
  · split <;> simp

/-- Cutting loses nothing. -/
@[simp] theorem flatten_pieces (text : List Char) : (pieces text).flatten = text := by
  induction text with
  | nil => rfl
  | cons c text ih => simp [ih]

@[simp] theorem consPieces_ne_nil (c : Char) (cut : List (List Char)) : consPieces c cut ≠ [] := by
  unfold consPieces
  split
  · simp
  · split <;> simp

/-- Every text has at least one line. -/
@[simp] theorem pieces_ne_nil (text : List Char) : pieces text ≠ [] := by
  cases text <;> simp

/-- Put a character in front of a text cut at its line feeds. -/
def consRow (c : Char) (rows : List (List Char)) : List (List Char) :=
  if c = '\n' then [] :: rows
  else
    match rows with
    | [] => [[c]]
    | row :: rest => (c :: row) :: rest

/-- The stretches of text between line feeds; a text without any is one row. -/
def rows (text : List Char) : List (List Char) :=
  text.foldr consRow [[]]

@[simp] theorem rows_nil : rows [] = [[]] := rfl

@[simp] theorem rows_cons (c : Char) (text : List Char) : rows (c :: text) = consRow c (rows text) := rfl

end Line

end ModalPanes
