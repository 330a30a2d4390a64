import ModalPanes.Key.Basic
import ModalPanes.Mode

/-!
# The prompt

The line on which commands and searches are typed.  It is a text with a cursor between characters, and
every key edits it, submits it or gives it up.
-/

namespace ModalPanes

/-- What a prompt collects. -/
inductive PromptKind where
  | command
  | search (direction : Direction)
deriving DecidableEq

def PromptKind.sign : PromptKind → Char
  | command => ':'
  | search direction => direction.sign

/-- What a key came to. -/
inductive PromptEvent where
  | pending
  | submit (text : List Char)
  | cancel
deriving DecidableEq

/-- A text with a cursor between its characters. -/
structure InputLine where
  text : List Char := []
  cursor : Nat := 0
deriving DecidableEq, Inhabited

namespace InputLine

def insert (line : InputLine) (c : Char) : InputLine :=
  ⟨line.text.take line.cursor ++ c :: line.text.drop line.cursor, line.cursor + 1⟩

def eraseFrom (line : InputLine) (start : Nat) : InputLine :=
  ⟨line.text.take start ++ line.text.drop line.cursor, start⟩

/-- Erase the character in front of the cursor. -/
def backspace (line : InputLine) : InputLine := line.eraseFrom (line.cursor - 1)

/-- Erase the character behind the cursor. -/
def delete (line : InputLine) : InputLine :=
  { line with text := line.text.take line.cursor ++ line.text.drop (line.cursor + 1) }

/-- Where the word in front of the cursor starts; spaces behind it belong to it. -/
def wordStart (line : InputLine) : Nat :=
  (((line.text.take line.cursor).reverse.dropWhile (· == ' ')).dropWhile (· != ' ')).length

/-- Erase the word in front of the cursor. -/
def deleteWord (line : InputLine) : InputLine := line.eraseFrom line.wordStart

/-- Erase everything in front of the cursor. -/
def clear (line : InputLine) : InputLine := line.eraseFrom 0

def left (line : InputLine) : InputLine := { line with cursor := line.cursor - 1 }

def right (line : InputLine) : InputLine :=
  if line.cursor < line.text.length then { line with cursor := line.cursor + 1 } else line

def home (line : InputLine) : InputLine := { line with cursor := 0 }

def toEnd (line : InputLine) : InputLine := { line with cursor := line.text.length }

end InputLine

/-- An open prompt. -/
structure Prompt where
  kind : PromptKind
  line : InputLine := {}
deriving DecidableEq

namespace Prompt

def withText (kind : PromptKind) (text : List Char) : Prompt := ⟨kind, ⟨text, text.length⟩⟩

def display (prompt : Prompt) : List Char := prompt.kind.sign :: prompt.line.text

def edit (prompt : Prompt) (line : InputLine) : Prompt × PromptEvent :=
  ({ prompt with line := line }, .pending)

/-- Erase a character, or give up if there is no text. -/
def backspace (prompt : Prompt) : Prompt × PromptEvent :=
  if prompt.line.text.isEmpty then (prompt, .cancel) else prompt.edit prompt.line.backspace

/-- What a key does: the prompt afterwards, and what it came to. -/
def handleKey (prompt : Prompt) (key : Key) : Prompt × PromptEvent :=
  let line := prompt.line
  if key.isCtrl 'u' then prompt.edit line.clear
  else if key.isCtrl 'w' then prompt.edit line.deleteWord
  else if key.isCtrl 'c' || key.isCtrl '[' then (prompt, .cancel)
  else if key.isCtrl 'h' then prompt.backspace
  else
    match key.code with
    | .enter => (prompt, .submit line.text)
    | .escape => (prompt, .cancel)
    | .backspace => prompt.backspace
    | .delete => prompt.edit line.delete
    | .left => prompt.edit line.left
    | .right => prompt.edit line.right
    | .home => prompt.edit line.home
    | .endKey => prompt.edit line.toEnd
    | .tab => prompt.edit (line.insert '\t')
    | _ =>
        match key.typed? with
        | some c => prompt.edit (line.insert c)
        | none => (prompt, .pending)

end Prompt

end ModalPanes
