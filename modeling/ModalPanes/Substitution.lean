import ModalPanes.Ex
import ModalPanes.Regex.Expr
import ModalPanes.Unicode.Case

/-!
# Substitution

Replacing matches on a line.  In the replacement, an ampersand and the backslashed digits stand for
matched text, and some letters behind a backslash change the case of what follows: of one character, or
up to the letter that ends it.
-/

namespace ModalPanes

/-- What becomes of the case of written characters. -/
inductive CaseChange where
  | keep
  | upper
  | lower
deriving DecidableEq

def CaseChange.apply (change : CaseChange) (c : Char) : List Char :=
  match change with
  | .keep => [c]
  | .upper => Unicode.toUpper c
  | .lower => Unicode.toLower c

/-- The change for the next character, if it has one of its own, and the change for all others. -/
structure CaseState where
  once : CaseChange := .keep
  always : CaseChange := .keep

namespace CaseState

/-- What a text becomes, and the state behind it. -/
def write (state : CaseState) : List Char → List Char × CaseState
  | [] => ([], state)
  | c :: rest =>
      let first := if state.once = .keep then state.always else state.once
      (first.apply c ++ rest.flatMap state.always.apply, { state with once := .keep })

end CaseState

namespace Substitution

/-- A replacement written out, given the text of every group. -/
def expand (group : Nat → List Char) (state : CaseState) : List Char → List Char
  | [] => []
  | '\\' :: c :: rest =>
      if c.isDigit then
        let written := state.write (group (Numeral.digitValue c))
        written.1 ++ expand group written.2 rest
      else if c = 'u' then expand group { state with once := .upper } rest
      else if c = 'l' then expand group { state with once := .lower } rest
      else if c = 'U' then expand group { state with always := .upper } rest
      else if c = 'L' then expand group { state with always := .lower } rest
      else if c = 'E' ∨ c = 'e' then expand group { state with always := .keep } rest
      else
        let written := state.write [if c = 't' then '\t' else c]
        written.1 ++ expand group written.2 rest
  | c :: rest =>
      let written := state.write (if c = '&' then group 0 else [c])
      written.1 ++ expand group written.2 rest

/-- A line with matches replaced; `done` characters of it are already written. -/
def replaceFrom (line replacement : List Char) (done : Nat) : List Regex.Match → List Char
  | [] => line.drop done
  | found :: rest =>
      (line.drop done).take (found.start.index - done) ++
        (expand (found.group line) {} replacement ++
          replaceFrom line replacement found.stop.index rest)

/-- The matches that the flags ask for: all of a line, or its first. -/
def matchesFor (expr : Regex.Expr) (flags : SubstituteFlags) (line : List Char) : List Regex.Match :=
  if flags.global then expr.findAll line else (expr.findAll line).take 1

/-- The line after the substitution and the number of matches, if there are any; with the flag to count
only, the line stays. -/
def onLine (expr : Regex.Expr) (line replacement : List Char) (flags : SubstituteFlags) :
    Option (List Char × Nat) :=
  let found := matchesFor expr flags line
  if found.isEmpty then none
  else if flags.countOnly then some (line, found.length)
  else some (replaceFrom line replacement 0 found, found.length)

end Substitution

end ModalPanes
