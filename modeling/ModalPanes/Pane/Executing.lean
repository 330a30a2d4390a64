import ModalPanes.Pane.Moving
import ModalPanes.Substitution

/-!
# Prompts and command lines

Opening the prompt, handing keys to it, and carrying out what it submits.  Whatever the user gets wrong
is said on the status row, and nothing else happens.
-/

namespace ModalPanes

namespace Pane

variable (pane : Pane)

def openPrompt (kind : PromptKind) (text : List Char) (operator : Option PendingOperator)
    (count : Option Nat) : Pane :=
  { pane with
    prompt := some ⟨.withText kind text, pane.mode, operator, count⟩
    mode := .commandLine }.clearMessage

/-- What is said about a pattern that cannot be read. -/
def invalidPattern (source : List Char) : List Char :=
  "E383: Invalid search string: ".toList ++ source

/-- The source of a pattern: an empty one means the last one. -/
def patternSource? (text : List Char) : Option (List Char) :=
  if text.isEmpty then pane.search.pattern.map Pattern.source else some text

/-- What is said when there is no last pattern. -/
def noPattern : List Char := "E35: No previous regular expression".toList

/-- Carry out a search that was typed, for an operator or to move the cursor. -/
def submitSearch (text : List Char) (direction : Direction) (operator : Option PendingOperator)
    (count : Option Nat) : Pane :=
  match pane.patternSource? text with
  | none => pane.fail noPattern
  | some source =>
      match Pattern.compile? source with
      | none => pane.fail (invalidPattern source)
      | some pattern =>
          let start := pane.cursor.pos
          let pane := { pane with search := .commit pattern direction }
          match pane.searchFrom pattern start direction (count.getD 1) with
          | (none, pane) => { pane with register := none }
          | (some target, pane) =>
              match operator with
              | none => pane.goTo target
              | some pending =>
                  match target.span? pane.buffer start with
                  | some span => pane.operate pending.op span
                  | none => pane

/-- Count the present text as written, and say so. -/
def write : Pane :=
  let text :=
    '"' :: (pane.bufferName ++ "\" ".toList ++ decimal pane.buffer.lineCount ++ "L, ".toList ++
      decimal pane.buffer.writtenBytes ++ "B written".toList)
  { pane with
    savedId := pane.history.stateId
    buffer := { pane.buffer with modified := false } }.say text

def requestClose : Pane := { pane with closing := true }

def linesOf (range : LineRange) : Except (List Char) (Nat × Nat) :=
  let current := pane.cursor.pos.line
  let last := pane.buffer.lastLine
  match range with
  | .currentLine => .ok (current, current)
  | .all => .ok (0, last)
  | .lines first second =>
      let a := first.resolve current last
      let b := second.resolve current last
      if last < a ∨ last < b then .error "E16: Invalid range".toList else .ok (min a b, max a b)
  | .visual =>
      match pane.lastVisual with
      | some (start, stop) => .ok (start.line, min stop.line last)
      | none => .error "E20: Mark not set".toList

/-- What a substitution has come to: the matches, the lines with matches, and the last of them. -/
structure Tally where
  found : Nat := 0
  lines : Nat := 0
  lastLine : Option Nat := none

def substituteLine (expr : Regex.Expr) (replacement : List Char) (flags : SubstituteFlags)
    (state : Pane × Tally) (line : Nat) : Pane × Tally :=
  let text := state.1.buffer.line line
  match Substitution.onLine expr text replacement flags with
  | none => state
  | some (newText, count) =>
      let tally : Tally := ⟨state.2.found + count, state.2.lines + 1, some line⟩
      if flags.countOnly then (state.1, tally)
      else (state.1.replaceText (.between ⟨line, 0⟩ ⟨line, text.length⟩) newText, tally)

/-- A number with a noun, which is plural for any number but one. -/
def counted (n : Nat) (noun plural : String) : List Char :=
  decimal n ++ ' ' :: (if n = 1 then noun.toList else plural.toList)

/-- Say what a substitution came to, and go to the last line with a match. -/
def concludeSubstitution (source : List Char) (flags : SubstituteFlags) (tally : Tally) : Pane :=
  let lines := counted tally.lines "line" "lines"
  match tally.lastLine with
  | none => pane.fail ("E486: Pattern not found: ".toList ++ source)
  | some line =>
      if flags.countOnly then
        pane.say (counted tally.found "match" "matches" ++ " on ".toList ++ lines)
      else
        let pane := pane.markChange.jumpToLine false line
        if 2 < tally.found then
          pane.say (counted tally.found "substitution" "substitutions" ++ " on ".toList ++ lines)
        else pane

/-- Substitute on a range of lines.  The pattern becomes the last one searched for; the flag to ignore
case is for this substitution only. -/
def substitute (range : LineRange) (patternText replacement : List Char) (flags : SubstituteFlags) :
    Pane :=
  match pane.linesOf range with
  | .error message => pane.fail message
  | .ok (first, last) =>
      match pane.patternSource? patternText with
      | none => pane.fail noPattern
      | some source =>
          match Pattern.compile? (if flags.ignoreCase then "\\c".toList ++ source else source) with
          | none => pane.fail (invalidPattern source)
          | some pattern =>
              let search :=
                match Pattern.compile? source with
                | some pattern => .commit pattern pane.search.direction
                | none => pane.search
              let pane :=
                { pane with search := search, lastSubstitute := some ⟨source, replacement⟩ }
              let done :=
                (linesBetween first last).foldl (substituteLine pattern.expr replacement flags)
                  (pane, {})
              done.1.concludeSubstitution source flags done.2

def execute : ExCommand → Pane
  | .empty => pane
  | .write => pane.write
  | .quit =>
      if pane.isDirty then pane.fail "E37: No write since last change (add ! to override)".toList
      else pane.requestClose
  | .forceQuit => pane.requestClose
  | .writeQuit => pane.write.requestClose
  | .exitSave => (if pane.isDirty then pane.write else pane).requestClose
  | .goto address =>
      let last := pane.buffer.lastLine
      pane.jumpToLine false (min (address.resolve pane.cursor.pos.line last) last)
  | .set args =>
      let result := pane.options.set args
      let pane := { pane with options := result.1 }
      match result.2 with
      | .ok (some echo) => pane.say echo
      | .ok none => pane
      | .error error => pane.fail error.message
  | .noHighlight => { pane with search := pane.search.setHighlight false }
  | .substitute range pattern replacement flags => pane.substitute range pattern replacement flags
  | .repeatSubstitute range =>
      match pane.lastSubstitute with
      | some last => pane.substitute range last.pattern last.replacement {}
      | none => pane.fail noPattern
  | .unknown text => pane.fail ("E492: Not an editor command: ".toList ++ text)

def submit (state : PromptState) (text : List Char) : Pane :=
  let pane := { pane with prompt := none, mode := state.origin }
  match state.prompt.kind with
  | .command => pane.execute (Ex.parse text)
  | .search direction => pane.submitSearch text direction state.operator state.count

def handlePromptKey (state : PromptState) (key : Key) : Pane :=
  match state.prompt.handleKey key with
  | (prompt, .pending) => { pane with prompt := some { state with prompt := prompt } }
  | (_, .cancel) => { pane with prompt := none, mode := state.origin }.cancelCommand
  | (_, .submit text) => pane.submit state text

end Pane

end ModalPanes
