import ModalPanes.Json.Reader
import ModalPanes.Snapshot

/-!
# Scenarios

A scenario is a text and the keys that are typed on it; running it gives a snapshot.  A file of scenarios is
an object with one for every name.
-/

namespace ModalPanes

/-- Keys as they are given: typed text with names in angle brackets, or a list of tokens. -/
inductive KeyScript where
  | typed (text : List Char)
  | tokens (tokens : List (List Char))
deriving DecidableEq

/-- A text, the keys typed on it, and what it changes about the setup. -/
structure Scenario where
  initial : List Char := []
  keys : KeyScript := .typed []
  cols : Option Nat := none
  rows : Option Nat := none
  filename : Option (List Char) := none
deriving DecidableEq

namespace KeyScript

def ofJson? : Json → Option KeyScript
  | .text keys => some (typed keys)
  | value => value.texts?.map tokens

end KeyScript

namespace Scenario

def largestSize : Nat := 65535

def size? : Json → Option (Option Nat) := Json.orNull (Json.natUpTo? largestSize)

def partCount : Nat := 5

/-- The scenario that a value is: an object of which any field may be missing, or its parts as an array.
Fields without a meaning are left out of account. -/
def ofJson? : Json → Option Scenario
  | .object fields => do
      let initial ← Json.readField fields "initial" [] Json.text?
      let keys ← Json.readField fields "keys" (.typed []) KeyScript.ofJson?
      let cols ← Json.readField fields "cols" none size?
      let rows ← Json.readField fields "rows" none size?
      let filename ← Json.readField fields "filename" none (Json.orNull Json.text?)
      return ⟨initial, keys, cols, rows, filename⟩
  | .array items => do
      guard (items.length ≤ partCount)
      let initial ← Json.readItem items 0 [] Json.text?
      let keys ← Json.readItem items 1 (.typed []) KeyScript.ofJson?
      let cols ← Json.readItem items 2 none size?
      let rows ← Json.readItem items 3 none size?
      let filename ← Json.readItem items 4 none (Json.orNull Json.text?)
      return ⟨initial, keys, cols, rows, filename⟩
  | _ => none

/-- The scenarios of a file.  Every one has to be readable, also one whose name comes again. -/
def readAll? (text : List Char) : Option (Named Scenario) := do
  let fields ← (← Json.read? text).fields?
  let entries ← fields.mapM fun field => (ofJson? field.2).map (Prod.mk field.1)
  return Named.ofList entries

def setup (scenario : Scenario) (base : Setup) : Setup :=
  { base with
    cols := scenario.cols.getD base.cols
    rows := scenario.rows.getD base.rows
    filename := scenario.filename.or base.filename }

/-- The session after the keys, or the first thing that went wrong. -/
def play (scenario : Scenario) (base : Setup) : Except SessionError Session := do
  let session ← Session.start (scenario.setup base) scenario.initial
  match scenario.keys with
  | .typed text => return session.handleTyped text
  | .tokens tokens =>
      match session.handleTokens tokens with
      | (session, none) => return session
      | (_, some error) => throw error

def run (scenario : Scenario) (base : Setup) : Except SessionError Snapshot :=
  (scenario.play base).map Snapshot.capture

end Scenario

end ModalPanes
