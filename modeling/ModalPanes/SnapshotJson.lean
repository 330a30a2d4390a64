import ModalPanes.Json.Basic
import ModalPanes.Snapshot

/-!
# Snapshots as JSON

A snapshot is an object with a field for each of its parts.  Any of them may be missing when a snapshot is
read; the parts can also be given as an array.
-/

namespace ModalPanes

namespace Json

def ofTexts (texts : List (List Char)) : Json := array (texts.map text)

def ofNat (n : Nat) : Json := integer n

end Json

namespace ScreenPlace

def largest : Nat := 65535

def toJson (place : ScreenPlace) : Json :=
  .object [("row".toList, .ofNat place.row), ("col".toList, .ofNat place.col)]

/-- The place that a value is.  Both coordinates have to be there. -/
def ofJson? : Json → Option ScreenPlace
  | .object fields =>
      match Json.valuesOf "row" fields, Json.valuesOf "col" fields with
      | [row], [col] => ofCoordinates? row col
      | _, _ => none
  | .array [row, col] => ofCoordinates? row col
  | _ => none
where
  ofCoordinates? (row col : Json) : Option ScreenPlace :=
    match row.natUpTo? largest, col.natUpTo? largest with
    | some row, some col => some ⟨row, col⟩
    | _, _ => none

end ScreenPlace

namespace Snapshot

def toJson (snapshot : Snapshot) : Json :=
  .object
    [("screen".toList, .ofTexts snapshot.screen),
      ("pane_lines".toList, .ofTexts snapshot.paneLines),
      ("status".toList, .text snapshot.status),
      ("cursor".toList, snapshot.cursor.toJson),
      ("mode".toList, .text snapshot.mode),
      ("buffer".toList, .ofTexts snapshot.buffer)]

def partCount : Nat := 6

def ofJson? : Json → Option Snapshot
  | .object fields => do
      let screen ← Json.readField fields "screen" [] Json.texts?
      let paneLines ← Json.readField fields "pane_lines" [] Json.texts?
      let status ← Json.readField fields "status" [] Json.text?
      let cursor ← Json.readField fields "cursor" {} ScreenPlace.ofJson?
      let mode ← Json.readField fields "mode" [] Json.text?
      let buffer ← Json.readField fields "buffer" [] Json.texts?
      return ⟨screen, paneLines, status, cursor, mode, buffer⟩
  | .array items => do
      guard (items.length ≤ partCount)
      let screen ← Json.readItem items 0 [] Json.texts?
      let paneLines ← Json.readItem items 1 [] Json.texts?
      let status ← Json.readItem items 2 [] Json.text?
      let cursor ← Json.readItem items 3 {} ScreenPlace.ofJson?
      let mode ← Json.readItem items 4 [] Json.text?
      let buffer ← Json.readItem items 5 [] Json.texts?
      return ⟨screen, paneLines, status, cursor, mode, buffer⟩
  | _ => none

end Snapshot

end ModalPanes
