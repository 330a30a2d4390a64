import ModalPanes.Key.Basic

/-!
# Keys from terminal bytes

A terminal sends printable text as UTF-8, control characters as single bytes and the cursor keys as
escape sequences.  Nobody waits on a clock here: an escape byte begins a sequence only when the bytes
behind it form a complete cursor or editing key, and is the Escape key otherwise.

`scan` reads one key off the front; `complete` reads all that is certain and keeps the rest, and
`resolve` reads what is left when no more bytes will come.
-/

namespace ModalPanes

/-- What the front of a byte string holds. -/
inductive Scan where
  /-- A key, written by the lead byte and `more` bytes behind it. -/
  | key (key : Key) (more : Nat)
  /-- The start of something longer. -/
  | undecided
  /-- A lead byte that belongs to no key. -/
  | junk

namespace Scan

/-- A parameter byte of an escape sequence: a digit or a semicolon. -/
def isParameter (b : UInt8) : Bool :=
  (0x30 ≤ b && b ≤ 0x39) || b == 0x3B

/-- The largest parameter value; longer numbers stay there. -/
def maxParameter : Nat := 65535

/-- The numbers between semicolons, an empty one being zero; `current` is the number under way. -/
def parameters (current : Nat) : List UInt8 → List Nat
  | [] => [current]
  | b :: bytes =>
      if b = 0x3B then current :: parameters 0 bytes
      else parameters (min maxParameter (current * 10 + (b.toNat - 0x30))) bytes

/-- The modifiers of a parameter, one more than their bits. -/
def modifiersOf (parameter : Nat) : Modifiers :=
  .ofBits (parameter - 1)

def letterKey? (final : UInt8) : Option KeyCode :=
  if final = 0x41 then some .up
  else if final = 0x42 then some .down
  else if final = 0x43 then some .right
  else if final = 0x44 then some .left
  else if final = 0x48 then some .home
  else if final = 0x46 then some .endKey
  else none

/-- The key of a sequence that ends in a tilde. -/
def numberedKey? : Nat → Option KeyCode
  | 1 => some .home
  | 2 => some .insert
  | 3 => some .delete
  | 4 => some .endKey
  | 5 => some .pageUp
  | 6 => some .pageDown
  | 7 => some .home
  | 8 => some .endKey
  | _ => none

/-- The key of a complete sequence with the given parameter bytes and final byte. -/
def sequenceKey? (raw : List UInt8) (final : UInt8) : Option Key :=
  let numbers := if raw.isEmpty then [] else parameters 0 raw
  let mods := (numbers[1]?.map modifiersOf).getD {}
  let code := if final = 0x7E then numberedKey? (numbers[0]?.getD 0) else letterKey? final
  code.map fun code => ⟨code, mods⟩

/-- A byte that may end an escape sequence. -/
def isFinal (b : UInt8) : Bool :=
  0x40 ≤ b && b ≤ 0x7E

def bareEscape : Scan := .key (.plain .escape) 0

/-- What an escape byte begins, given the bytes behind it. -/
def escape : List UInt8 → Scan
  | [] => .undecided
  | b :: bytes =>
      if b = 0x5B then
        let raw := bytes.takeWhile isParameter
        match bytes.dropWhile isParameter with
        | [] => .undecided
        | final :: _ =>
            if isFinal final then
              match sequenceKey? raw final with
              | some pressed => .key pressed (raw.length + 2)
              | none => bareEscape
            else bareEscape
      else bareEscape

/-- A byte that continues a UTF-8 sequence. -/
def isContinuation (b : UInt8) : Bool :=
  0x80 ≤ b && b ≤ 0xBF

/-- The character with the given leading bits and continuation bytes; `least` refuses forms longer
than needed. -/
def scalar? (least leading : Nat) (continuations : List UInt8) : Option Char :=
  let code := continuations.foldl (fun code b => code * 64 + (b.toNat - 0x80)) leading
  if continuations.all isContinuation && decide (least ≤ code) then
    if valid : code.isValidChar then some (Char.ofNatAux code valid) else none
  else none

/-- What a lead byte of a UTF-8 sequence begins: `count` continuation bytes are needed before
anything is decided, and a sequence that is no character costs its lead byte only. -/
def multibyte (count least leading : Nat) (bytes : List UInt8) : Scan :=
  if bytes.length < count then .undecided
  else
    match scalar? least leading (bytes.take count) with
    | some c => .key (.char c) count
    | none => .junk

def ofBytes (lead : UInt8) (bytes : List UInt8) : Scan :=
  if lead = 0x1B then escape bytes
  else if lead = 0x00 then .key (.ctrl '@') 0
  else if lead = 0x08 ∨ lead = 0x7F then .key (.plain .backspace) 0
  else if lead = 0x09 then .key (.plain .tab) 0
  else if lead = 0x0A ∨ lead = 0x0D then .key (.plain .enter) 0
  else if lead ≤ 0x1A then .key (.ctrl (Char.ofNat (lead.toNat + 0x60))) 0
  else if lead < 0x20 then .junk
  else if lead ≤ 0x7E then .key (.char (Char.ofNat lead.toNat)) 0
  else if lead < 0xC0 then .junk
  else if lead ≤ 0xDF then multibyte 1 0x80 (lead.toNat - 0xC0) bytes
  else if lead ≤ 0xEF then multibyte 2 0x800 (lead.toNat - 0xE0) bytes
  else if lead ≤ 0xF7 then multibyte 3 0x10000 (lead.toNat - 0xF0) bytes
  else .junk

end Scan

/-- A decoder of terminal input, with the bytes that may still become part of a longer key. -/
structure Decoder where
  held : List UInt8 := []
deriving DecidableEq, Inhabited

namespace Decoder

/-- The keys that are certain, and the bytes from the first undecided place on. -/
def complete : List UInt8 → List Key × List UInt8
  | [] => ([], [])
  | lead :: bytes =>
      match Scan.ofBytes lead bytes with
      | .key key more =>
          let later := complete (bytes.drop more)
          (key :: later.1, later.2)
      | .undecided => ([], lead :: bytes)
      | .junk => complete bytes
termination_by bytes => bytes.length
decreasing_by
  · simp only [List.length_drop, List.length_cons]; omega
  · simp

/-- The keys of bytes that nothing follows: an undecided escape byte is the Escape key, and a
truncated character ends the input. -/
def resolve : List UInt8 → List Key
  | [] => []
  | lead :: bytes =>
      match Scan.ofBytes lead bytes with
      | .key key more => key :: resolve (bytes.drop more)
      | .undecided => if lead = 0x1B then .plain .escape :: resolve bytes else []
      | .junk => resolve bytes
termination_by bytes => bytes.length
decreasing_by
  · simp only [List.length_drop, List.length_cons]; omega
  · simp
  · simp

/-- Feed bytes: the keys they complete, and the decoder afterwards. -/
def advance (decoder : Decoder) (bytes : List UInt8) : List Key × Decoder :=
  let result := complete (decoder.held ++ bytes)
  (result.1, ⟨result.2⟩)

/-- Whether bytes wait for more input. -/
def hasPending (decoder : Decoder) : Bool := !decoder.held.isEmpty

/-- The keys of everything still held; the decoder is empty afterwards. -/
def finish (decoder : Decoder) : List Key × Decoder :=
  (resolve decoder.held, {})

end Decoder

def decode (bytes : List UInt8) : List Key :=
  let first := Decoder.advance {} bytes
  first.1 ++ first.2.finish.1

end ModalPanes
