import ModalPanes.Text.Line

/-!
# Registers

A register holds text that was yanked or deleted, and the shape in which it is put back: characters,
whole lines, or a block of rows.  The unnamed register holds what was stored last; the registers named
`a` to `z` are set by their lower-case letter and appended to by their capital.
-/

namespace ModalPanes

/-- The shape in which a register is put back. -/
inductive RegisterKind where
  | char
  | line
  | block
deriving DecidableEq, Inhabited

/-- A text with its shape. -/
structure Register where
  text : List Char := []
  kind : RegisterKind := .char
deriving DecidableEq, Inhabited

namespace Register

def terminated (text : List Char) : List Char :=
  if text.getLast? = some '\n' then text else text ++ ['\n']

/-- A register of the given shape; lines end in a line feed. -/
def of (kind : RegisterKind) (text : List Char) : Register :=
  ⟨if kind = .line then terminated text else text, kind⟩

/-- A register with another one behind it.  If either holds lines, so does the result, and the second
starts on a line of its own. -/
def append (first second : Register) : Register :=
  if first.kind = .line ∨ second.kind = .line then
    let front := if first.text.isEmpty then [] else terminated first.text
    ⟨front ++ second.text, .line⟩
  else ⟨first.text ++ second.text, first.kind⟩

/-- The rows; the line feed that ends a register of lines starts no further row. -/
def rows (reg : Register) : List (List Char) :=
  Line.rows (if reg.kind = .line then Line.trimBreak reg.text else reg.text)

/-- Whether there is anything to put. -/
def isEmpty (reg : Register) : Bool := reg.text.isEmpty

theorem getLast?_terminated (text : List Char) : (terminated text).getLast? = some '\n' := by
  unfold terminated
  split
  · assumption
  · simp

end Register

/-- The unnamed register and the 26 named ones. -/
structure Registers where
  unnamed : Register := {}
  named : List Register := List.replicate 26 {}
deriving DecidableEq, Inhabited

namespace Registers

/-- The register that a letter names, and whether the letter asks to append. -/
def slot? (name : Char) : Option (Nat × Bool) :=
  if name.isLower then some (name.toNat - 'a'.toNat, false)
  else if name.isUpper then some (name.toNat - 'A'.toNat, true)
  else none

def atSlot (regs : Registers) (slot : Nat) : Register := regs.named[slot]?.getD {}

/-- Store a text under a name, if that is a letter; the unnamed register holds the outcome either way. -/
def store (regs : Registers) (name : Option Char) (reg : Register) : Registers :=
  match name.bind slot? with
  | some (slot, appends) =>
      let reg := if appends then (regs.atSlot slot).append reg else reg
      ⟨reg, regs.named.set slot reg⟩
  | none => { regs with unnamed := reg }

/-- The register of a name; without a letter it is the unnamed one. -/
def get (regs : Registers) (name : Option Char) : Register :=
  match name.bind slot? with
  | some (slot, _) => regs.atSlot slot
  | none => regs.unnamed

/-- Every register that holds something, by name; the unnamed one is named by a double quote. -/
def nonempty (regs : Registers) : List (Char × Register) :=
  ([('"', regs.unnamed)] ++ regs.named.zipIdx.map fun entry => (Char.ofNat ('a'.toNat + entry.2), entry.1)).filter
    fun entry => !entry.2.isEmpty

end Registers

end ModalPanes
