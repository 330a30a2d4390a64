import ModalPanes.Regex.Token

/-!
# Reading regular expressions

Tokens are put together with a stack of the groups that are open.  A repetition takes the item in front
of it and needs one; groups have to be closed; expressions may be neither too deep nor too large.
-/

namespace ModalPanes.Regex

/-- The switches in force at a place of an expression. -/
structure Switches where
  ignoreCase : Bool := false
  multiLine : Bool := false
  dotMatchesBreak : Bool := false
  swapGreed : Bool := false
  returnBreaks : Bool := false

namespace Switches

def turnOn (switches : Switches) : Switch → Switches
  | .ignoreCase => { switches with ignoreCase := true }
  | .multiLine => { switches with multiLine := true }
  | .dotMatchesBreak => { switches with dotMatchesBreak := true }
  | .swapGreed => { switches with swapGreed := true }
  | .unicode => switches
  | .returnBreaks => { switches with returnBreaks := true }

def turnAllOn (switches : Switches) (more : List Switch) : Switches :=
  more.foldl turnOn switches

/-- What a dot stands for: any character, or any that does not end a line. -/
def dot (switches : Switches) : CharSet :=
  if switches.dotMatchesBreak then .complement .empty
  else if switches.returnBreaks then .complement (.union (.single '\n') (.single '\r'))
  else .complement (.single '\n')

def caret (switches : Switches) : Anchor :=
  if !switches.multiLine then .textStart else if switches.returnBreaks then .returnStart else .lineStart

def dollar (switches : Switches) : Anchor :=
  if !switches.multiLine then .textEnd else if switches.returnBreaks then .returnEnd else .lineEnd

end Switches

/-- An expression with the depth of its nesting. -/
structure Nested where
  expr : Expr
  depth : Nat

/-- The alternatives of a group, as far as they are read: those to the left, and the items of the
present one, both latest first.  Switches are items that cannot be repeated. -/
structure Alternatives where
  left : List Nested := []
  items : List (Option Nested) := []

namespace Alternatives

/-- Several parts under one node, which is one level deeper if there are two or more. -/
def gather (join : Expr → Expr → Expr) (last : Expr) (parts : List Nested) (count : Nat) : Nested :=
  let depth := (parts.map Nested.depth).foldl max 0
  ⟨(parts.map Nested.expr).foldr join last, if 2 ≤ count then depth + 1 else depth⟩

def branch (alternatives : Alternatives) : Nested :=
  gather .seq .empty (alternatives.items.reverse.filterMap id) alternatives.items.length

def close (alternatives : Alternatives) : Nested :=
  let last := alternatives.branch
  let depth := (alternatives.left.map Nested.depth).foldl max last.depth
  ⟨alternatives.left.foldl (fun expr part => .alt part.expr expr) last.expr,
    if alternatives.left.isEmpty then depth else depth + 1⟩

def push (alternatives : Alternatives) (item : Nested) : Alternatives :=
  { alternatives with items := some item :: alternatives.items }

/-- With the latest item repeated; there has to be one. -/
def repeatLast? (alternatives : Alternatives) (least : Nat) (most : Option Nat) (greedy : Bool) :
    Option Alternatives :=
  match alternatives.items with
  | some item :: items =>
      some { alternatives with
        items := some ⟨.repetition least most greedy item.expr, item.depth + 1⟩ :: items }
  | _ => none

end Alternatives

/-- An open group: its number if it captures, the switches outside it, and what stands in front of it. -/
structure OpenGroup where
  index : Option Nat
  outside : Switches
  before : Alternatives

/-- The state between two tokens. -/
structure ParseState where
  groups : List OpenGroup := []
  present : Alternatives := {}
  switches : Switches := {}
  captures : Nat := 0
  names : List (List Char) := []

namespace ParseState

def push (state : ParseState) (expr : Expr) (depth : Nat) : ParseState :=
  { state with present := state.present.push ⟨expr, depth⟩ }

def openGroup (state : ParseState) (index : Option Nat) (switches : Switches) : ParseState :=
  { state with
    groups := ⟨index, state.switches, state.present⟩ :: state.groups
    present := {}
    switches := switches
    captures := if index.isSome then state.captures + 1 else state.captures }

def closeGroup? (state : ParseState) : Option ParseState :=
  match state.groups with
  | [] => none
  | group :: groups =>
      let inside := state.present.close
      let expr := match group.index with
        | some index => .group index inside.expr
        | none => inside.expr
      some { state with
        groups := groups
        present := group.before.push ⟨expr, inside.depth + 1⟩
        switches := group.outside }

def step? (state : ParseState) : Token → Option ParseState
  | .literal c => some (state.push (.set (CharSet.ofCase state.switches.ignoreCase (.single c))) 0)
  | .dot => some (state.push (.set state.switches.dot) 0)
  | .set set => some (state.push (.set set) 0)
  | .bracket negated inside =>
      let set := inside.toSet state.switches.ignoreCase
      some (state.push (.set (if negated then .complement set else set)) 1)
  | .anchor anchor => some (state.push (.anchor anchor) 0)
  | .startOfText => some (state.push (.anchor state.switches.caret) 0)
  | .endOfText => some (state.push (.anchor state.switches.dollar) 0)
  | .opening .capture => some (state.openGroup (some (state.captures + 1)) state.switches)
  | .opening (.named name) =>
      if state.names.contains name then none
      else
        let state := { state with names := name :: state.names }
        some (state.openGroup (some (state.captures + 1)) state.switches)
  | .opening (.plain switches) => some (state.openGroup none (state.switches.turnAllOn switches))
  | .closing => state.closeGroup?
  | .bar =>
      some { state with present := ⟨state.present.branch :: state.present.left, []⟩ }
  | .repetition least most greedy =>
      (state.present.repeatLast? least most (greedy != state.switches.swapGreed)).map fun present =>
        { state with present := present }
  | .switches switches =>
      some { state with
        present := { state.present with items := none :: state.present.items }
        switches := state.switches.turnAllOn switches }

/-- The expression, if no group is left open. -/
def finish? (state : ParseState) : Option Nested :=
  if state.groups.isEmpty then some state.present.close else none

end ParseState

namespace Expr

def deepest : Nat := 250

/-- The largest compiled expression that is accepted, in bytes. -/
def largest : Nat := 10485760

end Expr

namespace Nested

/-- The expression that a text writes, however deep and large it is. -/
def read? (text : List Char) : Option Nested :=
  (Token.readAll text).bind fun tokens => (tokens.foldlM ParseState.step? {}).bind ParseState.finish?

/-- Whether an expression is accepted, neither too deep nor too large. -/
def Fits (nested : Nested) : Prop := nested.depth ≤ Expr.deepest ∧ nested.expr.cost ≤ Expr.largest

instance (nested : Nested) : Decidable nested.Fits :=
  inferInstanceAs (Decidable (nested.depth ≤ Expr.deepest ∧ nested.expr.cost ≤ Expr.largest))

end Nested

namespace Expr

/-- The expression that a text writes, if it is a proper one. -/
def parse? (text : List Char) : Option Expr :=
  (Nested.read? text).bind fun nested => if nested.Fits then some nested.expr else none

theorem parse?_eq_some_iff {text : List Char} {expr : Expr} :
    parse? text = some expr ↔ ∃ nested, Nested.read? text = some nested ∧ nested.Fits ∧ nested.expr = expr := by
  simp only [parse?, Option.bind_eq_some_iff, Option.ite_none_right_eq_some, Option.some.injEq]

end Expr

end ModalPanes.Regex
