/-!
# Layout

The screen is divided by a binary tree: its leaves are panes, and its inner nodes lay their two parts
side by side or one above the other, with one cell between them for a divider.  Every node shares its
cells in the proportion of two weights, rounded, and neither part gets less than one; a node with fewer
than three cells has no room for a divider and shows its first part only.
-/

namespace ModalPanes

/-- The number of a pane; numbers are not given out twice. -/
abbrev PaneId := Nat

/-- A rectangle of the screen: its upper left corner and its size. -/
structure Rect where
  x : Nat
  y : Nat
  w : Nat
  h : Nat
deriving DecidableEq, Inhabited

/-- How a node lays out its parts: side by side with a vertical divider, or one above the other with
a horizontal one. -/
inductive SplitKind where
  | vertical
  | horizontal
deriving DecidableEq, Inhabited

/-- The number of cells that a rectangle offers to a split. -/
def Rect.extent (rect : Rect) : SplitKind → Nat
  | .vertical => rect.w
  | .horizontal => rect.h

inductive Side where
  | left
  | down
  | up
  | right
deriving DecidableEq, Inhabited

namespace Side

/-- The splits whose dividers lie across the way to this side. -/
def kind : Side → SplitKind
  | left | right => .vertical
  | up | down => .horizontal

/-- Whether the way to this side is the way to the second part of a split. -/
def isOnward : Side → Bool
  | right | down => true
  | left | up => false

end Side

/-- A divider: its first cell, its length, and whether it is vertical. -/
structure Divider where
  x : Nat
  y : Nat
  length : Nat
  vertical : Bool
deriving DecidableEq

/-- A layout tree. -/
inductive Layout where
  | leaf (id : PaneId)
  | split (kind : SplitKind) (weights : Nat × Nat) (first second : Layout)
deriving DecidableEq, Inhabited

namespace Layout

/-- The cells of the first and of the second part when `total` cells are shared, the divider apart. -/
def shares? (total : Nat) (weights : Nat × Nat) : Option (Nat × Nat) :=
  if total < 3 then none
  else
    let cells := total - 1
    let sum := weights.1 + weights.2
    let wanted := if sum = 0 then cells / 2 else (2 * cells * weights.1 + sum) / (2 * sum)
    let first := max 1 (min wanted (cells - 1))
    some (first, cells - first)

/-- The rectangles of the two parts, and the divider between them. -/
def parts? (area : Rect) (kind : SplitKind) (weights : Nat × Nat) : Option (Rect × Rect × Divider) :=
  (shares? (area.extent kind) weights).map fun share =>
    match kind with
    | .vertical =>
        (⟨area.x, area.y, share.1, area.h⟩, ⟨area.x + share.1 + 1, area.y, share.2, area.h⟩,
          ⟨area.x + share.1, area.y, area.h, true⟩)
    | .horizontal =>
        (⟨area.x, area.y, area.w, share.1⟩, ⟨area.x, area.y + share.1 + 1, area.w, share.2⟩,
          ⟨area.x, area.y + share.1, area.w, false⟩)

def leaves : Layout → List PaneId
  | leaf id => [id]
  | split _ _ first second => first.leaves ++ second.leaves

def paneCount : Layout → Nat
  | leaf _ => 1
  | split _ _ first second => first.paneCount + second.paneCount

def contains (id : PaneId) : Layout → Bool
  | leaf other => other == id
  | split _ _ first second => first.contains id || second.contains id

def rects (area : Rect) : Layout → List (PaneId × Rect)
  | leaf id => [(id, area)]
  | split kind weights first second =>
      match parts? area kind weights with
      | some (a, b, _) => first.rects a ++ second.rects b
      | none => first.rects area

/-- The dividers between parts that are visible, outer ones first. -/
def dividers (area : Rect) : Layout → List Divider
  | leaf _ => []
  | split kind weights first second =>
      match parts? area kind weights with
      | some (a, b, divider) => divider :: (first.dividers a ++ second.dividers b)
      | none => first.dividers area

def rectOf? (layout : Layout) (id : PaneId) (area : Rect) : Option Rect :=
  (layout.rects area).lookup id

/-- The fewest cells across a kind of split in which all panes of a tree can be shown. -/
def minExtent (kind : SplitKind) : Layout → Nat
  | leaf _ => 1
  | split own _ first second =>
      if own = kind then first.minExtent kind + second.minExtent kind + 1
      else max (first.minExtent kind) (second.minExtent kind)

/-- Split a pane: it keeps the first half, and a new pane gets the second.  There has to be such a
pane. -/
def splitPane? (target new : PaneId) (kind : SplitKind) : Layout → Option Layout
  | leaf id => if id = target then some (split kind (1, 1) (leaf target) (leaf new)) else none
  | split own weights first second =>
      match first.splitPane? target new kind with
      | some first => some (split own weights first second)
      | none => (second.splitPane? target new kind).map (split own weights first ·)

/-- Take a pane out: the other part of its split takes the place of both.  The last pane stays. -/
def remove? (target : PaneId) : Layout → Option Layout
  | leaf _ => none
  | split own weights first second =>
      if first = leaf target then some second
      else if second = leaf target then some first
      else
        match first.remove? target with
        | some first => some (split own weights first second)
        | none => (second.remove? target).map (split own weights first ·)

def clampBetween (low high n : Nat) : Nat := max low (min n high)

/-- The cells of the first part after its divider has moved towards a side, as far as the panes of
both parts leave room. -/
def movedShare (first second : Layout) (kind : SplitKind) (total share : Nat) (side : Side)
    (amount : Nat) : Nat :=
  let low := first.minExtent kind
  let high := max (total - 1 - second.minExtent kind) low
  clampBetween low high (if side.isOnward then share + amount else share - amount)

/-- Move the divider of the innermost split around a pane that lies across the way to a side.  The
outer answer says whether there is such a split, the inner one whether its divider moved. -/
def moveDivider? (target : PaneId) (side : Side) (amount : Nat) (area : Rect) :
    Layout → Option (Option Layout)
  | leaf _ => none
  | split kind weights first second =>
      match parts? area kind weights with
      | none => none
      | some (a, b, _) =>
          let inner :=
            if first.contains target then
              (first.moveDivider? target side amount a).map fun moved =>
                moved.map fun first => split kind weights first second
            else
              (second.moveDivider? target side amount b).map fun moved =>
                moved.map fun second => split kind weights first second
          match inner with
          | some moved => some moved
          | none =>
              if kind = side.kind then
                let total := area.extent kind
                let share := a.extent kind
                let moved := movedShare first second kind total share side amount
                if moved = share then some none
                else some (some (split kind (moved, total - 1 - moved) first second))
              else none

/-- Move the divider next to a pane; the answer is the tree if anything moved. -/
def resize? (layout : Layout) (target : PaneId) (side : Side) (amount : Nat) (area : Rect) :
    Option Layout :=
  if layout.contains target then (layout.moveDivider? target side amount area).join else none

/-- The pane behind the given one in the order of the tree, and around its end. -/
def next (layout : Layout) (current : PaneId) : PaneId :=
  let ids := layout.leaves
  let place := (ids.idxOf? current).getD 0
  (ids[(place + 1) % max ids.length 1]?).getD current

def shareRow (a b : Rect) : Bool := a.y < b.y + b.h && b.y < a.y + a.h

def shareColumn (a b : Rect) : Bool := a.x < b.x + b.w && b.x < a.x + a.w

/-- Whether a rectangle lies across the divider on a side of another one. -/
def isBeside (side : Side) (own other : Rect) : Bool :=
  match side with
  | .left => shareRow other own && other.x + other.w + 1 == own.x
  | .right => shareRow other own && own.x + own.w + 1 == other.x
  | .up => shareColumn other own && other.y + other.h + 1 == own.y
  | .down => shareColumn other own && own.y + own.h + 1 == other.y

/-- Whether a rectangle lies at the far edge of the area, where the way to a side comes in again. -/
def isAcross (side : Side) (area own other : Rect) : Bool :=
  match side with
  | .left => shareRow other own && other.x + other.w == area.x + area.w
  | .right => shareRow other own && other.x == area.x
  | .up => shareColumn other own && other.y + other.h == area.y + area.h
  | .down => shareColumn other own && other.y == area.y

/-- Twice the middle of a rectangle along the divider that a side lies behind. -/
def middle (side : Side) (rect : Rect) : Nat :=
  match side.kind with
  | .vertical => rect.y * 2 + rect.h
  | .horizontal => rect.x * 2 + rect.w

def distance (a b : Nat) : Nat := (a - b) + (b - a)

def leastBy (key : Rect → Nat) : List (PaneId × Rect) → Option (PaneId × Rect)
  | [] => none
  | pane :: panes =>
      match leastBy key panes with
      | some best => if key pane.2 ≤ key best.2 then some pane else some best
      | none => some pane

/-- The pane on a side of the given one, or around the edge of the area.  Of several, the one whose
middle is closest counts, and of those the first. -/
def neighbor? (layout : Layout) (current : PaneId) (side : Side) (area : Rect) : Option PaneId :=
  let shown := layout.rects area
  if shown.length ≤ 1 then none
  else
    match shown.lookup current with
    | none => none
    | some own =>
        let pick := fun fits : Rect → Bool =>
          (leastBy (fun rect => distance (middle side rect) (middle side own))
            (shown.filter fun pane => pane.1 != current && fits pane.2)).map Prod.fst
        (pick (isBeside side own)).or (pick (isAcross side area own))

@[simp] theorem length_leaves (layout : Layout) : layout.leaves.length = layout.paneCount := by
  induction layout with
  | leaf => rfl
  | split _ _ _ _ first second => simp [leaves, paneCount, first, second]

@[simp] theorem mem_leaves (layout : Layout) (id : PaneId) :
    id ∈ layout.leaves ↔ layout.contains id = true := by
  induction layout with
  | leaf other =>
      simp only [leaves, contains, List.mem_singleton, beq_iff_eq]
      exact eq_comm
  | split _ _ _ _ first second => simp [leaves, contains, first, second]

end Layout

end ModalPanes
