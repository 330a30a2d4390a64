import ModalPanes.Regex.Parser
import Mathlib.Data.List.Forall2

/-!
# Wider expressions

An expression is wider than another if it matches wherever the other one does.  To go on behind a match a matcher asks
what follows it, so the relation is a logical one: given more that follows, the wider matcher has an answer wherever
the other one has.  All ways to put expressions together keep it.  A switch that ignores case, set in front of an
expression, changes nothing but the sets of its characters; so reading it runs in step with reading the expression
without the switch, and what is read is wider if each of the sets is.
-/

namespace ModalPanes.Regex

/-- More can follow: there is an answer wherever there is one otherwise, whatever groups have matched. -/
def Rest.Within (rest wider : Rest) : Prop :=
  ∀ (place : Place) (caps more : Captures), (rest place caps).isSome = true → (wider place more).isSome = true

namespace Matcher

/-- With more to follow, the wider matcher has an answer wherever the other one has. -/
structure Within (body wider : Matcher) : Prop where
  answers : ∀ {place : Place} {caps more : Captures} {rest further : Rest}, rest.Within further →
    (body place caps rest).isSome = true → (wider place more further).isSome = true

variable {body wider next furtherNext : Matcher}

@[simp] theorem isSome_choose (greedy : Bool) (more stop : Unit → Option (Place × Captures)) :
    (choose greedy more stop).isSome = ((more ()).isSome || (stop ()).isSome) := by
  unfold choose
  split
  · exact Option.isSome_or
  · rw [Option.isSome_or, Bool.or_comm]

theorem Within.here : Within (fun place caps rest => rest place caps) fun place caps rest => rest place caps :=
  ⟨fun rests answer => rests _ _ _ answer⟩

theorem Within.andThen (first : body.Within wider) (second : next.Within furtherNext) :
    Within (fun place caps rest => body place caps fun stop caps => next stop caps rest)
      fun place caps rest => wider place caps fun stop caps => furtherNext stop caps rest :=
  ⟨fun rests answer => first.answers (fun _ _ _ later => second.answers rests later) answer⟩

theorem Within.choose (first : body.Within wider) (second : next.Within furtherNext) (greedy : Bool) :
    Within (fun place caps rest => choose greedy (fun _ => body place caps rest) fun _ => next place caps rest)
      fun place caps rest =>
        choose greedy (fun _ => wider place caps rest) fun _ => furtherNext place caps rest := by
  refine ⟨fun rests answer => ?_⟩
  rw [isSome_choose, Bool.or_eq_true] at answer ⊢
  exact answer.imp (first.answers rests) (second.answers rests)

theorem Within.times (within : body.Within wider) (count : Nat) : (times body count).Within (times wider count) := by
  induction count with
  | zero => exact .here
  | succ count ih => exact within.andThen ih

theorem Within.upTo (within : body.Within wider) (greedy : Bool) (count : Nat) :
    (upTo greedy body count).Within (upTo greedy wider count) := by
  induction count with
  | zero => exact .here
  | succ count ih => exact (within.andThen ih).choose .here greedy

theorem Within.rounds (within : body.Within wider) (greedy : Bool) (fuel : Nat) :
    (rounds greedy body fuel).Within (rounds greedy wider fuel) := by
  induction fuel with
  | zero => exact .here
  | succ fuel ih =>
      have round : Within
          (fun place caps rest => body place caps fun stop caps =>
            if stop.index = place.index then none else Matcher.rounds greedy body fuel stop caps rest)
          fun place caps rest => wider place caps fun stop caps =>
            if stop.index = place.index then none else Matcher.rounds greedy wider fuel stop caps rest := by
        refine ⟨fun rests answer => within.answers (fun stop _ _ later => ?_) answer⟩
        split at later
        · contradiction
        · rename_i passes
          rw [if_neg passes]
          exact ih.answers rests later
      exact round.choose .here greedy

theorem Within.oneOrMore (within : body.Within wider) (greedy : Bool) :
    (oneOrMore greedy body).Within (oneOrMore greedy wider) := by
  refine ⟨fun rests answer => within.answers (fun stop _ _ later => ?_) answer⟩
  split at later
  · rename_i stays
    rw [if_pos stays]
    exact rests _ _ _ later
  · rename_i passes
    rw [if_neg passes]
    exact (within.rounds greedy _).answers rests later

theorem Within.between (within : body.Within wider) (greedy : Bool) (least : Nat) (most : Option Nat) :
    (between greedy body least most).Within (between greedy wider least most) := by
  cases most with
  | some most => exact (within.times least).andThen (within.upTo greedy _)
  | none =>
      cases least with
      | zero => exact (within.oneOrMore greedy).choose .here greedy
      | succ count => exact (within.times count).andThen (within.oneOrMore greedy)

end Matcher

/-- A set that has all characters of another one. -/
def CharSet.Within (set wider : CharSet) : Prop := ∀ c, set.has c = true → wider.has c = true

theorem CharSet.within_ofCase (set : CharSet) (ignoreCase : Bool) :
    (set.ofCase ignoreCase).Within (set.ofCase true) := by
  intro c has
  cases ignoreCase with
  | false => exact has_caseless_of_has has
  | true => exact has

namespace Expr

/-- An expression that matches wherever another one does. -/
def Within (expr wider : Expr) : Prop := expr.matcher.Within wider.matcher

variable {expr wider first second widerFirst widerSecond : Expr} {place : Place} {text : List Char}

theorem within_set {set more : CharSet} (sets : set.Within more) : Within (.set set) (.set more) := by
  refine ⟨fun rests answer => ?_⟩
  simp only [matcher] at answer ⊢
  split at answer
  · split at answer
    · rename_i has
      rw [if_pos (sets _ has)]
      exact rests _ _ _ answer
    · contradiction
  · contradiction

theorem within_anchor (condition : Anchor) : Within (.anchor condition) (.anchor condition) := by
  refine ⟨fun rests answer => ?_⟩
  simp only [matcher] at answer ⊢
  split at answer
  · rename_i holds
    rw [if_pos holds]
    exact rests _ _ _ answer
  · contradiction

theorem within_empty : Within .empty .empty := Matcher.Within.here

theorem Within.seq (front : first.Within widerFirst) (back : second.Within widerSecond) :
    Within (.seq first second) (.seq widerFirst widerSecond) := by
  have both := Matcher.Within.andThen front back
  exact both

theorem Within.alt (left : first.Within widerFirst) (right : second.Within widerSecond) :
    Within (.alt first second) (.alt widerFirst widerSecond) :=
  Matcher.Within.choose left right true

theorem Within.repetition (within : expr.Within wider) (least : Nat) (most : Option Nat) (greedy : Bool) :
    Within (.repetition least most greedy expr) (.repetition least most greedy wider) :=
  Matcher.Within.between within greedy least most

theorem Within.group (within : expr.Within wider) (index : Nat) : Within (.group index expr) (.group index wider) :=
  ⟨fun rests answer => Matcher.Within.answers within (fun _ _ _ later => rests _ _ _ later) answer⟩

section Finding

theorem Within.matchAt? (within : expr.Within wider) (matched : (expr.matchAt? place).isSome = true) :
    (wider.matchAt? place).isSome = true := by
  unfold Expr.matchAt? at matched ⊢
  rw [Option.isSome_map] at matched ⊢
  exact within.answers (fun _ _ _ _ => rfl) matched

theorem Within.findFrom? (within : expr.Within wider) {index : Nat} {previous : Option Char}
    (found : (expr.findFrom? index previous text).isSome = true) :
    (wider.findFrom? index previous text).isSome = true := by
  induction text generalizing index previous with
  | nil => exact within.matchAt? found
  | cons c text ih =>
      unfold Expr.findFrom? at found ⊢
      split
      · rfl
      · rename_i none
        split at found
        · rename_i here
          have matched := within.matchAt? (Option.isSome_of_eq_some here)
          rw [none] at matched
          contradiction
        · exact ih found

/-- Where a search finds nothing, there are no matches. -/
theorem findAll_eq_nil_iff (expr : Expr) (text : List Char) : expr.findAll text = [] ↔ expr.isMatch text = false := by
  have first : expr.findNext? (.start text) none = expr.find? (.start text) := by
    unfold findNext?
    split <;> simp_all
  unfold findAll isMatch
  rw [findAllFrom, first]
  cases expr.find? (.start text) <;> simp

theorem Within.findAll (within : expr.Within wider) (found : expr.findAll text ≠ []) : wider.findAll text ≠ [] := by
  rw [ne_eq, findAll_eq_nil_iff, Bool.not_eq_false] at found ⊢
  exact within.findFrom? found

end Finding

end Expr

section Reading

/-- With case ignored, the set of a bracket expression has all of its characters. -/
def Token.Relaxes : Token → Prop
  | .bracket false inside => (inside.toSet false).Within (inside.toSet true)
  | .bracket true inside => (CharSet.complement (inside.toSet false)).Within (.complement (inside.toSet true))
  | _ => True

/-- This is so unless it is negated or has operations. -/
theorem Token.relaxes_items (set : CharSet) : Token.Relaxes (.bracket false (.items set)) :=
  set.within_ofCase false

def Switches.ignoringCase (switches : Switches) : Switches := switches.turnOn .ignoreCase

theorem Switches.turnAllOn_ignoringCase (switches : Switches) (more : List Switch) :
    switches.ignoringCase.turnAllOn more = (switches.turnAllOn more).ignoringCase := by
  induction more generalizing switches with
  | nil => rfl
  | cons switch more ih =>
      have swap : switches.ignoringCase.turnOn switch = (switches.turnOn switch).ignoringCase := by cases switch <;> rfl
      exact (congrArg (Switches.turnAllOn · more) swap).trans (ih _)

end Reading

/-- A part of an expression that matches wherever another one does, however deep it is. -/
def Nested.Within (nested wider : Nested) : Prop := nested.expr.Within wider.expr

namespace Alternatives

/-- Alternatives that are wider one by one, with more switches in front. -/
structure Within (alternatives wider : Alternatives) : Prop where
  left : List.Forall₂ Nested.Within alternatives.left wider.left
  items : ∃ items marks, wider.items = items ++ marks ∧
    List.Forall₂ (Option.Rel Nested.Within) alternatives.items items ∧ ∀ mark ∈ marks, mark = none

variable {alternatives wider next : Alternatives}

theorem Within.push (within : alternatives.Within wider) {item more : Nested} (items : item.Within more) :
    (alternatives.push item).Within (wider.push more) := by
  obtain ⟨front, marks, eq, related, none⟩ := within.items
  exact ⟨within.left, some more :: front, marks, congrArg (some more :: ·) eq, .cons (.some items) related, none⟩

theorem Within.branch (within : alternatives.Within wider) : alternatives.branch.Within wider.branch := by
  obtain ⟨front, marks, eq, related, none⟩ := within.items
  have parts : wider.items.reverse.filterMap id = front.reverse.filterMap id := by
    have nothing : marks.reverse.filterMap id = [] := by
      rw [List.filterMap_eq_nil_iff]
      exact fun mark mem => none mark (List.mem_reverse.1 mem)
    rw [eq, List.reverse_append, List.filterMap_append, nothing, List.nil_append]
  have parted : List.Forall₂ Nested.Within (alternatives.items.reverse.filterMap id)
      (wider.items.reverse.filterMap id) := by
    rw [parts]
    exact List.rel_filterMap (fun _ _ related => related) (List.rel_reverse related)
  change Expr.Within (List.foldr ..) (List.foldr ..)
  generalize alternatives.items.reverse.filterMap id = parts, wider.items.reverse.filterMap id = more at parted
  induction parted with
  | nil => exact Expr.within_empty
  | cons first _ ih => exact Expr.Within.seq first ih

theorem Within.close (within : alternatives.Within wider) : alternatives.close.Within wider.close := by
  have last : alternatives.branch.expr.Within wider.branch.expr := within.branch
  have left := within.left
  change Expr.Within (List.foldl ..) (List.foldl ..)
  generalize alternatives.branch.expr = expr, wider.branch.expr = more at last
  generalize alternatives.left = parts, wider.left = wide at left
  induction left generalizing expr more with
  | nil => exact last
  | cons first _ ih => exact ih _ _ (Expr.Within.alt first last)

theorem Within.repeatLast? (within : alternatives.Within wider) {least : Nat} {most : Option Nat} {greedy : Bool}
    (repeats : alternatives.repeatLast? least most greedy = some next) :
    ∃ more, wider.repeatLast? least most greedy = some more ∧ next.Within more := by
  obtain ⟨front, marks, eq, related, none⟩ := within.items
  unfold Alternatives.repeatLast? at repeats ⊢
  split at repeats
  · rename_i item items isItems
    obtain rfl := Option.some.inj repeats
    rw [isItems] at related
    obtain ⟨_, _, first, rest, rfl⟩ := List.forall₂_cons_left_iff.1 related
    cases first with
    | some first =>
        rw [eq]
        refine ⟨_, rfl, within.left, _, marks, rfl, .cons (.some ?_) rest, none⟩
        exact Expr.Within.repetition first least most greedy
  · contradiction

end Alternatives

/-- An open group, with case ignored in and around it. -/
structure OpenGroup.Within (group wider : OpenGroup) : Prop where
  index : wider.index = group.index
  outside : wider.outside = group.outside.ignoringCase
  before : group.before.Within wider.before

namespace ParseState

/-- A state between two tokens, with case ignored. -/
structure Within (state wider : ParseState) : Prop where
  groups : List.Forall₂ OpenGroup.Within state.groups wider.groups
  present : state.present.Within wider.present
  switches : wider.switches = state.switches.ignoringCase
  captures : wider.captures = state.captures
  names : wider.names = state.names

variable {state wider next : ParseState} {token : Token} {tokens : List Token}

theorem Within.push (within : state.Within wider) {expr more : Expr} (exprs : expr.Within more) (depth : Nat) :
    (state.push expr depth).Within (wider.push more depth) :=
  { within with present := within.present.push exprs }

theorem Within.openGroup (within : state.Within wider) {index other : Option Nat} (same : other = index)
    {switches more : Switches} (ignores : more = switches.ignoringCase) :
    (state.openGroup index switches).Within (wider.openGroup other more) where
  groups := .cons ⟨same, within.switches, within.present⟩ within.groups
  present := ⟨.nil, [], [], rfl, .nil, fun _ mem => absurd mem List.not_mem_nil⟩
  switches := ignores
  captures := by
    unfold ParseState.openGroup
    rw [within.captures, same]
  names := within.names

theorem Within.closeGroup? (within : state.Within wider) (closes : state.closeGroup? = some next) :
    ∃ more, wider.closeGroup? = some more ∧ next.Within more := by
  have groups := within.groups
  unfold ParseState.closeGroup? at closes ⊢
  split at closes
  · contradiction
  · rename_i group rest isGroups
    obtain rfl := Option.some.inj closes
    rw [isGroups] at groups
    obtain ⟨⟨index, outside, before⟩, _, ⟨same, out, front⟩, others, eq⟩ := List.forall₂_cons_left_iff.1 groups
    dsimp only at same out front
    subst same out
    rw [eq]
    refine ⟨_, rfl, others, front.push ?_, rfl, within.captures, within.names⟩
    have inside : state.present.close.expr.Within wider.present.close.expr := within.present.close
    change Expr.Within _ _
    cases group.index with
    | none => exact inside
    | some index => exact inside.group index

/-- Every token takes the states on, side by side. -/
theorem Within.step? (within : state.Within wider) (relaxes : token.Relaxes) (steps : state.step? token = some next) :
    ∃ more, wider.step? token = some more ∧ next.Within more := by
  have switches := within.switches
  cases token with
  | literal c =>
      cases steps
      refine ⟨_, rfl, within.push (Expr.within_set ?_) 0⟩
      rw [switches]
      exact CharSet.within_ofCase _ _
  | dot =>
      cases steps
      refine ⟨_, rfl, within.push (Expr.within_set ?_) 0⟩
      rw [switches]
      exact fun _ has => has
  | set set =>
      cases steps
      exact ⟨_, rfl, within.push (Expr.within_set fun _ has => has) 0⟩
  | bracket negated inside =>
      cases steps
      refine ⟨_, rfl, within.push (Expr.within_set ?_) 1⟩
      rw [switches]
      cases state.switches.ignoreCase with
      | false => cases negated <;> exact relaxes
      | true => exact fun _ has => has
  | anchor condition =>
      cases steps
      exact ⟨_, rfl, within.push (Expr.within_anchor _) 0⟩
  | startOfText =>
      cases steps
      refine ⟨_, rfl, ?_⟩
      rw [switches]
      exact within.push (Expr.within_anchor _) 0
  | endOfText =>
      cases steps
      refine ⟨_, rfl, ?_⟩
      rw [switches]
      exact within.push (Expr.within_anchor _) 0
  | opening opening =>
      cases opening with
      | capture =>
          cases steps
          exact ⟨_, rfl, within.openGroup (by rw [within.captures]) switches⟩
      | named name =>
          simp only [ParseState.step?] at steps ⊢
          split at steps
          · contradiction
          · rename_i fresh
            cases steps
            rw [← within.names] at fresh
            rw [if_neg fresh]
            have named :
                Within { state with names := name :: state.names } { wider with names := name :: wider.names } :=
              { within with names := congrArg (name :: ·) within.names }
            exact ⟨_, rfl, named.openGroup (congrArg (fun count => some (count + 1)) within.captures) switches⟩
      | plain more =>
          cases steps
          refine ⟨_, rfl, within.openGroup rfl ?_⟩
          rw [switches]
          exact Switches.turnAllOn_ignoringCase _ _
  | closing => exact within.closeGroup? steps
  | bar =>
      cases steps
      exact ⟨_, rfl, { within with
        present := ⟨.cons within.present.branch within.present.left, [], [], rfl, .nil,
          fun _ mem => absurd mem List.not_mem_nil⟩ }⟩
  | repetition least most greedy =>
      simp only [ParseState.step?] at steps ⊢
      obtain ⟨present, repeats, rfl⟩ := Option.map_eq_some_iff.1 steps
      obtain ⟨more, same, related⟩ := within.present.repeatLast? repeats
      rw [show (wider.switches.swapGreed) = state.switches.swapGreed by rw [switches]; rfl, same]
      exact ⟨_, rfl, { within with present := related }⟩
  | switches more =>
      cases steps
      obtain ⟨front, marks, eq, related, isNone⟩ := within.present.items
      refine ⟨_, rfl, { within with
        present := ⟨within.present.left, none :: front, marks, congrArg (none :: ·) eq, .cons .none related, isNone⟩
        switches := ?_ }⟩
      rw [switches]
      exact Switches.turnAllOn_ignoringCase _ _

theorem Within.run (within : state.Within wider) (relaxes : ∀ token ∈ tokens, token.Relaxes)
    (runs : tokens.foldlM ParseState.step? state = some next) :
    ∃ more, tokens.foldlM ParseState.step? wider = some more ∧ next.Within more := by
  induction tokens generalizing state wider with
  | nil =>
      cases runs
      exact ⟨_, rfl, within⟩
  | cons token tokens ih =>
      rw [List.foldlM_cons] at runs
      obtain ⟨middle, steps, rest⟩ := Option.bind_eq_some_iff.1 runs
      obtain ⟨first, others⟩ := List.forall_mem_cons.1 relaxes
      obtain ⟨further, same, related⟩ := within.step? first steps
      rw [List.foldlM_cons, same]
      exact ih related others rest

theorem Within.finish? (within : state.Within wider) {nested : Nested} (finishes : state.finish? = some nested) :
    ∃ more, wider.finish? = some more ∧ nested.Within more := by
  unfold ParseState.finish? at finishes ⊢
  split at finishes
  · rename_i closed
    obtain rfl := Option.some.inj finishes
    have none := within.groups
    rw [List.isEmpty_iff.1 closed, List.forall₂_nil_left_iff] at none
    rw [none]
    exact ⟨_, rfl, within.present.close⟩
  · contradiction

end ParseState

namespace Expr

theorem readAll_ignoringCase (text : List Char) :
    Token.readAll ("(?i)".toList ++ text) = (Token.readAll text).map (.switches [.ignoreCase] :: ·) := by
  have first : Token.read '(' ("?i)".toList ++ text) = some (.switches [.ignoreCase], 3) := by
    have once : [Switch.ignoreCase].eraseDups = [.ignoreCase] := rfl
    simp [Token.read, Token.groupOpening, Token.switchGroup, Token.switch?, List.takeWhile, once]
  change Token.readAll ('(' :: ("?i)".toList ++ text)) = _
  rw [Token.readAll, first]
  rfl

/-- Case is ignored, by a switch in front: the expression can still be read, and it is wider. -/
theorem exists_ignoringCase {expr : Expr} {text : List Char} (parses : parse? text = some expr)
    (relaxes : ∀ tokens, Token.readAll text = some tokens → ∀ token ∈ tokens, token.Relaxes) :
    ∃ wider, Nested.read? ("(?i)".toList ++ text) = some wider ∧ expr.Within wider.expr := by
  obtain ⟨nested, reads, -, rfl⟩ := parse?_eq_some_iff.1 parses
  unfold Nested.read? at reads
  obtain ⟨tokens, cut, later⟩ := Option.bind_eq_some_iff.1 reads
  obtain ⟨state, runs, finishes⟩ := Option.bind_eq_some_iff.1 later
  have start : ParseState.Within {} { present := ⟨[], [none]⟩, switches := Switches.ignoringCase {} } :=
    ⟨.nil, ⟨.nil, [], [none], rfl, .nil, by simp⟩, rfl, rfl, rfl⟩
  obtain ⟨further, ran, related⟩ := start.run (relaxes tokens cut) runs
  obtain ⟨wider, finished, widens⟩ := related.finish? finishes
  refine ⟨wider, ?_, widens⟩
  unfold Nested.read?
  rw [readAll_ignoringCase, cut, Option.map_some, Option.bind_some, List.foldlM_cons]
  exact Option.bind_eq_some_iff.2 ⟨further, ran, finished⟩

end Expr

end ModalPanes.Regex
