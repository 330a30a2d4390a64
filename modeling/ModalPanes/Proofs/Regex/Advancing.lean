import ModalPanes.Regex.Expr
import Mathlib.Data.List.Basic

/-!
# Matching goes forward

A matcher answers only what follows it answers, at a place that is some characters further on in the text.
So every match of an expression starts and stops in the text searched, and the next one starts further on.
-/

namespace ModalPanes.Regex

/-- Places that are some characters further on. -/
inductive Place.Onward : Place → Place → Prop where
  | here (place : Place) : Onward place place
  | step {place next stop : Place} (passes : place.next? = some next) (further : Onward next stop) :
      Onward place stop

namespace Place.Onward

variable {place middle stop : Place}

theorem trans (first : place.Onward middle) (second : middle.Onward stop) : place.Onward stop := by
  induction first with
  | here place => exact second
  | step passes further ih => exact .step passes (ih second)

theorem ofCons {index : Nat} {previous : Option Char} {c : Char} {rest : List Char} :
    Onward ⟨index, previous, c :: rest⟩ ⟨index + 1, some c, rest⟩ :=
  .step rfl (.here _)

theorem of_rest {c : Char} {rest : List Char} (text : place.rest = c :: rest) :
    place.Onward ⟨place.index + 1, some c, rest⟩ := by
  obtain ⟨index, previous, _⟩ := place
  obtain rfl := text
  exact ofCons

theorem of_next? (passes : place.next? = some middle) :
    place.Onward middle ∧ middle.index = place.index + 1 := by
  refine ⟨.step passes (.here _), ?_⟩
  unfold next? at passes
  split at passes
  · contradiction
  · obtain rfl := Option.some.inj passes
    rfl

/-- The text left is an end of the text. -/
theorem suffix (onward : place.Onward stop) : stop.rest <:+ place.rest := by
  induction onward with
  | here place => exact List.suffix_rfl
  | @step place next stop passes further ih =>
      unfold next? at passes
      split at passes
      · contradiction
      · rename_i c rest text
        obtain rfl := Option.some.inj passes
        exact ih.trans (text ▸ List.suffix_cons c rest)

theorem index_le (onward : place.Onward stop) : place.index ≤ stop.index := by
  induction onward with
  | here place => exact Nat.le_refl _
  | step passes further ih =>
      have next := (of_next? passes).2
      omega

/-- As much as the index is further on, the text left is shorter. -/
theorem index_add_length (onward : place.Onward stop) :
    stop.index + stop.rest.length = place.index + place.rest.length := by
  induction onward with
  | here place => rfl
  | @step place next stop passes further ih =>
      unfold next? at passes
      split at passes
      · contradiction
      · rename_i c rest text
        obtain rfl := Option.some.inj passes
        rw [ih, text, List.length_cons]
        exact Nat.add_right_comm _ _ _

theorem eq_of_index (onward : place.Onward stop) (same : place.index = stop.index) : stop = place := by
  cases onward with
  | here place => rfl
  | step passes further =>
      have next := (of_next? passes).2
      have le := further.index_le
      omega

end Place.Onward

namespace Matcher

/-- Whatever a matcher answers comes from what follows it, at a place further on. -/
structure Advances (body : Matcher) : Prop where
  answered : ∀ {place : Place} {caps : Captures} {rest : Rest} {found : Place × Captures},
    body place caps rest = some found → ∃ stop caps, place.Onward stop ∧ rest stop caps = some found

variable {body next : Matcher}

theorem Advances.here : Advances fun place caps rest => rest place caps :=
  ⟨fun answer => ⟨_, _, .here _, answer⟩⟩

theorem Advances.andThen (first : body.Advances) (second : next.Advances) :
    Advances fun place caps rest => body place caps fun stop caps => next stop caps rest := by
  refine ⟨fun {place caps rest found} answer => ?_⟩
  obtain ⟨middle, _, further, later⟩ := first.answered answer
  obtain ⟨stop, caps, furtherStill, last⟩ := second.answered later
  exact ⟨stop, caps, further.trans furtherStill, last⟩

theorem Advances.choose (first : body.Advances) (second : next.Advances) (greedy : Bool) :
    Advances fun place caps rest =>
      choose greedy (fun _ => body place caps rest) fun _ => next place caps rest := by
  refine ⟨fun {place caps rest found} answer => ?_⟩
  have either : body place caps rest = some found ∨ next place caps rest = some found := by
    unfold Matcher.choose at answer
    split at answer
    · exact (Option.or_eq_some_iff.1 answer).imp id And.right
    · exact ((Option.or_eq_some_iff.1 answer).imp id And.right).symm
  exact either.elim first.answered second.answered

theorem Advances.times (advances : body.Advances) (count : Nat) : (times body count).Advances := by
  induction count with
  | zero => exact .here
  | succ count ih => exact advances.andThen ih

theorem Advances.upTo (advances : body.Advances) (greedy : Bool) (count : Nat) :
    (upTo greedy body count).Advances := by
  induction count with
  | zero => exact .here
  | succ count ih => exact (advances.andThen ih).choose .here greedy

theorem Advances.rounds (advances : body.Advances) (greedy : Bool) (fuel : Nat) :
    (rounds greedy body fuel).Advances := by
  induction fuel with
  | zero => exact .here
  | succ fuel ih =>
      have round : Advances fun place caps rest => body place caps fun stop caps =>
          if stop.index = place.index then none
          else Matcher.rounds greedy body fuel stop caps rest := by
        refine ⟨fun {place caps rest found} answer => ?_⟩
        obtain ⟨middle, _, further, later⟩ := advances.answered answer
        split at later
        · contradiction
        · obtain ⟨stop, caps, furtherStill, last⟩ := ih.answered later
          exact ⟨stop, caps, further.trans furtherStill, last⟩
      exact round.choose .here greedy

theorem Advances.oneOrMore (advances : body.Advances) (greedy : Bool) :
    (oneOrMore greedy body).Advances := by
  refine ⟨fun {place caps rest found} answer => ?_⟩
  obtain ⟨middle, _, further, later⟩ := advances.answered answer
  split at later
  · exact ⟨middle, _, further, later⟩
  · obtain ⟨stop, caps, furtherStill, last⟩ := (advances.rounds greedy _).answered later
    exact ⟨stop, caps, further.trans furtherStill, last⟩

theorem Advances.between (advances : body.Advances) (greedy : Bool) (least : Nat)
    (most : Option Nat) : (between greedy body least most).Advances := by
  cases most with
  | some most => exact (advances.times least).andThen (advances.upTo greedy _)
  | none =>
      cases least with
      | zero => exact (advances.oneOrMore greedy).choose .here greedy
      | succ count => exact (advances.times count).andThen (advances.oneOrMore greedy)

end Matcher

namespace Expr

/-- The search of every expression goes forward. -/
theorem matcher_advances (expr : Expr) : expr.matcher.Advances := by
  induction expr with
  | empty => exact .here
  | set chars =>
      refine ⟨fun {place caps rest found} answer => ?_⟩
      simp only [matcher] at answer
      split at answer
      · rename_i c behind text
        split at answer
        · exact ⟨_, _, .of_rest text, answer⟩
        · contradiction
      · contradiction
  | anchor condition =>
      refine ⟨fun {place caps rest found} answer => ?_⟩
      simp only [matcher] at answer
      split at answer
      · exact ⟨_, _, .here _, answer⟩
      · contradiction
  | seq first second firstAdvances secondAdvances => exact firstAdvances.andThen secondAdvances
  | alt first second firstAdvances secondAdvances =>
      exact firstAdvances.choose secondAdvances true
  | repetition least most greedy body advances => exact advances.between greedy least most
  | group index body advances =>
      refine ⟨fun {place caps rest found} answer => ?_⟩
      obtain ⟨stop, _, further, last⟩ := advances.answered answer
      exact ⟨stop, _, further, last⟩

/-- A match lies in a text. -/
def MatchIn (text : List Char) (found : Match) : Prop :=
  found.start.rest <:+ text ∧ found.stop.rest <:+ text

variable {expr : Expr} {found : Match} {place : Place} {lastStop : Option Nat}

/-- The expression matches where the match starts, and the match stops further on. -/
structure Matches (expr : Expr) (found : Match) : Prop where
  matched : expr.matchAt? found.start = some found
  onward : found.start.Onward found.stop

theorem matchAt?_matches (matched : expr.matchAt? place = some found) :
    found.start = place ∧ Matches expr found := by
  obtain ⟨answer, matches_answer, rfl⟩ := Option.map_eq_some_iff.1 matched
  obtain ⟨stop, caps, further, same⟩ := expr.matcher_advances.answered matches_answer
  obtain rfl := Option.some.inj same
  exact ⟨rfl, matched, further⟩

theorem findFrom?_matches {text : List Char} {index : Nat} {previous : Option Char}
    (matched : expr.findFrom? index previous text = some found) :
    Place.Onward ⟨index, previous, text⟩ found.start ∧ Matches expr found := by
  induction text generalizing index previous with
  | nil =>
      obtain ⟨start, matched⟩ := matchAt?_matches matched
      exact ⟨start ▸ .here _, matched⟩
  | cons c text ih =>
      unfold findFrom? at matched
      split at matched
      · rename_i here
        obtain rfl := Option.some.inj matched
        obtain ⟨start, matched⟩ := matchAt?_matches here
        exact ⟨start ▸ .here _, matched⟩
      · obtain ⟨further, matched⟩ := ih matched
        exact ⟨.trans .ofCons further, matched⟩

theorem findNext?_matches (matched : expr.findNext? place lastStop = some found) :
    place.Onward found.start ∧ Matches expr found := by
  unfold findNext? at matched
  split at matched
  · contradiction
  · rename_i first here
    split at matched
    · obtain ⟨next, step, later⟩ := Option.bind_eq_some_iff.1 matched
      obtain ⟨further, matched⟩ := findFrom?_matches later
      exact ⟨(Place.Onward.of_next? step).1.trans further, matched⟩
    · obtain rfl := Option.some.inj matched
      exact findFrom?_matches here

/-- Right behind a match, an empty one is passed over. -/
theorem findNext?_passes (matched : expr.findNext? place (some place.index) = some found)
    (empty : found.start.index = found.stop.index) : place.index < found.start.index := by
  unfold findNext? at matched
  split at matched
  · contradiction
  · rename_i first here
    obtain ⟨further, -⟩ := findFrom?_matches here
    split at matched
    · obtain ⟨next, step, later⟩ := Option.bind_eq_some_iff.1 matched
      obtain ⟨furtherStill, -⟩ := findFrom?_matches later
      calc place.index < next.index := by rw [(Place.Onward.of_next? step).2]; exact Nat.lt_succ_self _
        _ ≤ found.start.index := furtherStill.index_le
    · rename_i accepted
      obtain rfl := Option.some.inj matched
      rw [not_and, Option.some.injEq] at accepted
      have le : place.index ≤ first.start.index := further.index_le
      have other := accepted empty
      omega

theorem findAllFrom_onward {fuel : Nat} :
    ∀ found ∈ expr.findAllFrom fuel place lastStop,
      place.Onward found.start ∧ found.start.Onward found.stop := by
  induction fuel generalizing place lastStop with
  | zero => exact fun _ mem => absurd mem List.not_mem_nil
  | succ fuel ih =>
      intro found mem
      unfold findAllFrom at mem
      split at mem
      · contradiction
      · rename_i first here
        obtain ⟨further, matched⟩ := findNext?_matches here
        rcases List.mem_cons.1 mem with rfl | mem
        · exact ⟨further, matched.onward⟩
        · obtain ⟨start, stop⟩ := ih found mem
          exact ⟨(further.trans matched.onward).trans start, stop⟩

theorem findAll_in (expr : Expr) (text : List Char) :
    ∀ found ∈ expr.findAll text, MatchIn text found := by
  intro found mem
  obtain ⟨start, stop⟩ := findAllFrom_onward found mem
  exact ⟨start.suffix, (start.trans stop).suffix⟩

theorem findAll_index_le (expr : Expr) (text : List Char) :
    ∀ found ∈ expr.findAll text, found.start.index ≤ text.length := by
  intro found mem
  have left := (findAllFrom_onward found mem).1.index_add_length
  simp only [Place.start] at left
  omega

/-- The next match behind a match starts further on, even behind an empty one. -/
theorem Matches.lt_next {first next : Match} (matched : Matches expr first)
    (found : expr.findNext? first.stop (some first.stop.index) = some next) :
    first.start.index < next.start.index := by
  obtain ⟨further, later⟩ := findNext?_matches found
  have least := matched.onward.index_le
  have most := further.index_le
  rcases Nat.lt_or_ge first.start.index next.start.index with lt | ge
  · exact lt
  · -- both are matched at the same place, so they are the same empty match, which is passed over
    have stays : first.stop = first.start := matched.onward.eq_of_index (by omega)
    have meets : next.start = first.stop := further.eq_of_index (by omega)
    have same : next = first := by
      have again := later.matched
      rw [meets, stays, matched.matched] at again
      exact (Option.some.inj again).symm
    have passes := findNext?_passes found (by rw [same, stays])
    omega

theorem Matches.lt_of_mem {first : Match} (matched : Matches expr first) {fuel : Nat} :
    ∀ later ∈ expr.findAllFrom fuel first.stop (some first.stop.index),
      first.start.index < later.start.index := by
  induction fuel generalizing first with
  | zero => exact fun _ mem => absurd mem List.not_mem_nil
  | succ fuel ih =>
      intro later mem
      unfold findAllFrom at mem
      split at mem
      · contradiction
      · rename_i next found
        have lt := matched.lt_next found
        rcases List.mem_cons.1 mem with rfl | mem
        · exact lt
        · exact Nat.lt_trans lt (ih (findNext?_matches found).2 later mem)

theorem findAll_sorted (expr : Expr) (text : List Char) :
    (expr.findAll text).Pairwise fun first second => first.start.index < second.start.index := by
  have from_ : ∀ (fuel : Nat) (place : Place) (lastStop : Option Nat),
      (expr.findAllFrom fuel place lastStop).Pairwise fun first second =>
        first.start.index < second.start.index := by
    intro fuel
    induction fuel with
    | zero => exact fun _ _ => .nil
    | succ fuel ih =>
        intro place lastStop
        unfold findAllFrom
        split
        · exact .nil
        · rename_i first found
          exact .cons (findNext?_matches found).2.lt_of_mem (ih _ _)
  exact from_ _ _ _

end Expr

end ModalPanes.Regex
