import ModalPanes.Proofs.Search.Cycle
import Mathlib.Order.Bounds.Defs

/-!
# What a search finds

A search forward finds the least start of a match behind a position, and where there is none, the least of all;
a search backward finds the greatest one in front of it, or the greatest of all.  It tells whether it went
around an end of the text, and searching back from what was found leads to where it began, if there is a match.
-/

namespace ModalPanes

section Cycles

variable {α : Type} {r : α → α → Prop} [DecidableRel r] {xs : List α} {x y : α}

omit [DecidableRel r] in
theorem least_of_head? (sorted : xs.Pairwise r) (head : xs.head? = some y) :
    y ∈ xs ∧ ∀ z ∈ xs, z = y ∨ r y z := by
  cases sorted with
  | nil => cases head
  | cons least sorted =>
      obtain rfl := Option.some.inj head
      refine ⟨List.mem_cons_self, fun z mem => ?_⟩
      rcases List.mem_cons.1 mem with rfl | mem
      · exact .inl rfl
      · exact .inr (least z mem)

/-- A cycle begins with the first element behind the given one, and where there is none, with the first of all. -/
theorem first_of_cycleFrom (sorted : xs.Pairwise r) (head : (cycleFrom r xs x).head? = some y) :
    (y ∈ xs ∧ r x y ∧ ∀ z ∈ xs, r x z → z = y ∨ r y z) ∨
      (∀ z ∈ xs, ¬ r x z) ∧ y ∈ xs ∧ ∀ z ∈ xs, z = y ∨ r y z := by
  unfold cycleFrom at head
  cases ahead : xs.filter (fun z => r x z) with
  | nil =>
      have none : ∀ z ∈ xs, ¬ r x z := by simpa [List.filter_eq_nil_iff] using ahead
      have all : xs.filter (fun z => ¬ r x z) = xs := by simpa [List.filter_eq_self] using none
      rw [ahead, all, List.nil_append] at head
      exact .inr ⟨none, least_of_head? sorted head⟩
  | cons first rest =>
      rw [List.head?_append, ahead, List.head?_cons, Option.some_or] at head
      have head : (xs.filter fun z => r x z).head? = some y := by rw [ahead, ← head, List.head?_cons]
      obtain ⟨mem, least⟩ := least_of_head? (sorted.filter _) head
      simp only [List.mem_filter, decide_eq_true_eq] at mem least
      exact .inl ⟨mem.1, mem.2, fun z memZ behind => least z ⟨memZ, behind⟩⟩

end Cycles

theorem Position.le_of_eq_or_lt {a b : Position} (order : b = a ∨ a < b) : a ≤ b := by
  rcases order with rfl | order
  · exact .inr ⟨rfl, Nat.le_refl _⟩
  · exact order.imp_right fun here => ⟨here.1, Nat.le_of_lt here.2⟩

theorem Position.eq_of_le_of_not_lt {a b : Position} (order : a ≤ b) (other : ¬ a < b) : a = b := by
  cases a
  cases b
  simp only [Position.le_def, Position.lt_def] at order other
  rw [Position.mk.injEq]
  omega

namespace Buffer

variable (buf : Buffer) (pattern : Pattern) {pos start : Position} {direction : Direction} {found : Found}

def matchStarts : Set Position :=
  {start | start.line < buf.lineCount ∧ start.col ∈ buf.matchColumns pattern start.line}

theorem mem_starts_iff : start ∈ buf.starts pattern direction ↔ start ∈ buf.matchStarts pattern := by
  have same : start ∈ buf.starts pattern direction ↔ start ∈ buf.starts pattern .forward :=
    buf.mem_cycle.symm.trans (buf.cycle_perm pattern direction .zero).mem_iff
  rw [same]
  simp only [starts, startsOn, Direction.along, List.mem_flatMap, List.mem_range, List.mem_map]
  constructor
  · rintro ⟨line, inside, col, mem, rfl⟩
    exact ⟨inside, mem⟩
  · rintro ⟨inside, mem⟩
    exact ⟨start.line, inside, start.col, mem, rfl⟩

section Finding

variable (inside : pos.line < buf.lineCount)
include inside

theorem search_eq_none_iff :
    buf.search pattern pos direction = none ↔ ∀ start, start ∉ buf.matchStarts pattern := by
  have round := buf.search_eq pattern direction pos inside
  have mem : ∀ {start}, start ∈ buf.cycle pattern direction pos ↔ start ∈ buf.matchStarts pattern :=
    buf.mem_cycle.trans (buf.mem_starts_iff pattern)
  rw [← Option.map_eq_none_iff (f := Found.pos), round, List.head?_eq_none_iff, List.eq_nil_iff_forall_not_mem]
  exact forall_congr' fun start => not_congr mem

theorem first_of_search (eq : buf.search pattern pos direction = some found) :
    (found.pos ∈ buf.matchStarts pattern ∧ direction.ahead pos found.pos ∧
        ∀ s ∈ buf.matchStarts pattern, direction.ahead pos s → s = found.pos ∨ direction.ahead found.pos s) ∨
      (∀ s ∈ buf.matchStarts pattern, ¬ direction.ahead pos s) ∧ found.pos ∈ buf.matchStarts pattern ∧
        ∀ s ∈ buf.matchStarts pattern, s = found.pos ∨ direction.ahead found.pos s := by
  have round := buf.search_eq pattern direction pos inside
  rw [eq] at round
  have first := first_of_cycleFrom (buf.starts_sorted pattern direction) round.symm
  simpa only [mem_starts_iff] using first

theorem search_forward_first (eq : buf.search pattern pos .forward = some found) :
    IsLeast {s ∈ buf.matchStarts pattern | pos < s} found.pos ∨
      (∀ s ∈ buf.matchStarts pattern, ¬ pos < s) ∧ IsLeast (buf.matchStarts pattern) found.pos := by
  rcases buf.first_of_search pattern inside eq with ⟨mem, ahead, least⟩ | ⟨none, mem, least⟩
  · exact .inl ⟨⟨mem, ahead⟩, fun s behind => Position.le_of_eq_or_lt (least s behind.1 behind.2)⟩
  · exact .inr ⟨none, mem, fun s mem => Position.le_of_eq_or_lt (least s mem)⟩

theorem search_backward_last (eq : buf.search pattern pos .backward = some found) :
    IsGreatest {s ∈ buf.matchStarts pattern | s < pos} found.pos ∨
      (∀ s ∈ buf.matchStarts pattern, ¬ s < pos) ∧ IsGreatest (buf.matchStarts pattern) found.pos := by
  rcases buf.first_of_search pattern inside eq with ⟨mem, ahead, least⟩ | ⟨none, mem, least⟩
  · refine .inl ⟨⟨mem, ahead⟩, fun s before => ?_⟩
    exact Position.le_of_eq_or_lt ((least s before.1 before.2).imp_left Eq.symm)
  · exact .inr ⟨none, mem, fun s mem => Position.le_of_eq_or_lt ((least s mem).imp_left Eq.symm)⟩

end Finding

section Wrapping

variable {steps : List Nat}

theorem searchDown_mem (eq : buf.searchDown pattern pos steps = some found) :
    ∃ step ∈ steps, found.wrapped = decide (buf.lineCount ≤ pos.line + step) ∧
      found.pos.line = (pos.line + step) % buf.lineCount ∧
      (found.pos.line ≠ pos.line ∨ found.pos.col ≤ pos.col) := by
  induction steps with
  | nil => cases eq
  | cons step steps ih =>
      rw [searchDown] at eq
      split at eq
      · rename_i col here
        obtain rfl := Option.some.inj eq
        have wanted := List.find?_some here
        exact ⟨step, List.mem_cons_self, rfl, rfl, by simpa [bne_iff_ne] using wanted⟩
      · obtain ⟨other, mem, rest⟩ := ih eq
        exact ⟨other, List.mem_cons_of_mem _ mem, rest⟩

theorem searchUp_mem (eq : buf.searchUp pattern pos steps = some found) :
    ∃ step ∈ steps, found.wrapped = decide (pos.line < step) ∧
      found.pos.line = (pos.line + buf.lineCount - step) % buf.lineCount ∧
      (found.pos.line ≠ pos.line ∨ pos.col ≤ found.pos.col) := by
  induction steps with
  | nil => cases eq
  | cons step steps ih =>
      rw [searchUp] at eq
      split at eq
      · rename_i col here
        obtain rfl := Option.some.inj eq
        have wanted := List.find?_some here
        exact ⟨step, List.mem_cons_self, rfl, rfl, by simpa [bne_iff_ne] using wanted⟩
      · obtain ⟨other, mem, rest⟩ := ih eq
        exact ⟨other, List.mem_cons_of_mem _ mem, rest⟩

variable (inside : pos.line < buf.lineCount)
include inside

theorem wrapped_search_forward (eq : buf.search pattern pos .forward = some found) :
    found.wrapped = true ↔ found.pos ≤ pos := by
  unfold search at eq
  dsimp only at eq
  split at eq
  · rename_i col here
    obtain rfl := Option.some.inj eq
    have behind := List.find?_some here
    simp only [decide_eq_true_eq] at behind
    simp [Position.le_def, Position.withCol, behind]
  · obtain ⟨step, mem, wrapped, line, col⟩ := buf.searchDown_mem pattern eq
    simp only [List.mem_map, List.mem_range] at mem
    rw [wrapped, decide_eq_true_eq, Position.le_def]
    rcases Nat.lt_or_ge (pos.line + step) buf.lineCount with below | round
    · rw [Nat.mod_eq_of_lt below] at line
      omega
    · rw [Nat.mod_eq_sub_mod round, Nat.mod_eq_of_lt (by omega)] at line
      omega

theorem wrapped_search_backward (eq : buf.search pattern pos .backward = some found) :
    found.wrapped = true ↔ pos ≤ found.pos := by
  unfold search at eq
  dsimp only at eq
  split at eq
  · rename_i col here
    obtain rfl := Option.some.inj eq
    have before := List.find?_some here
    simp only [decide_eq_true_eq] at before
    simp [Position.le_def, Position.withCol, before]
  · obtain ⟨step, mem, wrapped, line, col⟩ := buf.searchUp_mem pattern eq
    simp only [List.mem_map, List.mem_range] at mem
    rw [wrapped, decide_eq_true_eq, Position.le_def]
    rcases Nat.lt_or_ge pos.line step with round | above
    · rw [Nat.mod_eq_of_lt (by omega)] at line
      omega
    · rw [show pos.line + buf.lineCount - step = pos.line - step + buf.lineCount by omega, Nat.add_mod_right,
        Nat.mod_eq_of_lt (by omega)] at line
      omega

end Wrapping

/-- Of a start and the one that comes behind it, round the end, the first comes before the second. -/
theorem search_backward_of_forward (mem : pos ∈ buf.matchStarts pattern)
    (ahead : buf.search pattern pos .forward = some found) :
    (buf.search pattern found.pos .backward).map Found.pos = some pos := by
  have first := buf.search_forward_first pattern mem.1 ahead
  have there : found.pos ∈ buf.matchStarts pattern := by
    rcases first with ⟨⟨there, -⟩, -⟩ | ⟨-, there, -⟩
    · exact there
    · exact there
  cases back : buf.search pattern found.pos .backward with
  | none => exact absurd there ((buf.search_eq_none_iff pattern there.1).1 back found.pos)
  | some returned =>
      have last := buf.search_backward_last pattern there.1 back
      suffices pos ≤ returned.pos ∧ ¬ pos < returned.pos by
        rw [Option.map_some, Position.eq_of_le_of_not_lt this.1 this.2]
      rcases first with ⟨⟨-, behind⟩, least⟩ | ⟨none, -, least⟩
      · rcases last with ⟨⟨memBack, before⟩, greatest⟩ | ⟨noneBefore, -⟩
        · refine ⟨greatest ⟨mem, behind⟩, fun between => ?_⟩
          exact Position.not_le.2 before (least ⟨memBack, between⟩)
        · exact absurd behind (noneBefore pos mem)
      · rcases last with ⟨⟨memBack, before⟩, -⟩ | ⟨-, memBack, greatest⟩
        · exact absurd (least memBack) (Position.not_le.2 before)
        · exact ⟨greatest mem, none returned.pos memBack⟩

/-- A search finds the next match round the end, or the previous one round the start, tells whether it went round,
and finds nothing only where there is no match; from what is found behind a match, a search back leads to it. -/
theorem search_is_succession (pattern : Pattern) (inside : pos.line < buf.lineCount) :
    let starts := buf.matchStarts pattern
    (∀ direction, buf.search pattern pos direction = none ↔ ∀ start, start ∉ starts) ∧
    (∀ found, buf.search pattern pos .forward = some found →
      (IsLeast {s ∈ starts | pos < s} found.pos ∨ (∀ s ∈ starts, ¬ pos < s) ∧ IsLeast starts found.pos) ∧
      (found.wrapped = true ↔ found.pos ≤ pos)) ∧
    (∀ found, buf.search pattern pos .backward = some found →
      (IsGreatest {s ∈ starts | s < pos} found.pos ∨
        (∀ s ∈ starts, ¬ s < pos) ∧ IsGreatest starts found.pos) ∧
      (found.wrapped = true ↔ pos ≤ found.pos)) ∧
    (pos ∈ starts → ∃ found, buf.search pattern pos .forward = some found ∧
      (buf.search pattern found.pos .backward).map Found.pos = some pos) := by
  refine ⟨fun direction => buf.search_eq_none_iff pattern inside, fun found eq => ?_, fun found eq => ?_,
    fun mem => ?_⟩
  · exact ⟨buf.search_forward_first pattern inside eq, buf.wrapped_search_forward pattern inside eq⟩
  · exact ⟨buf.search_backward_last pattern inside eq, buf.wrapped_search_backward pattern inside eq⟩
  · cases ahead : buf.search pattern pos .forward with
    | none => exact absurd mem ((buf.search_eq_none_iff pattern inside).1 ahead pos)
    | some found => exact ⟨found, rfl, buf.search_backward_of_forward pattern mem ahead⟩

/-- From a match on the first line to the one on the last, and back. -/
theorem search_is_succession_back :
    let buf : Buffer := { text := "on off\nno on".toList }
    ∃ pattern, Pattern.compile? "on".toList = some pattern ∧
      (0 < buf.lineCount ∧ ⟨0, 0⟩ ∈ buf.matchStarts pattern) ∧
      ∃ found, buf.search pattern ⟨0, 0⟩ .forward = some found ∧
        (buf.search pattern found.pos .backward).map Found.pos = some ⟨0, 0⟩ := by
  intro buf
  obtain ⟨pattern, compiled⟩ := Option.isSome_iff_exists.1
    (show (Pattern.compile? "on".toList).isSome = true by decide +kernel)
  have columns : (Pattern.compile? "on".toList).map (fun pattern => buf.matchColumns pattern 0) = some [0] := by
    decide +kernel
  rw [compiled, Option.map_some, Option.some.injEq] at columns
  have inside : 0 < buf.lineCount := buf.lineCount_pos
  have start : ⟨0, 0⟩ ∈ buf.matchStarts pattern := ⟨inside, columns ▸ List.mem_singleton.2 rfl⟩
  obtain ⟨-, -, -, back⟩ := @search_is_succession buf ⟨0, 0⟩ pattern inside
  exact ⟨pattern, compiled, ⟨inside, start⟩, back start⟩

end Buffer

end ModalPanes
