import ModalPanes.Proofs.Regex.Advancing
import ModalPanes.Search.Find
import Mathlib.Data.List.Rotate

/-!
# Searches go round

The starts of all matches in a buffer, in the direction of a search, make a cycle: those that lie ahead of a
position, and then the others.  A search finds the first of them, and from there the next one is the first, so
that searching again and again goes through all of them before one is found twice.
-/

namespace ModalPanes

section Cycles

variable {α : Type} {r : α → α → Prop} [DecidableRel r] {xs rest front back : List α} {x y : α}

/-- The elements of a list that come behind one, and then the others. -/
def cycleFrom (r : α → α → Prop) [DecidableRel r] (xs : List α) (x : α) : List α :=
  xs.filter (fun y => r x y) ++ xs.filter fun y => ¬ r x y

theorem cycleFrom_perm (xs : List α) (x : α) : (cycleFrom r xs x).Perm xs := by
  unfold cycleFrom
  simpa using List.filter_append_perm (fun y => decide (r x y)) xs

theorem split_of_sorted (trans : ∀ a b c, r a b → r b c → r a c) (sorted : xs.Pairwise r) (x : α) :
    xs = xs.filter (fun y => ¬ r x y) ++ xs.filter fun y => r x y := by
  induction sorted with
  | nil => rfl
  | @cons y ys least sorted ih =>
      by_cases ahead : r x y
      · have all : ∀ z ∈ ys, r x z := fun z mem => trans x y z ahead (least z mem)
        have none : ys.filter (fun z => ¬ r x z) = [] := by
          simpa [List.filter_eq_nil_iff] using all
        have every : ys.filter (fun z => r x z) = ys := by
          simpa [List.filter_eq_self] using all
        rw [List.filter_cons_of_neg (by simpa using ahead), List.filter_cons_of_pos (by simpa using ahead),
          none, every, List.nil_append]
      · simpa [ahead] using ih

theorem cycleFrom_mid (asymm : ∀ a b, r a b → ¬ r b a) (sorted : (front ++ y :: back).Pairwise r) :
    cycleFrom r (front ++ y :: back) y = back ++ front ++ [y] := by
  obtain ⟨-, sortedBack, between⟩ := List.pairwise_append.1 sorted
  have before : ∀ z ∈ front, ¬ r y z := fun z mem => asymm z y (between z mem y List.mem_cons_self)
  have behind : ∀ z ∈ back, r y z := (List.pairwise_cons.1 sortedBack).1
  have self : ¬ r y y := fun loop => asymm y y loop loop
  have frontNone : front.filter (fun z => r y z) = [] := by
    simpa [List.filter_eq_nil_iff] using before
  have frontAll : front.filter (fun z => ¬ r y z) = front := by
    simpa [List.filter_eq_self] using before
  have backNone : back.filter (fun z => ¬ r y z) = [] := by
    simpa [List.filter_eq_nil_iff] using behind
  have backAll : back.filter (fun z => r y z) = back := by
    simpa [List.filter_eq_self] using behind
  unfold cycleFrom
  simp only [List.filter_append, List.filter_cons, frontNone, frontAll, backNone, backAll, self]
  simp

/-- From the first element of a cycle, the cycle goes on with the second and ends with the first. -/
theorem cycleFrom_head (trans : ∀ a b c, r a b → r b c → r a c) (asymm : ∀ a b, r a b → ¬ r b a)
    (sorted : xs.Pairwise r) (eq : cycleFrom r xs x = y :: rest) : cycleFrom r xs y = rest ++ [y] := by
  have parts := split_of_sorted trans sorted x
  unfold cycleFrom at eq
  generalize xs.filter (fun y => ¬ r x y) = front at parts eq
  generalize xs.filter (fun y => r x y) = back at parts eq
  subst parts
  cases back with
  | cons first back =>
      obtain ⟨rfl, rfl⟩ := List.cons.inj eq
      exact cycleFrom_mid asymm sorted
  | nil =>
      obtain rfl : front = y :: rest := eq
      rw [List.append_nil] at sorted
      have mid : cycleFrom r ([] ++ y :: rest) y = rest ++ [] ++ [y] := cycleFrom_mid asymm sorted
      simpa using mid

/-- Of a list in parts, of which some come behind an element and others do not, the cycle goes through those
that do first. -/
theorem cycleFrom_flatMap {β : Type} {f : β → List α} {front back : List β} {y : β}
    (before : ∀ line ∈ front, ∀ z ∈ f line, ¬ r x z) (behind : ∀ line ∈ back, ∀ z ∈ f line, r x z) :
    cycleFrom r ((front ++ y :: back).flatMap f) x =
      (f y).filter (fun z => r x z) ++ (back.flatMap f ++
        (front.flatMap f ++ (f y).filter fun z => ¬ r x z)) := by
  have frontNone : (front.flatMap f).filter (fun z => r x z) = [] := by
    simpa [List.filter_eq_nil_iff] using fun z line mem memZ => before line mem z memZ
  have frontAll : (front.flatMap f).filter (fun z => ¬ r x z) = front.flatMap f := by
    simpa [List.filter_eq_self] using fun z line mem memZ => before line mem z memZ
  have backNone : (back.flatMap f).filter (fun z => ¬ r x z) = [] := by
    simpa [List.filter_eq_nil_iff] using fun z line mem memZ => behind line mem z memZ
  have backAll : (back.flatMap f).filter (fun z => r x z) = back.flatMap f := by
    simpa [List.filter_eq_self] using fun z line mem memZ => behind line mem z memZ
  unfold cycleFrom
  rw [List.flatMap_append, List.flatMap_cons, List.filter_append, List.filter_append, List.filter_append,
    List.filter_append, frontNone, frontAll, backNone, backAll, List.nil_append, List.append_nil,
    List.append_assoc]

end Cycles

namespace Direction

/-- The second position lies ahead of the first. -/
def ahead : Direction → Position → Position → Prop
  | forward, a, b => a < b
  | backward, a, b => b < a

instance (direction : Direction) : DecidableRel direction.ahead := fun a b =>
  match direction with
  | forward => inferInstanceAs (Decidable (a < b))
  | backward => inferInstanceAs (Decidable (b < a))

theorem ahead_trans (direction : Direction) (a b c : Position) (first : direction.ahead a b)
    (second : direction.ahead b c) : direction.ahead a c := by
  cases direction <;> simp only [ahead, Position.lt_def] at * <;> omega

theorem ahead_asymm (direction : Direction) (a b : Position) (ahead : direction.ahead a b) :
    ¬ direction.ahead b a := by
  cases direction <;> simp only [Direction.ahead, Position.lt_def] at * <;> omega

/-- What comes one way, in the direction of a search. -/
def along {α : Type} : Direction → List α → List α
  | forward, xs => xs
  | backward, xs => xs.reverse

theorem along_map {α β : Type} (direction : Direction) (f : α → β) (xs : List α) :
    direction.along (xs.map f) = (direction.along xs).map f := by
  cases direction with
  | forward => rfl
  | backward => exact List.map_reverse.symm

theorem along_pairwise {α : Type} (direction : Direction) {r : α → α → Prop} {xs : List α}
    (sorted : xs.Pairwise fun a b => match direction with
      | forward => r a b
      | backward => r b a) : (direction.along xs).Pairwise r := by
  cases direction with
  | forward => exact sorted
  | backward => exact List.pairwise_reverse.2 sorted

end Direction

namespace Buffer

variable (buf : Buffer) (pattern : Pattern) (direction : Direction)

/-- The starts of the matches on a line. -/
def startsOn (line : Nat) : List Position :=
  direction.along ((buf.matchColumns pattern line).map fun col => ⟨line, col⟩)

/-- The starts of all matches. -/
def starts : List Position :=
  (direction.along (List.range buf.lineCount)).flatMap (buf.startsOn pattern direction)

/-- The starts of all matches, from a position on and round to it. -/
def cycle (pos : Position) : List Position := cycleFrom direction.ahead (buf.starts pattern direction) pos

theorem matchColumns_sorted (line : Nat) : (buf.matchColumns pattern line).Pairwise (· < ·) := by
  unfold matchColumns Pattern.matchesOn
  rw [List.map_map, List.pairwise_map]
  exact pattern.expr.findAll_sorted _

theorem line_of_mem_startsOn {line : Nat} {pos : Position} (mem : pos ∈ buf.startsOn pattern direction line) :
    pos.line = line := by
  have mem : pos ∈ (buf.matchColumns pattern line).map fun col => (⟨line, col⟩ : Position) := by
    cases direction with
    | forward => exact mem
    | backward => exact List.mem_reverse.1 mem
  obtain ⟨col, -, rfl⟩ := List.mem_map.1 mem
  rfl

theorem lines_sorted : (direction.along (List.range buf.lineCount)).Pairwise fun a b =>
    direction.ahead ⟨a, 0⟩ ⟨b, 0⟩ := by
  refine direction.along_pairwise (List.pairwise_lt_range.imp fun {a b} lt => ?_)
  cases direction <;> exact .inl lt

theorem starts_sorted : (buf.starts pattern direction).Pairwise direction.ahead := by
  have columns := fun line => buf.matchColumns_sorted pattern line
  have onLine : ∀ line, (buf.startsOn pattern direction line).Pairwise direction.ahead := by
    intro line
    refine direction.along_pairwise ?_
    rw [List.pairwise_map]
    refine (columns line).imp fun {a b} lt => ?_
    cases direction <;> exact .inr ⟨rfl, lt⟩
  refine List.pairwise_flatMap.2
    ⟨fun line _ => onLine line, (buf.lines_sorted direction).imp fun {a b} ahead => ?_⟩
  intro first memFirst second memSecond
  have atFirst := buf.line_of_mem_startsOn pattern direction memFirst
  have atSecond := buf.line_of_mem_startsOn pattern direction memSecond
  cases direction <;> simp only [Direction.ahead, Position.lt_def] at ahead ⊢ <;> omega

section Searching

variable (pos : Position)

/-- The starts on a line that are left when the search comes round to it. -/
def startsLeft (line : Nat) : List Position :=
  (buf.startsOn pattern direction line).filter fun start => line ≠ pos.line ∨ ¬ direction.ahead pos start

theorem flatMap_startsLeft {lines : List Nat}
    (other : ∀ line ∈ lines, ∀ start ∈ buf.startsOn pattern direction line, line ≠ pos.line) :
    lines.flatMap (buf.startsLeft pattern direction pos) = lines.flatMap (buf.startsOn pattern direction) :=
  List.flatMap_congr fun line mem => List.filter_eq_self.2 fun start memStart => by
    simpa using .inl (other line mem start memStart)

theorem head?_filter_startsOn (line : Nat) (wanted : Position → Bool) :
    ((buf.startsOn pattern direction line).filter wanted).head? =
      ((direction.along (buf.matchColumns pattern line)).find? fun col => wanted ⟨line, col⟩).map fun col =>
        ⟨line, col⟩ := by
  unfold startsOn
  rw [List.head?_filter, Direction.along_map]
  exact List.find?_map

theorem head?_startsLeft_forward (line : Nat) :
    (buf.startsLeft pattern .forward pos line).head? =
      ((buf.matchColumns pattern line).find? fun c => line != pos.line || c ≤ pos.col).map fun col =>
        ⟨line, col⟩ := by
  unfold startsLeft
  rw [head?_filter_startsOn]
  congr 2
  funext col
  simp only [Direction.ahead, Position.lt_def, bne]
  grind

theorem head?_startsLeft_backward (line : Nat) :
    (buf.startsLeft pattern .backward pos line).head? =
      ((buf.matchColumns pattern line).reverse.find? fun c => line != pos.line || pos.col ≤ c).map fun col =>
        ⟨line, col⟩ := by
  unfold startsLeft
  rw [head?_filter_startsOn]
  congr 2
  funext col
  simp only [Direction.ahead, Position.lt_def, bne]
  grind

theorem searchDown_eq (steps : List Nat) :
    (buf.searchDown pattern pos steps).map Found.pos =
      ((steps.map fun step => (pos.line + step) % buf.lineCount).flatMap
        (buf.startsLeft pattern .forward pos)).head? := by
  induction steps with
  | nil => rfl
  | cons step steps ih =>
      have here := buf.head?_startsLeft_forward pattern pos ((pos.line + step) % buf.lineCount)
      rw [List.map_cons, List.flatMap_cons, List.head?_append, ← ih, here]
      rw [searchDown]
      cases (buf.matchColumns pattern ((pos.line + step) % buf.lineCount)).find? _ <;> rfl

theorem searchUp_eq (steps : List Nat) :
    (buf.searchUp pattern pos steps).map Found.pos =
      ((steps.map fun step => (pos.line + buf.lineCount - step) % buf.lineCount).flatMap
        (buf.startsLeft pattern .backward pos)).head? := by
  induction steps with
  | nil => rfl
  | cons step steps ih =>
      have here := buf.head?_startsLeft_backward pattern pos
        ((pos.line + buf.lineCount - step) % buf.lineCount)
      rw [List.map_cons, List.flatMap_cons, List.head?_append, ← ih, here]
      rw [searchUp]
      cases (buf.matchColumns pattern ((pos.line + buf.lineCount - step) % buf.lineCount)).reverse.find? _ <;>
        rfl

/-- The lines that a search comes to, from the one behind its start on. -/
def linesRound (line : Nat) : List Nat :=
  let steps := (List.range buf.lineCount).map (· + 1)
  match direction with
  | .forward => steps.map fun step => (line + step) % buf.lineCount
  | .backward => steps.map fun step => (line + buf.lineCount - step) % buf.lineCount

theorem linesRound_eq {line : Nat} {front back : List Nat}
    (parts : direction.along (List.range buf.lineCount) = front ++ line :: back) :
    buf.linesRound direction line = back ++ front ++ [line] := by
  have rotated : (direction.along (List.range buf.lineCount)).rotate (front.length + 1) =
      back ++ front ++ [line] := by
    have round := List.rotate_append_length_eq (front ++ [line]) back
    rw [List.length_append, List.length_singleton, List.append_assoc, List.singleton_append, ← parts,
      ← List.append_assoc] at round
    exact round
  have inside : front.length < (direction.along (List.range buf.lineCount)).length := by
    rw [parts, List.length_append, List.length_cons]
    omega
  have here : (direction.along (List.range buf.lineCount))[front.length] = line := by
    simp only [parts, List.getElem_append_right (Nat.le_refl _), Nat.sub_self, List.getElem_cons_zero]
  rw [← rotated]
  clear rotated parts
  cases direction with
  | forward =>
      simp only [Direction.along, List.getElem_range] at here
      refine List.ext_getElem (by simp [linesRound, Direction.along]) fun i _ _ => ?_
      simp only [linesRound, Direction.along, List.getElem_map, List.getElem_range, List.getElem_rotate,
        List.length_range]
      rw [here, Nat.add_comm line, Nat.add_assoc, Nat.add_comm 1]
  | backward =>
      simp only [Direction.along, List.length_reverse, List.length_range] at inside
      simp only [Direction.along, List.getElem_reverse, List.getElem_range, List.length_range] at here
      refine List.ext_getElem (by simp [linesRound, Direction.along]) fun i lt _ => ?_
      simp only [linesRound, List.length_map, List.length_range] at lt
      simp only [linesRound, Direction.along, List.getElem_map, List.getElem_range, List.getElem_rotate,
        List.getElem_reverse, List.length_reverse, List.length_range]
      rcases Nat.lt_or_ge i line with above | below
      · rw [show line + buf.lineCount - (i + 1) = (line - (i + 1)) + buf.lineCount by omega,
          Nat.add_mod_right, Nat.mod_eq_of_lt (by omega), Nat.mod_eq_of_lt (by omega)]
        omega
      · rw [show i + (front.length + 1) = (i - line) + buf.lineCount by omega, Nat.add_mod_right,
          Nat.mod_eq_of_lt (a := i - line) (by omega), Nat.mod_eq_of_lt (by omega)]
        omega

/-- A search looks ahead on the line of its start, and then goes round. -/
theorem search_round :
    (buf.search pattern pos direction).map Found.pos =
      ((buf.startsOn pattern direction pos.line).filter fun start => direction.ahead pos start).head?.or
        ((buf.linesRound direction pos.line).flatMap (buf.startsLeft pattern direction pos)).head? := by
  cases direction with
  | forward =>
      have here : ((buf.startsOn pattern .forward pos.line).filter fun start =>
          Direction.forward.ahead pos start).head? =
          ((buf.matchColumns pattern pos.line).find? fun c => pos.col < c).map fun col => pos.withCol col := by
        rw [head?_filter_startsOn]
        simp [Direction.along, Direction.ahead, Position.lt_def, Position.withCol]
      unfold linesRound
      rw [here, ← searchDown_eq]
      unfold search
      dsimp only
      cases (buf.matchColumns pattern pos.line).find? _ <;> rfl
  | backward =>
      have here : ((buf.startsOn pattern .backward pos.line).filter fun start =>
          Direction.backward.ahead pos start).head? =
          ((buf.matchColumns pattern pos.line).reverse.find? fun c => c < pos.col).map fun col =>
            pos.withCol col := by
        rw [head?_filter_startsOn]
        simp [Direction.along, Direction.ahead, Position.lt_def, Position.withCol]
      unfold linesRound
      rw [here, ← searchUp_eq]
      unfold search
      dsimp only
      cases (buf.matchColumns pattern pos.line).reverse.find? _ <;> rfl

theorem search_eq (inside : pos.line < buf.lineCount) :
    (buf.search pattern pos direction).map Found.pos = (buf.cycle pattern direction pos).head? := by
  have mem : pos.line ∈ direction.along (List.range buf.lineCount) := by
    cases direction <;> simpa [Direction.along] using inside
  obtain ⟨front, back, parts⟩ := List.append_of_mem mem
  have sorted := buf.lines_sorted direction
  rw [parts] at sorted
  obtain ⟨-, sortedBack, between⟩ := List.pairwise_append.1 sorted
  have onLine : ∀ {line : Nat} {start : Position}, start ∈ buf.startsOn pattern direction line →
      start.line = line := buf.line_of_mem_startsOn pattern direction
  have behind : ∀ line ∈ front, ∀ start ∈ buf.startsOn pattern direction line,
      line ≠ pos.line ∧ ¬ direction.ahead pos start := by
    intro line mem start memStart
    have order := between line mem pos.line List.mem_cons_self
    have atLine := onLine memStart
    cases direction <;> simp only [Direction.ahead, Position.lt_def] at order ⊢ <;> omega
  have ahead : ∀ line ∈ back, ∀ start ∈ buf.startsOn pattern direction line,
      line ≠ pos.line ∧ direction.ahead pos start := by
    intro line mem start memStart
    have order := (List.pairwise_cons.1 sortedBack).1 line mem
    have atLine := onLine memStart
    cases direction <;> simp only [Direction.ahead, Position.lt_def] at order ⊢ <;> omega
  have leftBack := buf.flatMap_startsLeft pattern direction pos fun line mem start memStart =>
    (ahead line mem start memStart).1
  have leftFront := buf.flatMap_startsLeft pattern direction pos fun line mem start memStart =>
    (behind line mem start memStart).1
  have leftHere : buf.startsLeft pattern direction pos pos.line =
      (buf.startsOn pattern direction pos.line).filter fun start => ¬ direction.ahead pos start := by
    simp [startsLeft]
  have parted := cycleFrom_flatMap (f := buf.startsOn pattern direction) (x := pos) (y := pos.line)
    (fun line mem start memStart => (behind line mem start memStart).2)
    (fun line mem start memStart => (ahead line mem start memStart).2)
  rw [search_round, buf.linesRound_eq direction parts]
  unfold cycle starts
  rw [parts, parted]
  simp only [List.flatMap_append, List.flatMap_cons, List.flatMap_nil, leftBack, leftFront, leftHere,
    List.append_nil, List.append_assoc, List.head?_append]

end Searching

section Rounds

variable {pattern direction} {pos start : Position} {rest : List Position} {i : Nat}

theorem mem_cycle : start ∈ buf.cycle pattern direction pos ↔ start ∈ buf.starts pattern direction :=
  (cycleFrom_perm _ _).mem_iff

theorem cycle_perm (pattern : Pattern) (direction : Direction) (pos : Position) :
    (buf.cycle pattern direction pos).Perm (buf.starts pattern .forward) := by
  refine (cycleFrom_perm _ _).trans ?_
  cases direction with
  | forward => exact .refl _
  | backward =>
      have reversed : buf.starts pattern .backward = (buf.starts pattern .forward).reverse :=
        List.reverse_flatMap.symm
      exact reversed ▸ List.reverse_perm _

theorem inside_of_mem_starts (mem : start ∈ buf.starts pattern direction) :
    start.line < buf.lineCount ∧ start.col ≤ buf.lineLength start.line := by
  have mem : start ∈ buf.starts pattern .forward :=
    (buf.cycle_perm pattern direction .zero).mem_iff.1 (buf.mem_cycle.2 mem)
  obtain ⟨line, memLine, memStart⟩ := List.mem_flatMap.1 mem
  obtain ⟨col, memCol, rfl⟩ := List.mem_map.1 memStart
  obtain ⟨entry, memEntry, rfl⟩ := List.mem_map.1 memCol
  obtain ⟨found, memFound, rfl⟩ := List.mem_map.1 memEntry
  exact ⟨List.mem_range.1 memLine, pattern.expr.findAll_index_le _ found memFound⟩

theorem cycle_head (eq : buf.cycle pattern direction pos = start :: rest) :
    buf.cycle pattern direction start = rest ++ [start] :=
  cycleFrom_head direction.ahead_trans direction.ahead_asymm (buf.starts_sorted pattern direction) eq

theorem cycle_of_rotate {starts : List Position} (eq : buf.cycle pattern direction pos = starts.rotate i)
    (lt : i < starts.length) : buf.cycle pattern direction starts[i] = starts.rotate (i + 1) := by
  have head := List.head?_rotate lt
  rw [List.getElem?_eq_getElem lt, ← eq] at head
  obtain ⟨rest, cons⟩ : ∃ rest, buf.cycle pattern direction pos = starts[i] :: rest :=
    ⟨_, (List.cons_head?_tail head).symm⟩
  rw [buf.cycle_head cons, ← List.rotate_rotate, ← eq, cons, List.rotate_cons_succ, List.rotate_zero]

/-- From each of its elements on, a cycle is the same one turned. -/
theorem cycle_getElem (lt : i < (buf.cycle pattern direction pos).length) :
    buf.cycle pattern direction (buf.cycle pattern direction pos)[i] =
      (buf.cycle pattern direction pos).rotate (i + 1) := by
  induction i with
  | zero => exact buf.cycle_of_rotate (List.rotate_zero _).symm lt
  | succ i ih => exact buf.cycle_of_rotate (ih (by omega)) lt

/-- From each match, a search finds the one behind it in the cycle. -/
theorem search_cycle (lt : i + 1 < (buf.cycle pattern direction pos).length) :
    (buf.search pattern (buf.cycle pattern direction pos)[i] direction).map Found.pos =
      some (buf.cycle pattern direction pos)[i + 1] := by
  have mem := buf.mem_cycle.1 (List.getElem_mem (Nat.lt_of_succ_lt lt))
  rw [buf.search_eq _ _ _ (buf.inside_of_mem_starts mem).1, buf.cycle_getElem (by omega),
    List.head?_rotate lt, List.getElem?_eq_getElem lt]

end Rounds

section Resting

variable {pattern direction} {start : Position}

/-- From where the cursor rests on a match, a search goes on as from the match itself. -/
def Rests (pattern : Pattern) (direction : Direction) (start : Position) : Prop :=
  buf.nearest false start = start ∨
    direction = .backward ∧ buf.nearest false start ∉ buf.starts pattern direction

/-- The cursor rests on a match, or right in front of one behind the end of its line. -/
theorem nearest_of_mem_starts (mem : start ∈ buf.starts pattern direction) :
    buf.nearest false start = start ∨
      0 < start.col ∧ buf.nearest false start = ⟨start.line, start.col - 1⟩ := by
  obtain ⟨line, col⟩ := buf.inside_of_mem_starts mem
  have eq : buf.nearest false start = ⟨start.line, min start.col (buf.lineLength start.line - 1)⟩ := by
    unfold nearest lastLine
    rw [Nat.min_eq_left (show start.line ≤ buf.lineCount - 1 by omega)]
    rfl
  rw [eq]
  rcases Nat.lt_or_ge (buf.lineLength start.line - 1) start.col with behind | within
  · rw [Nat.min_eq_right (by omega)]
    exact .inr ⟨by omega, by rw [show buf.lineLength start.line - 1 = start.col - 1 by omega]⟩
  · rw [Nat.min_eq_left within]
    exact .inl rfl

theorem Rests.cycle (rests : buf.Rests pattern direction start) (mem : start ∈ buf.starts pattern direction) :
    buf.cycle pattern direction (buf.nearest false start) = buf.cycle pattern direction start := by
  rcases rests with same | ⟨rfl, other⟩
  · rw [same]
  · rcases buf.nearest_of_mem_starts mem with same | ⟨pos, eq⟩
    · rw [same]
    · have ahead : ∀ one ∈ buf.starts pattern .backward,
          Direction.backward.ahead (buf.nearest false start) one = Direction.backward.ahead start one := by
        intro one memOne
        have differs : one ≠ ⟨start.line, start.col - 1⟩ := by
          rintro rfl
          exact other (eq ▸ memOne)
        obtain ⟨line, col⟩ := one
        rw [ne_eq, Position.mk.injEq] at differs
        rw [eq]
        simp only [Direction.ahead, Position.lt_def, eq_iff_iff]
        omega
      unfold Buffer.cycle cycleFrom
      congr 1
      · exact List.filter_congr fun one memOne => by simp only [ahead one memOne]
      · exact List.filter_congr fun one memOne => by simp only [ahead one memOne]

/-- A search forward from where the cursor rests in front of a match finds that match once more. -/
theorem search_of_not_rests (mem : start ∈ buf.starts pattern .forward)
    (behind : buf.nearest false start ≠ start) :
    (buf.search pattern (buf.nearest false start) .forward).map Found.pos = some start := by
  obtain ⟨positive, eq⟩ := (buf.nearest_of_mem_starts mem).resolve_left behind
  have inside := (buf.inside_of_mem_starts mem).1
  obtain ⟨front, back, parts⟩ := List.append_of_mem mem
  have sorted := buf.starts_sorted pattern .forward
  rw [parts] at sorted
  obtain ⟨-, -, between⟩ := List.pairwise_append.1 sorted
  have before : front.filter (fun one => Direction.forward.ahead (buf.nearest false start) one) = [] := by
    rw [List.filter_eq_nil_iff]
    intro one memOne
    have order := between one memOne start List.mem_cons_self
    rw [eq]
    simp only [Direction.ahead, Position.lt_def, decide_eq_true_eq] at order ⊢
    omega
  have here : Direction.forward.ahead (buf.nearest false start) start := by
    rw [eq]
    exact .inr ⟨rfl, by show start.col - 1 < start.col; omega⟩
  rw [buf.search_eq _ _ _ (by rw [eq]; exact inside)]
  unfold cycle cycleFrom
  rw [parts, List.filter_append, before, List.nil_append, List.filter_cons_of_pos (by simpa using here)]
  rfl

end Resting

end Buffer

end ModalPanes
