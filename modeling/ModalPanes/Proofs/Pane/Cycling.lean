import ModalPanes.Proofs.Pane.Handling
import ModalPanes.Proofs.Search.Cycle

/-!
# Searching again goes through all matches

The keys that go on with the last search take the cursor along the cycle of its matches.  A count goes from
match to match, but between single keys the cursor rests on a character: in front of a match behind the end of
a line, so that the same match is found again.  Where none of that comes in between, as many keys as there are
matches go through all of them, and a count of that many ends where they do.
-/

namespace ModalPanes

/-- The direction in which the last search goes on. -/
def SearchMotion.way? (direction : Direction) : SearchMotion → Option Direction
  | next => some direction
  | previous => some direction.opposite
  | wordForward | wordBackward => none

namespace Pane

variable {pane middle next : Pane} {key : Key} {motion : SearchMotion} {pattern : Pattern}
  {direction : Direction} {start : Position} {count : Option Nat} {register : Option Char}

section Times

variable {buf : Buffer} {pos : Position}

theorem searchTimes_cycle (times : Nat) {i : Nat} (lt : i + times < (buf.cycle pattern direction pos).length)
    (wrapped : Bool) :
    (searchTimes buf pattern direction times ⟨(buf.cycle pattern direction pos)[i], wrapped⟩).map Found.pos =
      some (buf.cycle pattern direction pos)[i + times] := by
  induction times generalizing i wrapped with
  | zero => rfl
  | succ times ih =>
      have next : (buf.search pattern (buf.cycle pattern direction pos)[i] direction).map Found.pos =
          some (buf.cycle pattern direction pos)[i + 1] := buf.search_cycle (by omega)
      obtain ⟨found, searched, place⟩ := Option.map_eq_some_iff.1 next
      unfold searchTimes
      rw [searched]
      dsimp only
      rw [place, ih (by omega)]
      simp only [Nat.add_assoc, Nat.add_comm 1]

/-- So many searches in a row go that far along the cycle. -/
theorem searchTimes_eq (inside : pos.line < buf.lineCount) {i : Nat}
    (lt : i < (buf.cycle pattern direction pos).length) :
    (searchTimes buf pattern direction (i + 1) ⟨pos, false⟩).map Found.pos =
      some (buf.cycle pattern direction pos)[i] := by
  have first := buf.search_eq pattern direction pos inside
  rw [List.head?_eq_getElem?, List.getElem?_eq_getElem (by omega)] at first
  obtain ⟨found, searched, place⟩ := Option.map_eq_some_iff.1 first
  unfold searchTimes
  rw [searched]
  dsimp only
  rw [place, searchTimes_cycle i (by omega)]
  simp only [Nat.zero_add]

theorem searchTimes_one :
    (searchTimes buf pattern direction 1 ⟨pos, false⟩).map Found.pos =
      (buf.search pattern pos direction).map Found.pos := by
  unfold searchTimes
  cases buf.search pattern pos direction <;> rfl

end Times

/-- The pane with its cursor on a match. -/
def onMatch (pane : Pane) (start : Position) : Pane :=
  { pane with
    cursor := pane.cursor.jump pane.buffer false start
    search := pane.search.setHighlight true }

theorem Ready.onMatch (ready : pane.Ready) (start : Position) : (pane.onMatch start).Ready :=
  ⟨⟨ready.prompt, ready.mode⟩, ready.closed⟩

theorem move_search (mode : pane.mode = .normal) (searched : pane.search.pattern = some pattern)
    (way : motion.way? pane.search.direction = some direction)
    (finds : (searchTimes pane.buffer pattern direction (max (count.getD 1) 1) ⟨pane.cursor.pos, false⟩).map
      Found.pos = some start) : (pane.move (.search motion) count).Alike (pane.onMatch start) := by
  obtain ⟨found, eq, rfl⟩ := Option.map_eq_some_iff.1 finds
  have searching : pane.resolveSearch motion count = pane.searchAgain pane.cursor.pos direction count := by
    cases motion <;> first | contradiction | (obtain rfl := Option.some.inj way; rfl)
  have again : pane.resolve (.search motion) count false false =
      (some ⟨found.pos, .exclusive, .reset⟩, { pane with search := pane.search.setHighlight true }.say
        (if found.wrapped then wrapNotice direction else direction.sign :: pattern.source)) := by
    unfold resolve
    dsimp only
    rw [searching]
    unfold searchAgain searchFrom
    rw [searched]
    dsimp only
    rw [eq]
  unfold move
  rw [again]
  refine ⟨?_⟩
  simp only [goTo, jump, moveCursor, say, Pane.core, onMatch, mode, Mode.cursorPastEnd]

theorem Stands.search (stands : Stands pane none count register middle) (ready : pane.Ready)
    (found : Keymap.findOrMotion? Keymap.normal key = some (.motion (.search motion)))
    (searched : pane.search.pattern = some pattern)
    (way : motion.way? pane.search.direction = some direction)
    (finds : (searchTimes pane.buffer pattern direction (max (count.getD 1) 1) ⟨pane.cursor.pos, false⟩).map
      Found.pos = some start) :
    ∃ next, Handles middle [key] next ∧ Stands (pane.onMatch start) none none register next := by
  have takes := (stands.ready ready).toTakesCommands.record key
  have digit := Keymap.countDigit?_of_findOrMotion? found nofun
  have handed := dispatchWith_command takes stands.isPending (digit _) found nofun
  have ahead : (Command.motion (.search motion)).looksBack = false := rfl
  have moved := ((Alike.record key middle).trans stands.alike).runNormal ahead
  have moves : ((pane.waiting none count register).takeCount.2.move (.search motion) count).Alike
      ((pane.waiting none count register).takeCount.2.onMatch start) :=
    move_search ready.mode searched way finds
  have leads : ((pane.waiting none count register).runNormal (.motion (.search motion))).Alike
      (pane.onMatch start |>.waiting none none register) := moves.trans ⟨rfl⟩
  have history : ((middle.record key).runNormal (.motion (.search motion))).history = middle.history :=
    (congrArg Pane.history ((middle.record key).takeCount.2.move_bare (.search motion)
      (middle.record key).takeCount.1) :)
  have same := history.trans stands.history
  exact ⟨_, .one handed, ((Alike.settle _).trans moved).trans leads,
    (history_settle ((congrArg History.isOpen same).trans ready.closed)).trans same⟩

section Presses

variable {pos : Position} {i : Nat}

/-- Where the cursor rests on a match as the search needs it, the next search finds the one behind. -/
theorem searchTimes_rests (lt : i + 1 < (pane.buffer.cycle pattern direction pos).length)
    (rests : pane.buffer.Rests pattern direction (pane.buffer.cycle pattern direction pos)[i]) :
    (searchTimes pane.buffer pattern direction 1
      ⟨pane.buffer.nearest false (pane.buffer.cycle pattern direction pos)[i], false⟩).map Found.pos =
      some (pane.buffer.cycle pattern direction pos)[i + 1] := by
  have mem := pane.buffer.mem_cycle.1 (List.getElem_mem (Nat.lt_of_succ_lt lt))
  have turned := (rests.cycle _ mem).trans (pane.buffer.cycle_getElem (Nat.lt_of_succ_lt lt))
  have finds := searchTimes_eq (i := 0)
    (pane.buffer.nearest_line_lt false (pane.buffer.cycle pattern direction pos)[i])
    (by rw [turned, List.length_rotate]; omega)
  simpa only [turned, List.getElem_rotate, Nat.zero_add, Nat.mod_eq_of_lt lt] using finds

variable (ready : pane.Ready)
  (found : Keymap.findOrMotion? Keymap.normal key = some (.motion (.search motion)))
  (searched : pane.search.pattern = some pattern)
  (way : motion.way? pane.search.direction = some direction)
include ready found searched way

/-- One key after the other takes the cursor from match to match, as long as it rests on them. -/
theorem Stands.presses (idle : Stands pane none none none pane) (cursor : pane.cursor.pos = pos)
    (inside : pos.line < pane.buffer.lineCount) (lt : i < (pane.buffer.cycle pattern direction pos).length)
    (rests : ∀ start ∈ (pane.buffer.cycle pattern direction pos).take i,
      pane.buffer.Rests pattern direction start) :
    ∃ next, Handles pane (List.replicate (i + 1) key) next ∧
      Stands (pane.onMatch (pane.buffer.cycle pattern direction pos)[i]) none none none next := by
  subst cursor
  induction i with
  | zero => exact idle.search ready found searched way (searchTimes_eq inside lt)
  | succ i ih =>
      have taken : (pane.buffer.cycle pattern direction pane.cursor.pos)[i] ∈
          (pane.buffer.cycle pattern direction pane.cursor.pos).take (i + 1) :=
        List.mem_take_iff_getElem.2 ⟨i, by omega, rfl⟩
      obtain ⟨middle, handled, stands⟩ := ih (by omega) fun start mem =>
        rests start (List.take_subset_take_left _ (Nat.le_succ i) mem)
      obtain ⟨next, last, stands⟩ := stands.search (ready.onMatch _) found searched way
        (searchTimes_rests lt (rests _ taken))
      rw [List.replicate_succ']
      exact ⟨next, handled.append last, stands⟩

/-- On a match behind the end of its line, no further key leads the search forward. -/
theorem Stands.stays (forward : direction = .forward) (mem : start ∈ pane.buffer.starts pattern direction)
    (behind : pane.buffer.nearest false start ≠ start)
    (stands : Stands (pane.onMatch start) none none none middle) (more : Nat) :
    ∃ next, Handles middle (List.replicate more key) next ∧
      Stands (pane.onMatch start) none none none next := by
  subst forward
  -- the pane that the keys come back to is the same each time, but for what is recorded and shown
  induction more generalizing middle with
  | zero => exact ⟨middle, .nil middle, stands⟩
  | succ more ih =>
      have finds : (searchTimes pane.buffer pattern .forward 1
          ⟨pane.buffer.nearest false start, false⟩).map Found.pos = some start := by
        rw [searchTimes_one]
        exact pane.buffer.search_of_not_rests mem behind
      obtain ⟨again, first, stands⟩ := stands.search (ready.onMatch _) found searched way finds
      obtain ⟨next, handles, stands⟩ := ih stands
      exact ⟨next, first.append handles, stands⟩

end Presses

/-- Searching again goes through all matches.  From an idle pane, a count takes the cursor that far along the
cycle of the matches, and so do as many single keys if the cursor rests on all matches before; forward, the
first match behind the end of its line is found again by every further key. -/
theorem Reached.searches_again (reached : Reached pane) (idle : pane.isIdle = true)
    (searched : pane.search.pattern = some pattern)
    (found : Keymap.findOrMotion? Keymap.normal key = some (.motion (.search motion)))
    (way : motion.way? pane.search.direction = some direction) :
    let round := pane.buffer.cycle pattern direction pane.cursor.pos
    round.Perm (pane.buffer.starts pattern .forward) ∧ ∀ {i : Nat} (lt : i < round.length),
      (∀ {digits : List Key}, Digits none digits (some (i + 1)) →
        ∃ next, Handles pane (digits ++ [key]) next ∧
          next.cursor = pane.cursor.jump pane.buffer false round[i]) ∧
      ((∀ start ∈ round.take i, pane.buffer.Rests pattern direction start) →
        (∃ next, Handles pane (List.replicate (i + 1) key) next ∧
          next.cursor = pane.cursor.jump pane.buffer false round[i]) ∧
        (direction = .forward → pane.buffer.nearest false round[i] ≠ round[i] →
          ∀ more, ∃ next, Handles pane (List.replicate (i + 1 + more) key) next ∧
            next.cursor = pane.cursor.jump pane.buffer false round[i])) := by
  intro round
  have ready := reached.ready idle
  have inside := reached.settled.line
  have stands := Stands.of_idle idle
  have cursor : ∀ {start : Position} {next : Pane}, Stands (pane.onMatch start) none none none next →
      next.cursor = pane.cursor.jump pane.buffer false start :=
    fun stands => stands.alike.same (·.cursor) fun _ => rfl
  refine ⟨pane.buffer.cycle_perm pattern direction _, fun {i} lt => ⟨?_, fun resting => ?_⟩⟩
  · intro digits counts
    obtain ⟨counted, handled, stands⟩ := stands.digits ready nofun counts
    have total : max ((some (i + 1)).getD 1) 1 = i + 1 := Nat.max_eq_left (Nat.succ_pos i)
    obtain ⟨next, last, stands⟩ := stands.search ready found searched way
      (total.symm ▸ searchTimes_eq inside lt)
    exact ⟨next, handled.append last, cursor stands⟩
  · obtain ⟨next, handled, stands⟩ := stands.presses ready found searched way rfl inside lt resting
    refine ⟨⟨next, handled, cursor stands⟩, fun forward behind more => ?_⟩
    have mem := pane.buffer.mem_cycle.1 (List.getElem_mem lt)
    obtain ⟨last, handles, stands⟩ := stands.stays ready found searched way forward mem behind more
    rw [List.replicate_add]
    exact ⟨last, handled.append handles, cursor stands⟩

/-- Two matches on two lines, gone around once. -/
theorem searches_again_round :
    let pane := typedInto "on off\nno on".toList [.char '/', .char 'o', .char 'n', .plain .enter]
    Reached pane ∧ pane.isIdle = true ∧ pane.cursor.pos = ⟨1, 3⟩ ∧
      (∃ next, Handles pane [.char 'n', .char 'n'] next ∧ next.cursor.pos = ⟨1, 3⟩) ∧
      ∃ next, Handles pane [.char '2', .char 'n'] next ∧ next.cursor.pos = ⟨1, 3⟩ := by
  intro pane
  have reached : Reached pane := reached_typedInto _ _
  have idle : pane.isIdle = true := by decide +kernel
  have cursor : pane.cursor.pos = ⟨1, 3⟩ := by decide +kernel
  obtain ⟨pattern, searched⟩ := Option.isSome_iff_exists.1
    (show pane.search.pattern.isSome = true by decide +kernel)
  have way : SearchMotion.next.way? pane.search.direction = some .forward := by decide +kernel
  have round : pane.search.pattern.map (fun pattern => pane.buffer.cycle pattern .forward pane.cursor.pos) =
      some [⟨0, 0⟩, ⟨1, 3⟩] := by
    decide +kernel
  rw [searched, Option.map_some, Option.some.injEq] at round
  have found : Keymap.findOrMotion? Keymap.normal (.char 'n') = some (.motion (.search .next)) := rfl
  obtain ⟨-, along⟩ := reached.searches_again idle searched found way
  obtain ⟨counted, single⟩ := along (i := 1) (by rw [round]; decide)
  simp only [round] at counted single
  have two : (Key.char '2').countDigit? false = some 2 := rfl
  have digits : Digits none [.char '2'] (some 2) := .cons two (.nil _)
  have rests : ∀ start ∈ List.take 1 [⟨0, 0⟩, ⟨1, 3⟩], pane.buffer.Rests pattern .forward start :=
    fun start mem => .inl (by
      obtain rfl := List.mem_singleton.1 mem
      decide +kernel)
  have last : (pane.cursor.jump pane.buffer false ⟨1, 3⟩).pos = ⟨1, 3⟩ := by decide +kernel
  obtain ⟨pressed, presses, pressedCursor⟩ := (single rests).1
  obtain ⟨next, handles, nextCursor⟩ := counted digits
  exact ⟨reached, idle, cursor, ⟨pressed, presses, (congrArg Cursor.pos pressedCursor).trans last⟩,
    next, handles, (congrArg Cursor.pos nextCursor).trans last⟩

/-- The end of a line is found in front of itself, where a count goes on to the next line. -/
theorem searches_again_at_line_end :
    let pane := typedInto "abc\ndef".toList [.char '/', .char '$', .plain .enter, .char '0']
    pane.isIdle = true ∧ pane.cursor.pos = ⟨0, 0⟩ ∧
      pane.search.pattern.map (pane.buffer.starts · .forward) = some [⟨0, 3⟩, ⟨1, 3⟩] ∧
      (pane.handleKeys [.char 'n']).cursor.pos = ⟨0, 2⟩ ∧
      (pane.handleKeys [.char 'n', .char 'n']).cursor.pos = ⟨0, 2⟩ ∧
      (pane.handleKeys [.char '2', .char 'n']).cursor.pos = ⟨1, 2⟩ := by
  decide +kernel

end Pane

end ModalPanes
