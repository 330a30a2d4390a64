import ModalPanes.Proofs.Pane.BlockTyping
import ModalPanes.Proofs.Pane.Overtyping
import ModalPanes.Proofs.Pane.Spending
import Mathlib.Algebra.GroupWithZero.Nat

/-!
# Lines rewritten by a substitution

A line is rewritten by taking it out whole and putting the new one in its place, so that no other line changes.  A
substitution goes through its lines one after the other in the buffer that it changes.  What it finds on a line is
what was there before, because it has only been to other lines; so its outcome can be read off the buffer that it
started with, one line at a time.
-/

namespace ModalPanes

variable {buf erased next : Buffer} {text gone : List Char} {line : Nat}

namespace Buffer

/-- Two texts go into the same place of an empty line. -/
theorem changesLines_rewrite (taken : ChangesLines [line] (putInto 0 gone) erased buf)
    (put : ChangesLines [line] (putInto 0 text) erased next) (whole : buf.lineLength line = gone.length) :
    buf.line line = gone ∧ ChangesLines [line] (fun _ => text) buf next := by
  have old : buf.line line = gone ++ erased.line line := by
    rw [taken.line, if_pos (List.mem_singleton_self _)]
    rfl
  have empty : erased.line line = [] := by
    have lengths := congrArg List.length old
    rw [List.length_append] at lengths
    unfold lineLength at whole
    exact List.eq_nil_of_length_eq_zero (by omega)
  refine ⟨by rw [old, empty, List.append_nil], put.plain, put.lineCount.trans taken.lineCount.symm, fun n => ?_⟩
  rw [put.line, taken.line]
  by_cases here : n ∈ [line]
  · rw [if_pos here, if_pos here, List.mem_singleton.1 here, empty]
    simp [putInto]
  · rw [if_neg here, if_neg here, if_neg here]

theorem exists_cut_whole (plain : Plain buf.text) (inside : line < buf.lineCount) :
    ∃ front back, buf.text = front ++ buf.line line ++ back ∧ Edit.stopOf .zero front = ⟨line, 0⟩ ∧
      Edit.stopOf .zero (front ++ buf.line line) = ⟨line, buf.lineLength line⟩ ∧
      ∀ {text : List Char} {next : Buffer}, Unbroken text → next.text = front ++ text ++ back →
        ChangesLines [line] (fun _ => text) buf next := by
  have admits : buf.Admits true ⟨line, 0⟩ := ⟨inside, Nat.zero_le _⟩
  obtain ⟨front, rest, cut, stop⟩ := exists_cut plain admits
  obtain ⟨back, parts⟩ : ∃ back, rest = restOfLine rest ++ back :=
    ⟨_, (List.takeWhile_append_dropWhile ..).symm⟩
  have length : buf.lineLength line = (restOfLine rest).length := by
    have := lineLength_stopOf plain cut
    rwa [stop, Nat.zero_add] at this
  have inLine : '\n' ∉ restOfLine rest := fun mem => by simpa using List.mem_takeWhile_imp mem
  generalize restOfLine rest = gone at parts length inLine
  rw [parts, ← List.append_assoc] at cut
  let erased : Buffer := { text := front ++ back }
  have plainErased : Plain erased.text := (cut ▸ plain).without
  have admits : erased.Admits true ⟨line, 0⟩ := stop ▸ admits_stopOf plainErased rfl
  have puts : ∀ {text : List Char} {next : Buffer}, Unbroken text → next.text = front ++ text ++ back →
      ChangesLines [line] (putInto 0 text) erased next := by
    intro text next unbroken same
    refine (changesLines_insert plainErased admits unbroken).of_text (same.trans ?_)
    rw [← stop]
    exact (text_insert plainErased rfl text).symm
  have unbroken : Unbroken gone := by
    intro c mem
    have plainGone : Plain gone := (Plain.append_iff.1 (Plain.append_iff.1 (cut ▸ plain)).1).2
    rw [Bool.eq_false_iff]
    intro breaks
    exact inLine (plainGone c mem breaks ▸ mem)
  have taken := puts unbroken cut
  obtain rfl : buf.line line = gone := (changesLines_rewrite taken taken length).1
  refine ⟨front, back, cut, stop, ?_, fun unbroken same => (changesLines_rewrite taken (puts unbroken same) rfl).2⟩
  rw [Edit.stopOf_append, stop, Edit.stopOf_of_notMem _ inLine, Nat.zero_add]
  rfl

end Buffer

namespace Pane

variable {pane : Pane} {before : List Char}

section Replacing

theorem slice_whole (plain : Plain buf.text) (inside : line < buf.lineCount) :
    Range.between ⟨line, 0⟩ ⟨line, buf.lineLength line⟩ = ⟨⟨line, 0⟩, ⟨line, buf.lineLength line⟩⟩ ∧
      buf.slice ⟨⟨line, 0⟩, ⟨line, buf.lineLength line⟩⟩ = buf.line line := by
  obtain ⟨front, back, cut, start, stop, -⟩ := Buffer.exists_cut_whole plain inside
  have ordered : (⟨line, 0⟩ : Position) ≤ ⟨line, buf.lineLength line⟩ := by
    rw [Position.le_def]
    simp
  refine ⟨Buffer.between_of_le ordered, ?_⟩
  unfold Buffer.slice
  rw [← start, ← stop, Buffer.index_stopOf plain (cut.trans (List.append_assoc ..)), Buffer.index_stopOf plain cut]
  generalize buf.line line = whole at cut
  rw [cut, List.take_left, List.drop_left]

theorem changesLines_replaceText (plain : Plain pane.buffer.text) (inside : line < pane.buffer.lineCount)
    (unbroken : Unbroken text) :
    Buffer.ChangesLines [line] (fun _ => text) pane.buffer
      (pane.replaceText (.between ⟨line, 0⟩ ⟨line, pane.buffer.lineLength line⟩) text).buffer := by
  obtain ⟨front, back, cut, start, stop, rewrites⟩ := Buffer.exists_cut_whole plain inside
  obtain ⟨range, whole⟩ := slice_whole plain inside
  unfold replaceText
  split
  · rename_i same
    rw [range, whole] at same
    exact rewrites unbroken (same ▸ cut)
  · obtain ⟨buffer, history, recorder, eq, erased⟩ := eraseRange_cut plain cut
    have plainErased : Plain buffer.text := erased ▸ (cut ▸ plain).without
    rw [start, stop] at eq
    rw [eq, range, ← start]
    obtain ⟨again, history, recorder, eq, inserted⟩ :=
      insertText_cut { pane with buffer := buffer, history := history, recorder := recorder } plainErased erased text
    rw [eq]
    exact rewrites unbroken inserted

theorem replaceText_eq (pane : Pane) (range : Range) (text : List Char) :
    ∃ buffer history recorder, pane.replaceText range text =
      { pane with buffer := buffer, history := history, recorder := recorder } := by
  unfold replaceText
  split
  · exact ⟨_, _, _, rfl⟩
  · obtain ⟨history, recorder, erased⟩ := eraseRange_eq pane range
    obtain ⟨history, recorder, inserted⟩ := insertText_eq (pane.eraseRange range) range.start text
    rw [inserted, erased]
    exact ⟨_, _, _, rfl⟩

theorem eraseRange_of_eq {range : Range} (nothing : pane.inside range.start = pane.inside range.stop) :
    pane.eraseRange range = pane := if_pos nothing

theorem eraseRange_of_ne {range : Range} (something : pane.inside range.start ≠ pane.inside range.stop) :
    pane.eraseRange range =
      { pane.beginChange with
        buffer := pane.beginChange.buffer.erase ⟨pane.inside range.start, pane.inside range.stop⟩
        history := pane.beginChange.history.record
          (.erase (pane.inside range.start) (pane.buffer.slice ⟨pane.inside range.start, pane.inside range.stop⟩)) } :=
  if_neg something

/-- Text that is taken out belongs to the step. -/
theorem Alters.eraseRange (alters : pane.Alters before) (range : Range) : (pane.eraseRange range).Alters before := by
  have erased := (Recorded.eraseRange alters range).1
  have same : Pane.eraseRange { pane with history := pane.history.latest } range =
      { pane.eraseRange range with history := (pane.eraseRange range).history.latest } := by
    by_cases nothing : pane.inside range.start = pane.inside range.stop
    · rw [eraseRange_of_eq (show Pane.inside { pane with history := pane.history.latest } range.start = _ from nothing),
        eraseRange_of_eq nothing]
    · rw [eraseRange_of_ne (show Pane.inside { pane with history := pane.history.latest } range.start ≠ _ from nothing),
        eraseRange_of_ne nothing, beginChange_latest, History.latest_record]
      rfl
  rwa [same] at erased

theorem Alters.replaceText (alters : pane.Alters before) (plain : Plain text) (range : Range) :
    (pane.replaceText range text).Alters before := by
  unfold Pane.replaceText
  split
  · exact alters
  · exact (alters.eraseRange range).insertText _ plain

/-- Edits leave the finished steps alone. -/
theorem done_beginChange (pane : Pane) : pane.beginChange.history.done = pane.history.done := by
  unfold beginChange
  dsimp only
  split
  · rfl
  · rename_i closed
    have closed : pane.history.current = none := by simpa [History.isOpen] using closed
    simp [markChange, History.start, History.commit, closed]

theorem done_record (history : History) (edit : Edit) : (history.record edit).done = history.done := by
  unfold History.record
  split <;> rfl

theorem done_insertText (pane : Pane) (pos : Position) (text : List Char) :
    (pane.insertText pos text).history.done = pane.history.done := by
  unfold insertText
  split
  · rfl
  · exact (done_record _ _).trans (done_beginChange pane)

theorem done_eraseRange (pane : Pane) (range : Range) : (pane.eraseRange range).history.done = pane.history.done := by
  by_cases nothing : pane.inside range.start = pane.inside range.stop
  · rw [eraseRange_of_eq nothing]
  · rw [eraseRange_of_ne nothing]
    exact (done_record _ _).trans (done_beginChange pane)

theorem done_replaceText (pane : Pane) (range : Range) (text : List Char) :
    (pane.replaceText range text).history.done = pane.history.done := by
  unfold replaceText
  split
  · rfl
  · rw [done_insertText, done_eraseRange]

/-- A line that stays as it is is not edited. -/
theorem replaceText_self (plain : Plain pane.buffer.text) (inside : line < pane.buffer.lineCount) :
    pane.replaceText (.between ⟨line, 0⟩ ⟨line, pane.buffer.lineLength line⟩) (pane.buffer.line line) = pane := by
  obtain ⟨range, whole⟩ := slice_whole plain inside
  unfold replaceText
  rw [range, whole, if_pos rfl]

end Replacing

end Pane

namespace Substitution

variable (expr : Regex.Expr) (replacement : List Char) (flags : SubstituteFlags)

/-- The pattern that a substitution looks for. -/
def patternFor? (source : List Char) (flags : SubstituteFlags) : Option Pattern :=
  Pattern.compile? (if flags.ignoreCase then "\\c".toList ++ source else source)

/-- Whether a line has a match. -/
def hits (line : List Char) : Bool := (onLine expr line replacement flags).isSome

/-- The number of matches on a line that are replaced or counted. -/
def hitCount (line : List Char) : Nat := ((onLine expr line replacement flags).map Prod.snd).getD 0

def lineAfter (line : List Char) : List Char := ((onLine expr line replacement flags).map Prod.fst).getD line

def tallyOf (buf : Buffer) (lines : List Nat) : Pane.Tally where
  found := (lines.map fun n => hitCount expr replacement flags (buf.line n)).sum
  lines := lines.countP fun n => hits expr replacement flags (buf.line n)
  lastLine := (lines.filter fun n => hits expr replacement flags (buf.line n)).getLast?

variable {expr replacement flags} {lines : List Nat}

/-- A line whose matches are only counted stays. -/
theorem lineAfter_of_countOnly (counts : flags.countOnly = true) (text : List Char) :
    lineAfter expr replacement flags text = text := by
  unfold lineAfter onLine
  dsimp only
  split
  · rfl
  · rfl

theorem tallyOf_of_misses (misses : hits expr replacement flags (buf.line line) = false) :
    tallyOf expr replacement flags buf (lines ++ [line]) = tallyOf expr replacement flags buf lines := by
  have none : onLine expr (buf.line line) replacement flags = none := by simpa [hits] using misses
  simp [tallyOf, misses, hitCount, none]

theorem tallyOf_of_onLine (lines : List Nat) {count : Nat}
    (found : onLine expr (buf.line line) replacement flags = some (text, count)) :
    tallyOf expr replacement flags buf (lines ++ [line]) =
      ⟨(tallyOf expr replacement flags buf lines).found + count,
        (tallyOf expr replacement flags buf lines).lines + 1, some line⟩ := by
  have here : hits expr replacement flags (buf.line line) = true := by simp [hits, found]
  simp [tallyOf, here, hitCount, found]

end Substitution

namespace Pane

open Substitution

variable {pane : Pane} {expr : Regex.Expr} {replacement : List Char} {flags : SubstituteFlags}
  {lines more : List Nat} {state : Pane × Tally}

/-- A substitution has been to some lines of a pane, and rewritten each as it stood there. -/
structure Rewrites (expr : Regex.Expr) (replacement : List Char) (flags : SubstituteFlags) (pane : Pane)
    (lines : List Nat) (state : Pane × Tally) : Prop where
  same : ∃ buffer history recorder,
    state.1 = { pane with buffer := buffer, history := history, recorder := recorder }
  changes : Buffer.ChangesLines lines (lineAfter expr replacement flags) pane.buffer state.1.buffer
  tally : state.2 = tallyOf expr replacement flags pane.buffer lines
  alters : state.1.Alters pane.buffer.text
  done : state.1.history.done = pane.history.done
  /-- A step is under way only if some line is another one. -/
  opened : state.1.history.isOpen = true →
    ∃ n ∈ lines, lineAfter expr replacement flags (pane.buffer.line n) ≠ pane.buffer.line n

namespace Rewrites

theorem start (plain : Plain pane.buffer.text) (closed : pane.history.isOpen = false) :
    Rewrites expr replacement flags pane [] (pane, {}) where
  same := ⟨_, _, _, rfl⟩
  changes := .refl plain nofun
  tally := rfl
  alters := .start closed plain
  done := rfl
  opened isOpen := absurd isOpen (by rw [closed]; nofun)

variable (rewrites : Rewrites expr replacement flags pane lines state)
include rewrites

theorem pass (stays : lineAfter expr replacement flags (pane.buffer.line line) = pane.buffer.line line)
    (fresh : line ∉ lines) {tally : Tally}
    (isTally : tally = tallyOf expr replacement flags pane.buffer (lines ++ [line])) :
    Rewrites expr replacement flags pane (lines ++ [line]) (state.1, tally) where
  same := rewrites.same
  changes := by
    have untouched : state.1.buffer.line line = pane.buffer.line line := by
      rw [rewrites.changes.line, if_neg fresh]
    refine rewrites.changes.append (.refl rewrites.changes.plain ?_) ?_
    · intro n mem
      rw [List.mem_singleton.1 mem, untouched, stays]
    · rintro n mem here
      exact fresh (List.mem_singleton.1 here ▸ mem)
  tally := isTally
  alters := rewrites.alters
  done := rewrites.done
  opened isOpen := by
    obtain ⟨n, mem, differs⟩ := rewrites.opened isOpen
    exact ⟨n, List.mem_append_left _ mem, differs⟩

theorem replace (inside : line < state.1.buffer.lineCount) (fresh : line ∉ lines)
    (after : lineAfter expr replacement flags (pane.buffer.line line) = text) (differs : text ≠ pane.buffer.line line)
    (unbroken : Unbroken text) {tally : Tally}
    (isTally : tally = tallyOf expr replacement flags pane.buffer (lines ++ [line])) :
    Rewrites expr replacement flags pane (lines ++ [line])
      (state.1.replaceText (.between ⟨line, 0⟩ ⟨line, (pane.buffer.line line).length⟩) text, tally) where
  same := by
    obtain ⟨buffer, history, recorder, eq⟩ := rewrites.same
    obtain ⟨buffer, history, recorder, replaced⟩ := replaceText_eq state.1
      (.between ⟨line, 0⟩ ⟨line, (pane.buffer.line line).length⟩) text
    exact ⟨_, _, _, replaced.trans (by rw [eq])⟩
  changes := by
    have untouched : state.1.buffer.line line = pane.buffer.line line := by
      rw [rewrites.changes.line, if_neg fresh]
    have changes := changesLines_replaceText rewrites.changes.plain inside unbroken
    unfold Buffer.lineLength at changes
    rw [untouched] at changes
    refine rewrites.changes.append (changes.congr fun n mem => ?_) ?_
    · rw [List.mem_singleton.1 mem, untouched, after]
    · rintro n mem here
      exact fresh (List.mem_singleton.1 here ▸ mem)
  tally := isTally
  alters := rewrites.alters.replaceText unbroken.plain _
  done := (done_replaceText ..).trans rewrites.done
  opened _ := ⟨line, by simp, by rwa [after]⟩

/-- The line that comes next is rewritten as it stands in the first buffer. -/
theorem substituteLine (inside : line < pane.buffer.lineCount) (fresh : line ∉ lines)
    (unbroken : Unbroken (lineAfter expr replacement flags (pane.buffer.line line))) :
    Rewrites expr replacement flags pane (lines ++ [line])
      (Pane.substituteLine expr replacement flags state line) := by
  have untouched : state.1.buffer.line line = pane.buffer.line line := by
    rw [rewrites.changes.line, if_neg fresh]
  have within : line < state.1.buffer.lineCount := rewrites.changes.lineCount.symm ▸ inside
  unfold Pane.substituteLine
  dsimp only
  rw [untouched]
  cases event : onLine expr (pane.buffer.line line) replacement flags with
  | none =>
      have stays : lineAfter expr replacement flags (pane.buffer.line line) = pane.buffer.line line := by
        simp [lineAfter, event]
      have misses : hits expr replacement flags (pane.buffer.line line) = false := by simp [hits, event]
      exact rewrites.pass stays fresh (rewrites.tally.trans (tallyOf_of_misses misses).symm)
  | some result =>
      obtain ⟨text, count⟩ := result
      have after : lineAfter expr replacement flags (pane.buffer.line line) = text := by simp [lineAfter, event]
      have tally := (tallyOf_of_onLine lines event).symm
      rw [← rewrites.tally] at tally
      dsimp only
      split
      · rename_i counts
        exact rewrites.pass (lineAfter_of_countOnly counts _) fresh tally
      · by_cases stays : text = pane.buffer.line line
        · have nothing := replaceText_self rewrites.changes.plain within
          unfold Buffer.lineLength at nothing
          rw [untouched] at nothing
          rw [stays, nothing]
          exact rewrites.pass (after.trans stays) fresh tally
        · exact rewrites.replace within fresh after stays (after ▸ unbroken) tally

/-- A substitution goes through lines one after the other. -/
theorem foldl (inside : ∀ n ∈ more, n < pane.buffer.lineCount) (once : (lines ++ more).Nodup)
    (unbroken : ∀ n ∈ more, Unbroken (lineAfter expr replacement flags (pane.buffer.line n))) :
    Rewrites expr replacement flags pane (lines ++ more)
      (more.foldl (Pane.substituteLine expr replacement flags) state) := by
  induction more generalizing lines state with
  | nil => rwa [List.append_nil]
  | cons line more ih =>
      have fresh : line ∉ lines := fun mem =>
        (List.nodup_append.1 once).2.2 line mem line List.mem_cons_self rfl
      have next := rewrites.substituteLine (inside line List.mem_cons_self) fresh (unbroken line List.mem_cons_self)
      rw [List.append_cons]
      rw [List.append_cons] at once
      exact ih next (fun n mem => inside n (List.mem_cons_of_mem _ mem)) once
        fun n mem => unbroken n (List.mem_cons_of_mem _ mem)

end Rewrites

/-- A pane after a substitution on the lines from `first` to `last`, which is one step of its history. -/
structure Substituted (expr : Regex.Expr) (source replacement : List Char) (flags : SubstituteFlags)
    (first last : Nat) (pane next : Pane) : Prop where
  lineCount : next.buffer.lineCount = pane.buffer.lineCount
  line (n : Nat) : next.buffer.line n =
    if first ≤ n ∧ n ≤ last then lineAfter expr replacement flags (pane.buffer.line n) else pane.buffer.line n
  missed : (tallyOf expr replacement flags pane.buffer (linesBetween first last)).lastLine = none →
    next.cursor.pos = pane.cursor.pos ∧
      next.message = some ⟨"E486: Pattern not found: ".toList ++ source, true⟩
  counted : flags.countOnly = true →
    let tally := tallyOf expr replacement flags pane.buffer (linesBetween first last)
    ∀ line ∈ tally.lastLine, next.cursor.pos = pane.cursor.pos ∧
      next.message = some ⟨Pane.counted tally.found "match" "matches" ++ " on ".toList ++
        Pane.counted tally.lines "line" "lines", false⟩
  replaced : flags.countOnly = false →
    let tally := tallyOf expr replacement flags pane.buffer (linesBetween first last)
    ∀ line ∈ tally.lastLine,
      next.cursor.pos = ⟨line, min (next.buffer.firstNonBlank line) (next.buffer.lineLength line - 1)⟩ ∧
      next.message =
        if 2 < tally.found then
          some ⟨Pane.counted tally.found "substitution" "substitutions" ++ " on ".toList ++
            Pane.counted tally.lines "line" "lines", false⟩
        else pane.message
  oneStep : next.history.done = pane.history.done ∧ next.buffer.text = pane.buffer.text ∨
    (∃ step, next.history.done = step :: pane.history.done) ∧
      ∃ undone, Handles next [.char 'u'] undone ∧ undone.buffer.text = pane.buffer.text

section Conclusion

variable {first last : Nat}

theorem nodup_linesBetween (first last : Nat) : (linesBetween first last).Nodup := List.nodup_range' ..

/-- The end of a substitution moves the cursor and says what it came to. -/
theorem concludeSubstitution_eq (pane : Pane) (source : List Char) (flags : SubstituteFlags) (tally : Tally) :
    ∃ cursor message recorder, pane.concludeSubstitution source flags tally =
      { pane with cursor := cursor, message := message, recorder := recorder } := by
  unfold concludeSubstitution
  dsimp only
  split
  · exact ⟨_, _, _, rfl⟩
  · split
    · exact ⟨_, _, _, rfl⟩
    · split <;> exact ⟨_, _, _, rfl⟩

variable {tally : Tally}

theorem concludeSubstitution_none (none : tally.lastLine = none) (pane : Pane) (source : List Char)
    (flags : SubstituteFlags) :
    pane.concludeSubstitution source flags tally = pane.fail ("E486: Pattern not found: ".toList ++ source) := by
  unfold concludeSubstitution
  rw [none]

theorem concludeSubstitution_counted (found : line ∈ tally.lastLine) (counts : flags.countOnly = true) (pane : Pane)
    (source : List Char) :
    pane.concludeSubstitution source flags tally =
      pane.say (Pane.counted tally.found "match" "matches" ++ " on ".toList ++
        Pane.counted tally.lines "line" "lines") := by
  unfold concludeSubstitution
  rw [Option.mem_def.1 found]
  exact if_pos counts

theorem concludeSubstitution_replaced (found : line ∈ tally.lastLine) (replaces : flags.countOnly = false) (pane : Pane)
    (source : List Char) :
    (pane.concludeSubstitution source flags tally).cursor = pane.cursor.toLine pane.buffer false line ∧
      (pane.concludeSubstitution source flags tally).message =
        if 2 < tally.found then
          some ⟨Pane.counted tally.found "substitution" "substitutions" ++ " on ".toList ++
            Pane.counted tally.lines "line" "lines", false⟩
        else pane.message := by
  unfold concludeSubstitution
  rw [Option.mem_def.1 found]
  dsimp only
  rw [replaces, if_neg Bool.false_ne_true]
  split <;> exact ⟨rfl, rfl⟩

theorem Rewrites.takesCommands (rewrites : Rewrites expr replacement flags pane lines state)
    (takes : pane.TakesCommands) (source : List Char) :
    (state.1.concludeSubstitution source flags state.2).TakesCommands := by
  obtain ⟨cursor, message, recorder, eq⟩ := concludeSubstitution_eq state.1 source flags state.2
  obtain ⟨buffer, history, earlier, same⟩ := rewrites.same
  rw [eq, same]
  exact ⟨takes.prompt, takes.mode⟩

theorem Rewrites.oneStep (rewrites : Rewrites expr replacement flags pane lines state) (takes : pane.TakesCommands)
    (waits : pane.pending = none) (uncounted : pane.count = none) (source : List Char) :
    let next := (state.1.concludeSubstitution source flags state.2).settle
    next.history.done = pane.history.done ∧ next.buffer.text = pane.buffer.text ∨
      (∃ step, next.history.done = step :: pane.history.done) ∧
        ∃ undone, Handles next [.char 'u'] undone ∧ undone.buffer.text = pane.buffer.text := by
  intro next
  obtain ⟨cursor, message, recorder, eq⟩ := concludeSubstitution_eq state.1 source flags state.2
  obtain ⟨buffer, history, earlier, same⟩ := rewrites.same
  have alters : (state.1.concludeSubstitution source flags state.2).Alters pane.buffer.text := by
    rw [eq]
    exact rewrites.alters.congr rfl rfl
  have done : (state.1.concludeSubstitution source flags state.2).history.done = pane.history.done := by
    rw [eq]
    exact rewrites.done
  cases opened : state.1.history.isOpen with
  | false =>
      have closed : (state.1.concludeSubstitution source flags state.2).history.isOpen = false := by
        rw [eq]
        exact opened
      refine .inl ⟨(congrArg History.done (history_settle closed)).trans done, ?_⟩
      have settled : next.buffer.text = (state.1.concludeSubstitution source flags state.2).buffer.text := by
        obtain ⟨recorder, view, eq, -⟩ := settle_eq (state.1.concludeSubstitution source flags state.2)
        exact congrArg (·.buffer.text) eq
      have current : (state.1.concludeSubstitution source flags state.2).history.current = none := by
        simpa [History.isOpen] using closed
      exact settled.trans (History.Tracks.closed alters current).symm
  | true =>
      right
      have changed : (state.1.concludeSubstitution source flags state.2).buffer.text ≠ pane.buffer.text := by
        rw [eq]
        intro unchanged
        obtain ⟨n, mem, differs⟩ := rewrites.opened opened
        have rewritten := rewrites.changes.line n
        rw [if_pos mem] at rewritten
        exact differs (rewritten.symm.trans (Buffer.line_congr unchanged n))
      have takes := rewrites.takesCommands takes source
      obtain ⟨step, -, newest, -⟩ := alters.committed (by rw [takes.mode]; rfl) changed
      refine ⟨⟨step, newest.trans (by rw [done])⟩, alters.handles_undo takes ?_ ?_ changed⟩
      · rw [eq, same]
        exact waits
      · rw [eq, same]
        exact uncounted

theorem Rewrites.substituted (rewrites : Rewrites expr replacement flags pane (linesBetween first last) state)
    (inside : ∀ n ∈ linesBetween first last, n < pane.buffer.lineCount) (takes : pane.TakesCommands)
    (waits : pane.pending = none) (uncounted : pane.count = none) (source : List Char) :
    Substituted expr source replacement flags first last pane
      (state.1.concludeSubstitution source flags state.2).settle := by
  have oneStep := rewrites.oneStep takes waits uncounted source
  obtain ⟨moved, said, recorder, eq⟩ := concludeSubstitution_eq state.1 source flags state.2
  obtain ⟨buffer, history, earlier, same⟩ := rewrites.same
  obtain ⟨changes, tally⟩ := And.intro rewrites.changes rewrites.tally
  obtain ⟨settled, view, settles, -⟩ := settle_eq (state.1.concludeSubstitution source flags state.2)
  have cursor : (state.1.concludeSubstitution source flags state.2).settle.cursor =
      (state.1.concludeSubstitution source flags state.2).cursor := congrArg (·.cursor) settles
  have message : (state.1.concludeSubstitution source flags state.2).settle.message =
      (state.1.concludeSubstitution source flags state.2).message := congrArg (·.message) settles
  have text : (state.1.concludeSubstitution source flags state.2).settle.buffer.text = state.1.buffer.text := by
    rw [settles, eq]
  have rewritten := changes.of_text text
  refine ⟨rewritten.lineCount, fun n => ?_, fun missed => ?_, fun counts => ?_, fun replaces => ?_, oneStep⟩
  · rw [rewritten.line]
    simp only [mem_linesBetween]
  · rw [← tally] at missed
    rw [cursor, message, concludeSubstitution_none missed, same]
    exact ⟨rfl, rfl⟩
  · intro whole line mem
    rw [show whole = state.2 from tally.symm] at mem ⊢
    rw [cursor, message, concludeSubstitution_counted mem counts, same]
    exact ⟨rfl, rfl⟩
  · intro whole line mem
    have isLine : line < pane.buffer.lineCount :=
      inside line (List.mem_of_mem_filter (List.mem_of_getLast? mem))
    rw [show whole = state.2 from tally.symm] at mem ⊢
    obtain ⟨place, ends⟩ := concludeSubstitution_replaced mem replaces state.1 source
    have within : min line state.1.buffer.lastLine = line := by
      have lineCount := changes.lineCount
      unfold Buffer.lastLine
      omega
    have sameLine := Buffer.line_congr text line
    constructor
    · rw [cursor, place]
      unfold Cursor.toLine Cursor.toFirstNonBlank Cursor.atColumn Position.withCol Buffer.firstNonBlank
        Buffer.lineLength Buffer.lastColumn Buffer.lineLength
      dsimp only
      rw [within, sameLine]
      rfl
    · rw [message, ends, same]

/-- A substitution whose pattern can be read goes through its lines. -/
theorem substitute_eq (pane : Pane) (replacement : List Char) {range : LineRange} {patternText source : List Char}
    {pattern : Pattern} (lines : pane.linesOf range = .ok (first, last)) (isSource : pane.patternSource? patternText = some source)
    (compiled : patternFor? source flags = some pattern) :
    ∃ search lastSubstitute, pane.substitute range patternText replacement flags =
      let done := (linesBetween first last).foldl (Pane.substituteLine pattern.expr replacement flags)
        ({ pane with search := search, lastSubstitute := lastSubstitute }, {})
      done.1.concludeSubstitution source flags done.2 := by
  unfold patternFor? at compiled
  unfold substitute
  rw [lines]
  dsimp only
  rw [isSource]
  dsimp only
  rw [compiled]
  exact ⟨_, _, rfl⟩

theorem lt_lineCount_of_linesOf {range : LineRange} (settled : pane.cursor.pos.line < pane.buffer.lineCount)
    (lines : pane.linesOf range = .ok (first, last)) : ∀ n ∈ linesBetween first last, n < pane.buffer.lineCount := by
  have some := pane.buffer.lineCount_pos
  have le : last ≤ pane.buffer.lastLine := by
    unfold linesOf at lines
    dsimp only at lines
    split at lines
    · cases lines
      unfold Buffer.lastLine
      omega
    · cases lines
      exact Nat.le_refl _
    · split at lines
      · contradiction
      · cases lines
        omega
    · split at lines
      · cases lines
        exact Nat.min_le_right _ _
      · contradiction
  intro n mem
  have := (mem_linesBetween.1 mem).2
  unfold Buffer.lastLine at le
  omega

end Conclusion

section Keys

variable {first last : Nat} {key : Key}

inductive Substitutes (pane : Pane) : ExCommand → LineRange → List Char → List Char → SubstituteFlags → Prop where
  | once (range : LineRange) (patternText replacement : List Char) (flags : SubstituteFlags) :
      Substitutes pane (.substitute range patternText replacement flags) range patternText replacement flags
  | again (range : LineRange) {latest : LastSubstitute} (remembered : pane.lastSubstitute = some latest) :
      Substitutes pane (.repeatSubstitute range) range latest.pattern latest.replacement {}

/-- An open prompt comes back to a pane that waits for nothing. -/
theorem Reached.prompting (reached : Reached pane) {prompt : PromptState} (asked : pane.prompt = some prompt) :
    prompt.origin = .normal ∧ pane.history.isOpen = false ∧ pane.pending = none ∧ pane.count = none := by
  obtain ⟨coherent, -, -⟩ := reached.invariant
  have settled := reached.settled
  have mode := settled.prompt.1 (by rw [asked]; rfl)
  refine ⟨settled.origin prompt asked, ?_, ?_, reached.tidy.prompt prompt asked⟩
  · rw [← Bool.not_eq_true]
    intro isOpen
    rcases settled.history isOpen with typing | typing <;> rw [mode] at typing <;> contradiction
  · cases coherent with
    | prompting state mode opened rest => exact rest.pending
    | normal rest => exact absurd (rest.mode.symm.trans mode) (by decide)
    | typing typing => rw [mode] at typing; contradiction
    | visual selecting =>
        obtain ⟨kind, visual⟩ := selecting.mode
        rw [mode] at visual
        contradiction

theorem dispatchWith_submits {prompt : PromptState} (asked : pane.prompt = some prompt)
    (isCommand : prompt.prompt.kind = .command) {text : List Char}
    (submits : (prompt.prompt.handleKey key).2 = .submit text) (again : Option Nat → Pane → Option Pane) :
    dispatchWith again key pane =
      some (execute { pane with prompt := none, mode := prompt.origin } (Ex.parse text)) := by
  have event : prompt.prompt.handleKey key = ((prompt.prompt.handleKey key).1, .submit text) := Prod.ext rfl submits
  unfold dispatchWith
  rw [asked]
  dsimp only
  unfold handlePromptKey
  rw [event]
  dsimp only
  unfold submit
  rw [isCommand]

theorem Substitutes.congr {other : Pane} {command : ExCommand} {range : LineRange} {patternText : List Char}
    (substitutes : pane.Substitutes command range patternText replacement flags)
    (same : other.lastSubstitute = pane.lastSubstitute) :
    other.Substitutes command range patternText replacement flags := by
  cases substitutes with
  | once => exact .once ..
  | again range remembered => exact .again range (same.trans remembered)

theorem Substitutes.execute {command : ExCommand} {range : LineRange} {patternText : List Char}
    (substitutes : pane.Substitutes command range patternText replacement flags) :
    pane.execute command = pane.substitute range patternText replacement flags := by
  cases substitutes with
  | once => rfl
  | again range remembered =>
      unfold Pane.execute
      rw [remembered]

/-- A substitution is a map on its lines: each of them becomes what it would become alone, and no other line changes.
All of it is one step of the history. -/
theorem Reached.substitution_maps_lines (reached : Reached pane) (plain : Plain pane.buffer.text) {prompt : PromptState}
    (asked : pane.prompt = some prompt) (isCommand : prompt.prompt.kind = .command) {text : List Char}
    (submits : (prompt.prompt.handleKey key).2 = .submit text) {range : LineRange} {patternText source : List Char}
    (substitutes : pane.Substitutes (Ex.parse text) range patternText replacement flags)
    (lines : pane.linesOf range = .ok (first, last)) (isSource : pane.patternSource? patternText = some source)
    {pattern : Pattern} (compiled : patternFor? source flags = some pattern)
    (unbroken : ∀ n, first ≤ n → n ≤ last → Unbroken (lineAfter pattern.expr replacement flags (pane.buffer.line n))) :
    ∃ next, Handles pane [key] next ∧ next.TakesCommands ∧
      Substituted pattern.expr source replacement flags first last pane next := by
  obtain ⟨origin, closed, waits, counted⟩ := reached.prompting asked
  let base : Pane := { pane.record key with prompt := none, mode := prompt.origin }
  have asks : (pane.record key).prompt = some prompt := asked
  have handed := fun again => dispatchWith_submits asks isCommand submits again
  have substitutes : base.Substitutes (Ex.parse text) range patternText replacement flags := substitutes.congr rfl
  obtain ⟨search, lastSubstitute, eq⟩ := substitute_eq base replacement lines isSource compiled
  let start : Pane := { base with search := search, lastSubstitute := lastSubstitute }
  have inside : ∀ n ∈ linesBetween first last, n < start.buffer.lineCount :=
    lt_lineCount_of_linesOf reached.settled.line lines
  have begins : Rewrites pattern.expr replacement flags start [] (start, {}) := .start plain closed
  have rewrites := begins.foldl inside (nodup_linesBetween first last)
    fun n mem => unbroken n (mem_linesBetween.1 mem).1 (mem_linesBetween.1 mem).2
  have takes : start.TakesCommands := ⟨rfl, origin⟩
  have substituted := rewrites.substituted inside takes waits counted source
  rw [substitutes.execute, eq] at handed
  exact ⟨_, .one handed, (rewrites.takesCommands takes source).of_alike (Alike.settle _), { substituted with }⟩

/-- Two of three lines have a match, and the cursor goes to the first character of the last that is not blank. -/
theorem substitution_maps_lines_typed :
    let pane := typedInto "bob\nc\n  b".toList (":%s/b/x/".toList.map .char)
    ∃ pattern next, patternFor? "b".toList {} = some pattern ∧ Handles pane [.plain .enter] next ∧
      Substituted pattern.expr "b".toList "x".toList {} 0 2 pane next ∧ next.buffer.text = "xob\nc\n  x".toList ∧
      next.cursor.pos = ⟨2, 2⟩ := by
  intro pane
  have reached : Reached pane := reached_typedInto _ _
  obtain ⟨prompt, asked⟩ := Option.isSome_iff_exists.1 (show pane.prompt.isSome = true by decide +kernel)
  obtain ⟨pattern, compiled⟩ := Option.isSome_iff_exists.1
    (show (patternFor? "b".toList {}).isSome = true by decide +kernel)
  have prompts : pane.prompt.map (·.prompt) = some (.withText .command "%s/b/x/".toList) := by decide +kernel
  rw [asked, Option.map_some, Option.some.injEq] at prompts
  have unbroken : ∀ n, n ≤ 2 →
      (patternFor? "b".toList {}).all fun pattern =>
        decide (Unbroken (lineAfter pattern.expr "x".toList {} (pane.buffer.line n))) := by
    decide +kernel
  have parsed : Ex.parse "%s/b/x/".toList = .substitute .all "b".toList "x".toList {} := by decide +kernel
  have submits : (prompt.prompt.handleKey (.plain .enter)).2 = .submit "%s/b/x/".toList := by
    rw [prompts]
    rfl
  have substitutes : pane.Substitutes (Ex.parse "%s/b/x/".toList) .all "b".toList "x".toList {} := parsed ▸ .once ..
  have lines : pane.linesOf .all = .ok (0, 2) := by decide +kernel
  have isSource : pane.patternSource? "b".toList = some "b".toList := rfl
  obtain ⟨next, handles, -, substituted⟩ := reached.substitution_maps_lines (by decide +kernel) asked
    (by rw [prompts]; rfl) submits substitutes lines isSource compiled
    (fun n _ le => by simpa only [compiled, Option.all_some, decide_eq_true_eq] using unbroken n le)
  have reads : pane.handleKeys [.plain .enter] = next := handles.handleKeys
  have text : (pane.handleKeys [.plain .enter]).buffer.text = "xob\nc\n  x".toList := by decide +kernel
  have pos : (pane.handleKeys [.plain .enter]).cursor.pos = ⟨2, 2⟩ := by decide +kernel
  rw [reads] at text pos
  exact ⟨pattern, next, compiled, handles, substituted, text, pos⟩

end Keys

end Pane

end ModalPanes
