import ModalPanes.Proofs.Text.Brackets
import ModalPanes.Proofs.Text.Characters

/-!
# Bracket objects

The object around a character is the innermost pair of brackets that are matched around it.  On an opening
bracket the search goes forward, on a closing one back, and between brackets both ways, but all three come to the
last bracket that waits and to its partner.  The motion from a bracket to its partner leads back as well.
-/

namespace ModalPanes

namespace Bracket

/-- A pair of brackets around an index that lies inside of all others around it. -/
structure Innermost (pairs : List (Nat × Nat)) (i o k : Nat) : Prop where
  mem : (o, k) ∈ pairs
  opened : o ≤ i
  closed : i ≤ k
  inside : ∀ first last, (first, last) ∈ pairs → first ≤ i → i ≤ last → first ≤ o ∧ k ≤ last

end Bracket

namespace Buffer

variable {buf : Buffer} {left right c : Char} {pos : Position} {i o k : Nat}

theorem openingAt?_eq (ne : left ≠ right) (i : Nat) :
    buf.openingAt? left right i = (Bracket.waiting left right (buf.text.take i)).head? := by
  rw [openingAt?, Bracket.opening?_eq ne, before, List.reverse_reverse, List.head?_eq_getElem?]

theorem closingAt?_eq_some_iff (ne : left ≠ right) (opens : buf.text[o]? = some left) :
    buf.closingAt? left right o = some k ↔ (o, k) ∈ Bracket.matched left right buf.text := by
  obtain ⟨inside, here⟩ := List.getElem?_eq_some_iff.1 opens
  have waits : (Bracket.waiting left right (buf.text.take (o + 1)))[0]? = some o := by
    rw [← List.take_append_getElem inside, here, Bracket.waiting_concat_left, List.length_take,
      Nat.min_eq_left (Nat.le_of_lt inside)]
    rfl
  have found : ∀ m, Bracket.closing? left right 0 (buf.text.drop (o + 1)) = some m ↔
      (o, o + 1 + m) ∈ Bracket.matched left right buf.text := by
    intro m
    rw [Bracket.closing?_eq_some_iff ne waits, List.take_append_drop, List.length_take,
      Nat.min_eq_left (Nat.succ_le_of_lt inside)]
  rw [closingAt?, after, Option.map_eq_some_iff]
  simp only [found]
  constructor
  · rintro ⟨m, mem, rfl⟩
    exact mem
  · intro mem
    have behind := (Bracket.getElem?_of_matched mem).2.2
    exact ⟨k - (o + 1), by rwa [Nat.add_sub_cancel' behind], Nat.add_sub_cancel' behind⟩

section Enclosing

/-- The place in front of which the brackets around a character wait: behind it if it opens one. -/
def splitAt (left c : Char) (i : Nat) : Nat := if c = left then i + 1 else i

variable (here : buf.text[i]? = some c)
include here

theorem around_iff (mem : (o, k) ∈ Bracket.matched left right buf.text) :
    (o ≤ i ∧ i ≤ k) ↔ o < splitAt left c i ∧ splitAt left c i ≤ k := by
  obtain ⟨opens, closes, lt⟩ := Bracket.getElem?_of_matched mem
  have ne := (Bracket.mem_matched_iff.1 mem).2.1
  unfold splitAt
  split
  · rename_i same
    have other : i ≠ k := by
      rintro rfl
      rw [here, same] at closes
      exact ne (Option.some.inj closes)
    omega
  · rename_i differs
    have other : o ≠ i := by
      rintro rfl
      rw [here] at opens
      exact differs (Option.some.inj opens)
    omega

/-- The last bracket that waits around a character belongs to the innermost pair. -/
theorem innermost_of_head (head : (Bracket.waiting left right (buf.text.take (splitAt left c i))).head? = some o)
    (mem : (o, k) ∈ Bracket.matched left right buf.text) :
    Bracket.Innermost (Bracket.matched left right buf.text) i o k := by
  have waits := List.mem_of_head? head
  have before := Bracket.lt_length_of_mem_waiting waits
  rw [List.length_take] at before
  obtain ⟨opened, closed⟩ := (around_iff here mem).2 ⟨by omega, Bracket.le_of_matched_of_waiting mem waits⟩
  refine ⟨mem, opened, closed, fun first last other le ge => ?_⟩
  obtain ⟨lt, ge⟩ := (around_iff here other).1 ⟨le, ge⟩
  obtain ⟨o', k', head', mem', outer, inner⟩ := Bracket.exists_enclosing other lt ge
  obtain rfl : o = o' := Option.some.inj (head.symm.trans head')
  obtain rfl := Bracket.matched_unique mem mem'
  exact ⟨outer, inner⟩

end Enclosing

section OnCharacters

variable (ne : left ≠ right)
include ne

theorem bracketPair?_opening (here : buf.charAt? pos = some left) :
    buf.bracketPair? left right pos = some (o, k) ↔
      buf.index pos = o ∧ (o, k) ∈ Bracket.matched left right buf.text := by
  have char := getElem?_index here
  simp only [bracketPair?, here, if_true, Option.map_eq_some_iff, closingAt?_eq_some_iff ne char, Prod.mk.injEq]
  constructor
  · rintro ⟨last, mem, rfl, rfl⟩
    exact ⟨rfl, mem⟩
  · rintro ⟨rfl, mem⟩
    exact ⟨k, mem, rfl, rfl⟩

theorem bracketPair?_closing (here : buf.charAt? pos = some right) :
    buf.bracketPair? left right pos = some (o, k) ↔
      (Bracket.waiting left right (buf.text.take (buf.index pos))).head? = some o ∧
        (o, k) ∈ Bracket.matched left right buf.text := by
  have matched : ∀ {first}, (Bracket.waiting left right (buf.text.take (buf.index pos))).head? = some first →
      (first, buf.index pos) ∈ Bracket.matched left right buf.text :=
    fun head => Bracket.mem_matched_iff.2 ⟨getElem?_index here, ne, head⟩
  simp only [bracketPair?, here, if_neg (Ne.symm ne), if_true, Option.map_eq_some_iff, openingAt?_eq ne,
    Prod.mk.injEq]
  constructor
  · rintro ⟨first, head, rfl, rfl⟩
    exact ⟨head, matched head⟩
  · rintro ⟨head, mem⟩
    exact ⟨o, head, rfl, Bracket.matched_unique (matched head) mem⟩

/-- Between brackets, the last that waits is followed to its partner, which lies behind. -/
theorem bracketPair?_between (here : buf.charAt? pos = some c) (opens : c ≠ left) (closes : c ≠ right) :
    buf.bracketPair? left right pos = some (o, k) ↔
      (Bracket.waiting left right (buf.text.take (buf.index pos))).head? = some o ∧
        (o, k) ∈ Bracket.matched left right buf.text := by
  simp only [bracketPair?, here, if_neg opens, if_neg closes, openingAt?_eq ne]
  cases head : (Bracket.waiting left right (buf.text.take (buf.index pos))).head? with
  | none => simp
  | some first =>
      have waits := List.mem_of_head? head
      have before := Bracket.lt_length_of_mem_waiting waits
      rw [List.length_take] at before
      have opening : buf.text[first]? = some left := by
        have found := Bracket.getElem?_of_mem_waiting waits
        rwa [List.getElem?_take_of_lt (by omega)] at found
      have partner : ∀ {last}, buf.closingAt? left right first = some last ↔
          (first, last) ∈ Bracket.matched left right buf.text := closingAt?_eq_some_iff ne opening
      dsimp only
      cases closing : buf.closingAt? left right first with
      | none =>
          refine iff_of_false (by simp) ?_
          rintro ⟨same, mem⟩
          obtain rfl := Option.some.inj same
          rw [partner.2 mem] at closing
          contradiction
      | some last =>
          have mem := partner.1 closing
          have behind : buf.index pos < last := by
            refine Nat.lt_of_le_of_ne (Bracket.le_of_matched_of_waiting mem waits) fun eq => ?_
            have char := (Bracket.getElem?_of_matched mem).2.1
            rw [← eq, getElem?_index here] at char
            exact closes (Option.some.inj char)
          dsimp only
          rw [if_pos ⟨by omega, behind⟩, Option.some.injEq, Option.some.injEq, Prod.mk.injEq]
          constructor
          · rintro ⟨rfl, rfl⟩
            exact ⟨rfl, mem⟩
          · rintro ⟨rfl, other⟩
            exact ⟨rfl, Bracket.matched_unique mem other⟩

theorem bracketPair?_eq_some_iff (here : buf.charAt? pos = some c) :
    buf.bracketPair? left right pos = some (o, k) ↔
      (Bracket.waiting left right (buf.text.take (splitAt left c (buf.index pos)))).head? = some o ∧
        (o, k) ∈ Bracket.matched left right buf.text := by
  unfold splitAt
  by_cases opens : c = left
  · subst opens
    obtain ⟨inside, char⟩ := List.getElem?_eq_some_iff.1 (getElem?_index here)
    rw [bracketPair?_opening ne here, if_pos rfl, ← List.take_append_getElem inside, char,
      Bracket.waiting_concat_left, List.length_take, Nat.min_eq_left (Nat.le_of_lt inside), List.head?_cons,
      Option.some.injEq]
  · rw [if_neg opens]
    by_cases closes : c = right
    · exact bracketPair?_closing ne (closes ▸ here)
    · exact bracketPair?_between ne here opens closes

end OnCharacters

theorem bracketPair?_same (mark : Char) (pos : Position) : buf.bracketPair? mark mark pos = none := by
  unfold bracketPair? closingAt? openingAt?
  simp only [Bracket.closing?_same, Bracket.opening?_same]
  split <;> simp

section Objects

variable (here : buf.charAt? pos = some c)
include here

/-- The pair around a character is the innermost one. -/
theorem innermost_of_bracketPair? (found : buf.bracketPair? left right pos = some (o, k)) :
    Bracket.Innermost (Bracket.matched left right buf.text) (buf.index pos) o k := by
  by_cases ne : left = right
  · subst ne
    rw [bracketPair?_same] at found
    contradiction
  · obtain ⟨head, mem⟩ := (bracketPair?_eq_some_iff ne here).1 found
    exact innermost_of_head (getElem?_index here) head mem

theorem isSome_bracketPair?_iff :
    (buf.bracketPair? left right pos).isSome = true ↔
      ∃ pair ∈ Bracket.matched left right buf.text,
        pair.1 ≤ buf.index pos ∧ buf.index pos ≤ pair.2 := by
  constructor
  · intro found
    obtain ⟨⟨o, k⟩, found⟩ := Option.isSome_iff_exists.1 found
    have innermost := innermost_of_bracketPair? here found
    exact ⟨(o, k), innermost.mem, innermost.opened, innermost.closed⟩
  · rintro ⟨⟨first, last⟩, mem, around⟩
    have ne := (Bracket.mem_matched_iff.1 mem).2.1
    obtain ⟨before, behind⟩ := (around_iff (getElem?_index here) mem).1 around
    obtain ⟨o, k, head, matched, -⟩ := Bracket.exists_enclosing mem before behind
    rw [(bracketPair?_eq_some_iff ne here).2 ⟨head, matched⟩]
    rfl

/-- A bracket object with its brackets goes from the first of them to behind the second. -/
theorem span_of_bracket {span : Span} (found : TextObject.span? ⟨.bracket left right, true⟩ buf pos = some span) :
    ∃ o k, Bracket.Innermost (Bracket.matched left right buf.text) (buf.index pos) o k ∧
      span.linewise = false ∧ buf.index span.range.start = o ∧ buf.index span.range.stop = k + 1 := by
  obtain ⟨⟨o, k⟩, pair, rfl⟩ := Option.map_eq_some_iff.1 found
  have innermost := innermost_of_bracketPair? here pair
  have inside : k < buf.length :=
    (List.getElem?_eq_some_iff.1 (Bracket.getElem?_of_matched innermost.mem).2.1).1
  have order : buf.positionOf o ≤ buf.positionOf (k + 1) :=
    positionOf_mono (Nat.le_trans innermost.opened (Nat.le_succ_of_le innermost.closed))
  have le : o ≤ buf.length := Nat.le_trans innermost.opened (buf.index_le_length pos)
  refine ⟨o, k, innermost, rfl, ?_⟩
  simp only [Span.chars, indexRange, Range.between, if_pos order]
  exact ⟨index_positionOf le, index_positionOf inside⟩

end Objects

section Matching

variable {pair : Char × Char} {p q : Position}

theorem ne_of_mem_pairs (mem : pair ∈ Bracket.pairs) : pair.1 ≠ pair.2 ∧ pair.1 ≠ '\n' ∧ pair.2 ≠ '\n' := by
  revert pair
  decide

theorem matchingBracket?_of_mem (here : buf.charAt? p = some c)
    (bracket : (Bracket.pairs.any fun pair => c == pair.1 || c == pair.2) = true) :
    buf.matchingBracket? p = (Bracket.pairs.findSome? fun pair =>
      if c = pair.1 then buf.closingAt? pair.1 pair.2 (buf.index p)
      else if c = pair.2 then buf.openingAt? pair.1 pair.2 (buf.index p)
      else none).map buf.positionOf := by
  obtain ⟨inside, char⟩ := List.getElem?_eq_some_iff.1 here
  have ahead : (buf.line p.line).drop p.col = c :: (buf.line p.line).drop (p.col + 1) := by
    rw [← char, List.drop_eq_getElem_cons inside]
  unfold matchingBracket?
  simp only [ahead, List.takeWhile_cons, bracket, Bool.not_true, Bool.false_eq_true, if_false, List.length_nil,
    List.drop_zero, Nat.add_zero, Position.withCol]

theorem matchingBracket?_opening (mem : pair ∈ Bracket.pairs) (here : buf.charAt? p = some pair.1) :
    buf.matchingBracket? p = (buf.closingAt? pair.1 pair.2 (buf.index p)).map buf.positionOf := by
  simp only [Bracket.pairs, List.mem_cons, List.not_mem_nil, or_false] at mem
  rcases mem with rfl | rfl | rfl
  all_goals
    rw [matchingBracket?_of_mem here (by decide)]
    simp only [Bracket.pairs, List.findSome?_cons, List.findSome?_nil, Char.reduceEq, if_true, if_false]
    cases buf.closingAt? _ _ (buf.index p) <;> rfl

theorem matchingBracket?_closing (mem : pair ∈ Bracket.pairs) (here : buf.charAt? p = some pair.2) :
    buf.matchingBracket? p = (buf.openingAt? pair.1 pair.2 (buf.index p)).map buf.positionOf := by
  simp only [Bracket.pairs, List.mem_cons, List.not_mem_nil, or_false] at mem
  rcases mem with rfl | rfl | rfl
  all_goals
    rw [matchingBracket?_of_mem here (by decide)]
    simp only [Bracket.pairs, List.findSome?_cons, List.findSome?_nil, Char.reduceEq, if_true, if_false]
    cases buf.openingAt? _ _ (buf.index p) <;> rfl

/-- Two brackets that are matched lead to each other. -/
theorem matchingBracket?_of_matched (mem : pair ∈ Bracket.pairs)
    (matched : (o, k) ∈ Bracket.matched pair.1 pair.2 buf.text) :
    buf.matchingBracket? (buf.positionOf o) = some (buf.positionOf k) ∧
      buf.matchingBracket? (buf.positionOf k) = some (buf.positionOf o) := by
  obtain ⟨ne, openNe, closeNe⟩ := ne_of_mem_pairs mem
  obtain ⟨opens, closes, lt⟩ := Bracket.getElem?_of_matched matched
  have inside : k < buf.length := (List.getElem?_eq_some_iff.1 closes).1
  constructor
  · rw [matchingBracket?_opening mem (charAt?_positionOf opens openNe),
      index_positionOf (Nat.le_of_lt (Nat.lt_trans lt inside)), (closingAt?_eq_some_iff ne opens).2 matched]
    rfl
  · rw [matchingBracket?_closing mem (charAt?_positionOf closes closeNe), index_positionOf (Nat.le_of_lt inside),
      openingAt?_eq ne, (Bracket.mem_matched_iff.1 matched).2.2]
    rfl

theorem matched_of_matchingBracket? (mem : pair ∈ Bracket.pairs) (here : buf.charAt? p = some c)
    (bracket : c = pair.1 ∨ c = pair.2) (found : buf.matchingBracket? p = some q) :
    ∃ o k, (o, k) ∈ Bracket.matched pair.1 pair.2 buf.text ∧
      (p = buf.positionOf o ∧ q = buf.positionOf k ∨ p = buf.positionOf k ∧ q = buf.positionOf o) := by
  have ne := (ne_of_mem_pairs mem).1
  have char := getElem?_index here
  have place := positionOf_index here
  rcases bracket with rfl | rfl
  · rw [matchingBracket?_opening mem here, Option.map_eq_some_iff] at found
    obtain ⟨k, closing, rfl⟩ := found
    exact ⟨_, k, (closingAt?_eq_some_iff ne char).1 closing, .inl ⟨place.symm, rfl⟩⟩
  · rw [matchingBracket?_closing mem here, openingAt?_eq ne, Option.map_eq_some_iff] at found
    obtain ⟨o, head, rfl⟩ := found
    exact ⟨o, _, Bracket.mem_matched_iff.2 ⟨char, ne, head⟩, .inr ⟨place.symm, rfl⟩⟩

end Matching

/-- Bracket objects and the motion between brackets agree with reading the text with a stack: there is an object
around a character where some matched pair is, and it is the innermost one, and the motion from a bracket leads
to another one from which it leads back. -/
theorem brackets_agree_with_stack (buf : Buffer) :
    (∀ left right pos c, buf.charAt? pos = some c →
      let pairs := Bracket.matched left right buf.text
      let object : TextObject := ⟨.bracket left right, true⟩
      ((object.span? buf pos).isSome = true ↔
        ∃ pair ∈ pairs, pair.1 ≤ buf.index pos ∧ buf.index pos ≤ pair.2) ∧
      ∀ span, object.span? buf pos = some span →
        ∃ o k, Bracket.Innermost pairs (buf.index pos) o k ∧
          span.linewise = false ∧ buf.index span.range.start = o ∧ buf.index span.range.stop = k + 1) ∧
    ∀ p c q, buf.charAt? p = some c → (∃ pair ∈ Bracket.pairs, c = pair.1 ∨ c = pair.2) →
      buf.matchingBracket? p = some q → buf.matchingBracket? q = some p := by
  refine ⟨fun left right pos c here => ⟨?_, fun span found => span_of_bracket here found⟩, ?_⟩
  · rw [← isSome_bracketPair?_iff here]
    simp [TextObject.span?]
  · rintro p c q here ⟨pair, mem, bracket⟩ found
    obtain ⟨o, k, matched, ⟨rfl, rfl⟩ | ⟨rfl, rfl⟩⟩ := matched_of_matchingBracket? mem here bracket found
    · exact (matchingBracket?_of_matched mem matched).2
    · exact (matchingBracket?_of_matched mem matched).1

/-- A call over two lines, between brackets that are not matched. -/
theorem brackets_agree_with_stack_nested :
    let buf : Buffer := { text := ")f(x,\n(y))(".toList }
    let object : TextObject := ⟨.bracket '(' ')', true⟩
    (buf.charAt? ⟨0, 3⟩ = some 'x' ∧ (object.span? buf ⟨0, 3⟩).isSome = true) ∧
      buf.charAt? ⟨1, 3⟩ = some ')' ∧ buf.matchingBracket? ⟨1, 3⟩ = some ⟨0, 2⟩ ∧
      buf.matchingBracket? ⟨0, 2⟩ = some ⟨1, 3⟩ := by
  intro buf object
  obtain ⟨objects, motion⟩ := brackets_agree_with_stack buf
  have inside : buf.charAt? ⟨0, 3⟩ = some 'x' := by decide +kernel
  have matched : (2, 9) ∈ Bracket.matched '(' ')' buf.text := by decide +kernel
  have around : 2 ≤ buf.index ⟨0, 3⟩ ∧ buf.index ⟨0, 3⟩ ≤ 9 := by decide +kernel
  have closing : buf.charAt? ⟨1, 3⟩ = some ')' := by decide +kernel
  have found : buf.matchingBracket? ⟨1, 3⟩ = some ⟨0, 2⟩ := by decide +kernel
  refine ⟨⟨inside, (objects '(' ')' ⟨0, 3⟩ 'x' inside).1.2 ⟨(2, 9), matched, around⟩⟩, closing, found, ?_⟩
  exact motion ⟨1, 3⟩ ')' ⟨0, 2⟩ closing ⟨('(', ')'), by decide, .inr rfl⟩ found

end Buffer

end ModalPanes
