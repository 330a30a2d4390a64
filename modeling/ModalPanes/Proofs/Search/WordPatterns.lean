import ModalPanes.Proofs.Regex.Finding
import ModalPanes.Proofs.Search.Succession
import ModalPanes.Pane.Moving
import Mathlib.Data.List.Forall2
import Mathlib.Data.List.TakeWhile

/-!
# Searching the word under the cursor

A keyword is a run of letters, numerals and underscores, and its pattern is its text between two word boundaries.
None of these characters means anything in a pattern or in a regular expression, so the pattern matches just this
text; and as a run ends at other characters, no match reaches over its start.  What counts as a word boundary is up
to regular expressions, however, and they have another notion of the characters of words: marks belong to them, and
numerals that are no digits do not.
-/

namespace ModalPanes

variable {c : Char} {line text run : List Char} {col start : Nat} {holds : Char → Bool}

section Runs

/-- A longest stretch of characters with a property, in a line. -/
structure IsRun (holds : Char → Bool) (line : List Char) (start : Nat) (run : List Char) : Prop where
  filled : run ≠ []
  within : run <+: line.drop start
  all : ∀ c ∈ run, holds c = true
  ends : ∀ c ∈ (line.take start).getLast?, holds c = false
  stops : ∀ c ∈ (line.drop (start + run.length)).head?, holds c = false

theorem IsRun.inside (isRun : IsRun holds line start run) : start < line.length := by
  have lengths := isRun.within.length_le
  have filled := List.length_pos_of_ne_nil isRun.filled
  rw [List.length_drop] at lengths
  omega

/-- The same characters stand nowhere across the start of a longest stretch. -/
theorem IsRun.apart (isRun : IsRun holds line start run) (within : run <+: line.drop col) (before : col < start) :
    col + run.length ≤ start := by
  by_contra reaches
  obtain ⟨behind, cut⟩ := within
  obtain ⟨n, rfl⟩ : ∃ n, start = col + n + 1 := ⟨start - 1 - col, by omega⟩
  have place : n < run.length := by omega
  have char : (line)[col + n]? = some run[n] := by
    rw [← List.getElem?_drop, ← cut, List.getElem?_append_left place, List.getElem?_eq_getElem place]
  have last : (line.take (col + n + 1)).getLast? = some run[n] := by
    rw [List.getLast?_take, if_neg (Nat.succ_ne_zero _), Nat.add_sub_cancel, char, Option.some_or]
  have no := isRun.ends _ last
  rw [isRun.all _ (List.getElem_mem _)] at no
  contradiction

theorem isRun_of_ends (filled : (line.drop start).takeWhile holds ≠ [])
    (ends : ∀ c ∈ (line.take start).getLast?, holds c = false) :
    IsRun holds line start ((line.drop start).takeWhile holds) where
  filled := filled
  within := List.takeWhile_prefix holds
  all _ mem := List.mem_takeWhile_imp mem
  ends := ends
  stops c mem := by
    have first := List.head?_dropWhile_not holds (line.drop start)
    have rest : line.drop (start + ((line.drop start).takeWhile holds).length) = (line.drop start).dropWhile holds := by
      rw [← List.drop_drop]
      exact (congrArg (List.drop _) (List.takeWhile_append_dropWhile ..).symm).trans List.drop_left
    rw [rest] at mem
    rwa [Option.mem_def.1 mem] at first

/-- In front of a stretch that goes back as far as it can, there is no such character. -/
theorem ends_of_backward (inside : col ≤ line.length) :
    ∀ c ∈ (line.take (col - ((line.take col).reverse.takeWhile holds).length)).getLast?, holds c = false := by
  have parts := (List.takeWhile_append_dropWhile (p := holds) (l := (line.take col).reverse)).symm
  have first := List.head?_dropWhile_not holds (line.take col).reverse
  generalize (line.take col).reverse.takeWhile holds = back at parts
  generalize (line.take col).reverse.dropWhile holds = front at parts first
  have length : col = front.length + back.length := by
    have lengths := congrArg List.length parts
    simp only [List.length_reverse, List.length_take, List.length_append] at lengths
    omega
  have cut : line.take (col - back.length) = front.reverse := by
    have taken : line.take col = front.reverse ++ back.reverse := by
      rw [← List.reverse_append, ← parts, List.reverse_reverse]
    have le : col - back.length ≤ col := Nat.sub_le ..
    rw [← Nat.min_eq_left le, ← List.take_take, taken]
    apply List.take_left'
    rw [List.length_reverse]
    omega
  intro c mem
  rw [cut, List.getLast?_reverse] at mem
  rwa [Option.mem_def.1 mem] at first

/-- The first such character behind others has one of them in front of it. -/
theorem ends_of_forward (some : (line.drop col).takeWhile (fun c => !holds c) ≠ []) :
    ∀ c ∈ (line.take (col + ((line.drop col).takeWhile fun c => !holds c).length)).getLast?, holds c = false := by
  intro c mem
  rw [List.take_add, (List.prefix_iff_eq_take.1 (List.takeWhile_prefix _)).symm,
    List.getLast?_append_of_ne_nil _ some] at mem
  simpa using List.mem_takeWhile_imp (List.mem_of_getLast? mem)

/-- A word is a longest stretch of its characters. -/
theorem isRun_of_runAt? (found : Word.runAt? holds line col = some (start, run)) : IsRun holds line start run := by
  unfold Word.runAt? at found
  dsimp only at found
  cases behind : line.drop col with
  | nil => simp [behind] at found
  | cons c rest =>
      have inside : col < line.length := by
        have lengths := congrArg List.length behind
        rw [List.length_drop, List.length_cons] at lengths
        omega
      rw [behind] at found
      dsimp only at found
      rw [← behind] at found
      generalize isStart : (if holds c = true then col - ((line.take col).reverse.takeWhile holds).length
        else col + ((line.drop col).takeWhile fun d => !holds d).length) = first at found
      have ends : ∀ d ∈ (line.take first).getLast?, holds d = false := by
        subst isStart
        split
        · exact ends_of_backward (Nat.le_of_lt inside)
        · rename_i other
          exact ends_of_forward (by simp [behind, other])
      split at found
      · contradiction
      · rename_i filled
        cases found
        exact isRun_of_ends (by simpa using filled) ends

end Runs

section Characters

/-- The characters of keywords mean nothing, neither in a pattern nor in a regular expression. -/
theorem isMagic_of_isWordChar (isWord : isWordChar c = true) : Pattern.isMagic c = false := by
  rw [← Bool.not_eq_true]
  intro magic
  simp only [Pattern.isMagic, Bool.or_eq_true, beq_iff_eq] at magic
  revert isWord
  rcases magic with ((((((((rfl | rfl) | rfl) | rfl) | rfl) | rfl) | rfl) | rfl) | rfl) <;> decide

theorem isMeta_of_isWordChar (isWord : isWordChar c = true) : Pattern.isMeta c = false := by
  rw [← Bool.not_eq_true]
  intro isMeta
  have ordinary : "\\.+*?()|[]\x7b\x7d^$#&-~".toList.all (fun d => !isWordChar d) = true := by decide
  have none := List.all_eq_true.1 ordinary c (by simpa [Pattern.isMeta] using isMeta)
  rw [isWord] at none
  contradiction

end Characters

namespace Pattern

variable (word : ∀ c ∈ text, isWordChar c = true)
include word

theorem escape_of_isWordChar : escape text = text := by
  induction text with
  | nil => rfl
  | cons c text ih =>
      obtain ⟨first, rest⟩ := List.forall_mem_cons.1 word
      unfold escape at ih ⊢
      rw [List.flatMap_cons, ih rest, isMagic_of_isWordChar first]
      rfl

/-- Each character of a keyword is a piece that stands for itself. -/
theorem pieces_of_isWordChar (behind : List Char) :
    pieces false (text ++ behind) = text.map (fun c => ⟨[c], 0, false⟩) ++ pieces false behind := by
  induction text with
  | nil => rfl
  | cons c text ih =>
      obtain ⟨first, rest⟩ := List.forall_mem_cons.1 word
      have magic := isMagic_of_isWordChar first
      simp only [isMagic, Bool.or_eq_false_iff, beq_eq_false_iff_ne] at magic
      have one : piece false c (text ++ behind) = ⟨[c], 0, false⟩ := by
        unfold piece literal
        simp [magic, isMeta_of_isWordChar first]
      rw [List.cons_append, pieces, one]
      simp [ih rest]

theorem translate_keyword :
    translate ("\\<".toList ++ text ++ "\\>".toList) = "\\b".toList ++ text ++ "\\b".toList := by
  have front : pieces true ("\\<".toList ++ text ++ "\\>".toList) =
      ⟨"\\b".toList, 1, false⟩ :: pieces false (text ++ "\\>".toList) := by
    simp [pieces, piece, escapedPiece]
  have back : pieces false "\\>".toList = [⟨"\\b".toList, 1, false⟩] := by
    simp [pieces, piece, escapedPiece]
  unfold translate
  dsimp only
  rw [front, pieces_of_isWordChar word, back]
  simp [List.flatMap_map]

end Pattern

namespace Regex

section Reading

theorem read_of_isMeta (plain : Pattern.isMeta c = false) (behind : List Char) :
    Token.read c behind = some (.literal c, 0) := by
  simp [Pattern.isMeta] at plain
  simp [Token.read, plain]

/-- A boundary is written in front of a keyword and at the end. -/
theorem read_boundary {behind : List Char} (unnamed : behind.head? ≠ some '\x7b') :
    Token.read '\\' ('b' :: behind) = some (.anchor .wordBoundary, 1) := by
  have anchor : Token.wordAnchor behind = some (.wordBoundary, 0) := by
    unfold Token.wordAnchor
    split
    · simp at unnamed
    · rfl
  have escape : Token.escape 'b' behind = some (.anchor .wordBoundary, 0) := by
    unfold Token.escape
    rw [show Token.namedSet? 'b' = none from rfl, show Token.control? 'b' = none from rfl]
    simp [show Token.isEscapable 'b' = false from rfl, anchor]
  simp [Token.read, escape]

theorem readAll_literals (plain : ∀ c ∈ text, Pattern.isMeta c = false) (behind : List Char) :
    Token.readAll (text ++ behind) = (Token.readAll behind).map (text.map Token.literal ++ ·) := by
  induction text with
  | nil => simp
  | cons c text ih =>
      obtain ⟨first, rest⟩ := List.forall_mem_cons.1 plain
      rw [List.cons_append, Token.readAll, read_of_isMeta first]
      simp [ih rest, Option.map_map, Function.comp_def]

theorem readAll_keyword (plain : ∀ c ∈ text, Pattern.isMeta c = false) :
    Token.readAll ("\\b".toList ++ text ++ "\\b".toList) =
      some (.anchor .wordBoundary :: (text.map Token.literal ++ [.anchor .wordBoundary])) := by
  have unnamed : (text ++ "\\b".toList).head? ≠ some '\x7b' := by
    cases text with
    | nil => decide
    | cons c text =>
        have := plain c List.mem_cons_self
        rintro ⟨⟩
        contradiction
  have behind : Token.readAll "\\b".toList = some [.anchor .wordBoundary] := by
    change Token.readAll ['\\', 'b'] = _
    rw [Token.readAll, read_boundary (by decide)]
    simp [Token.readAll]
  rw [List.append_assoc]
  change Token.readAll ('\\' :: 'b' :: (text ++ "\\b".toList)) = _
  rw [Token.readAll, read_boundary unnamed]
  dsimp only
  rw [List.drop_one, List.tail_cons, readAll_literals plain, behind]
  rfl

end Reading

/-- A text between two word boundaries. -/
def wholeWord (text : List Char) : Expr :=
  .seq (.anchor .wordBoundary)
    (text.foldr (fun c expr => .seq (.set (.single c)) expr) (.seq (.anchor .wordBoundary) .empty))

section Parsing

/-- A token that is an item without any nesting, while no switch is on. -/
def Pushes (token : Token) (expr : Expr) : Prop :=
  ∀ state : ParseState, state.switches = {} → state.step? token = some (state.push expr 0)

theorem pushes_literal (c : Char) : Pushes (.literal c) (.set (.single c)) := by
  intro state off
  unfold ParseState.step?
  dsimp only
  rw [off]
  rfl

theorem pushes_anchor (anchor : Anchor) : Pushes (.anchor anchor) (.anchor anchor) := fun _ _ => rfl

theorem foldlM_pushes {tokens : List Token} {exprs : List Expr} (pushes : List.Forall₂ Pushes tokens exprs)
    (state : ParseState) (off : state.switches = {}) :
    tokens.foldlM ParseState.step? state =
      some { state with
        present :=
          { state.present with items := (exprs.map fun expr => some ⟨expr, 0⟩).reverse ++ state.present.items } } := by
  induction pushes generalizing state with
  | nil => rfl
  | @cons token expr tokens exprs first rest ih =>
      rw [List.foldlM_cons, first state off, Option.bind_eq_bind, Option.bind_some, ih (state.push expr 0) off]
      simp [ParseState.push, Alternatives.push]

/-- Items in a row without any nesting. -/
theorem close_flat (exprs : List Expr) :
    ((⟨[], (exprs.map fun expr => some ⟨expr, 0⟩).reverse⟩ : Alternatives).close).expr = exprs.foldr .seq .empty := by
  have items : (exprs.map fun expr => some (⟨expr, 0⟩ : Nested)).reverse.reverse.filterMap id =
      exprs.map fun expr => ⟨expr, 0⟩ := by
    simp [List.filterMap_map]
  unfold Alternatives.close Alternatives.branch Alternatives.gather
  dsimp only
  rw [items]
  simp [Function.comp_def]

/-- A text whose tokens are items without any nesting can be read. -/
theorem read?_flat {tokens : List Token} {exprs : List Expr} (reads : Token.readAll text = some tokens)
    (pushes : List.Forall₂ Pushes tokens exprs) :
    ∃ nested, Nested.read? text = some nested ∧ nested.expr = exprs.foldr .seq .empty := by
  refine ⟨_, ?_, close_flat exprs⟩
  unfold Nested.read?
  rw [reads, Option.bind_some, foldlM_pushes pushes {} rfl, List.append_nil]
  rfl

theorem pushes_literals (text : List Char) :
    List.Forall₂ Pushes (text.map Token.literal) (text.map fun c => Expr.set (.single c)) := by
  rw [List.forall₂_map_left_iff, List.forall₂_map_right_iff, List.forall₂_same]
  exact fun c _ => pushes_literal c

theorem read?_wholeWord (plain : ∀ c ∈ text, Pattern.isMeta c = false) :
    ∃ nested, Nested.read? ("\\b".toList ++ text ++ "\\b".toList) = some nested ∧ nested.expr = wholeWord text := by
  have pushes : List.Forall₂ Pushes (.anchor .wordBoundary :: (text.map Token.literal ++ [.anchor .wordBoundary]))
      (.anchor .wordBoundary :: (text.map (fun c => Expr.set (.single c)) ++ [.anchor .wordBoundary])) :=
    .cons (pushes_anchor _) (List.rel_append (pushes_literals text) (.cons (pushes_anchor _) .nil))
  have whole : (.anchor .wordBoundary :: (text.map (fun c => Expr.set (.single c)) ++ [.anchor .wordBoundary])).foldr
      .seq .empty = wholeWord text := by
    simp [wholeWord, List.foldr_map]
  rw [← whole]
  exact read?_flat (readAll_keyword plain) pushes

end Parsing

section Matching

open Place

/-- Characters in a row match where the text goes on with them. -/
theorem matcher_letters (tail : Expr) (caps : Captures) (rest : Rest) (col : Nat) :
    (text.foldr (fun c expr => Expr.seq (.set (.single c)) expr) tail).matcher (ofColumn line col) caps rest =
      if text <+: line.drop col then tail.matcher (ofColumn line (col + text.length)) caps rest else none := by
  induction text generalizing col with
  | nil => simp
  | cons c text ih =>
      rw [List.foldr_cons, Expr.matcher, Expr.matcher]
      dsimp only
      rcases Nat.lt_or_ge col line.length with inside | ends
      · rw [show (ofColumn line col).rest = _ from List.drop_eq_getElem_cons inside]
        change (if ((line)[col] == c) = true then
          (text.foldr (fun c expr => Expr.seq (.set (.single c)) expr) tail).matcher
            ⟨col + 1, some (line)[col], line.drop (col + 1)⟩ caps rest else none) = _
        have lengths : col + (c :: text).length = col + 1 + text.length := by
          rw [List.length_cons]
          omega
        rw [← ofColumn_succ inside, ih, List.drop_eq_getElem_cons inside]
        simp only [List.cons_prefix_cons, lengths]
        by_cases same : (line)[col] = c
        · simp [same]
        · simp [same, Ne.symm same]
      · rw [show (ofColumn line col).rest = [] from List.drop_of_length_le ends, List.drop_of_length_le ends]
        simp

theorem matchAt?_wholeWord (text line : List Char) (col : Nat) :
    (wholeWord text).matchAt? (ofColumn line col) =
      if (ofColumn line col).satisfies .wordBoundary ∧ text <+: line.drop col ∧
          (ofColumn line (col + text.length)).satisfies .wordBoundary then
        some ⟨ofColumn line col, ofColumn line (col + text.length), []⟩
      else none := by
  unfold Expr.matchAt? wholeWord
  rw [Expr.matcher, Expr.matcher]
  dsimp only
  split
  · rename_i front
    rw [matcher_letters]
    split
    · rename_i within
      simp [Expr.matcher, front, within]
    · rename_i other
      simp [other]
  · rename_i other
    simp [other]

/-- Whether a stretch of a line is between two word boundaries. -/
def isBounded (line : List Char) (start length : Nat) : Bool :=
  (ofColumn line start).satisfies .wordBoundary && (ofColumn line (start + length)).satisfies .wordBoundary

theorem matches_wholeWord {found : Match} (onward : (Place.start line).Onward found.start)
    (matched : (wholeWord text).Matches found) :
    text <+: line.drop found.start.index ∧ found.stop.index = found.start.index + text.length := by
  have here := matched.matched
  rw [onward.eq_column.1, matchAt?_wholeWord] at here
  split at here
  · rename_i holds
    exact ⟨holds.2.1, (congrArg (·.stop.index) (Option.some.inj here)).symm⟩
  · contradiction

/-- A keyword is found on its line if there are boundaries around it. -/
theorem mem_findAll_wholeWord_iff (isRun : IsRun holds line start text) :
    (∃ found ∈ (wholeWord text).findAll line, found.start.index = start) ↔ isBounded line start text.length = true := by
  constructor
  · rintro ⟨found, mem, rfl⟩
    obtain ⟨⟨matched, -⟩, place⟩ := Expr.findAll_matches mem
    rw [place, matchAt?_wholeWord] at matched
    split at matched
    · rename_i holds
      simp [isBounded, holds]
    · contradiction
  · intro bounded
    simp only [isBounded, Bool.and_eq_true] at bounded
    have matched : (wholeWord text).matchAt? (ofColumn line start) =
        some ⟨ofColumn line start, ofColumn line (start + text.length), []⟩ := by
      rw [matchAt?_wholeWord, if_pos ⟨bounded.1, isRun.within, bounded.2⟩]
    refine ⟨_, Expr.mem_findAll ?_ ?_ matched (Nat.le_of_lt isRun.inside), rfl⟩
    · intro found onward matches_
      have filled := List.length_pos_of_ne_nil isRun.filled
      have stop := (matches_wholeWord onward matches_).2
      omega
    · intro found onward matches_ before
      obtain ⟨within, stop⟩ := matches_wholeWord onward matches_
      rw [stop]
      exact isRun.apart within before

/-- Word boundaries are seen around a keyword on a line where the two notions of words are the same. -/
theorem isBounded_of_agree (isRun : IsRun isWordChar line start text)
    (agree : ∀ c ∈ line, Unicode.isWord c = isWordChar c) : isBounded line start text.length = true := by
  have other : ∀ {near : Option Char}, (∀ c ∈ near, c ∈ line ∧ isWordChar c = false) →
      (near.map Unicode.isWord).getD false = false := by
    rintro (_ | c) not
    · rfl
    · exact (agree c (not c rfl).1).trans (not c rfl).2
  have same : ∀ {near : Option Char} {c : Char}, near = some c → c ∈ text →
      (near.map Unicode.isWord).getD false = true := by
    rintro _ c rfl mem
    exact (agree c (List.mem_of_mem_drop (isRun.within.subset mem))).trans (isRun.all c mem)
  obtain ⟨behind, cut⟩ := isRun.within
  have front : (line.drop start).head? = some (text.head isRun.filled) := by
    rw [← cut, List.head?_append_of_ne_nil _ isRun.filled, List.head?_eq_some_head]
  have back : (line.take (start + text.length)).getLast? = some (text.getLast isRun.filled) := by
    rw [List.take_add, ← cut, List.take_left, List.getLast?_append_of_ne_nil _ isRun.filled,
      List.getLast?_eq_some_getLast]
  unfold isBounded satisfies ofColumn
  dsimp only
  rw [other fun c mem => ⟨List.mem_of_mem_take (List.mem_of_getLast? mem), isRun.ends c mem⟩,
    same front (List.head_mem _), same back (List.getLast_mem _),
    other fun c mem => ⟨List.mem_of_mem_drop (List.mem_of_head? mem), isRun.stops c mem⟩]
  rfl

end Matching

end Regex

namespace Buffer

variable {buf : Buffer} {pos : Position} {word : WordAt}

theorem isRun_of_wordAt? (isWord : buf.wordAt? pos = some word) (keyword : word.keyword = true) :
    IsRun isWordChar (buf.line pos.line) word.col word.text := by
  unfold wordAt? at isWord
  dsimp only at isWord
  split at isWord
  · rename_i found
    cases isWord
    exact isRun_of_runAt? found
  · obtain ⟨run, -, rfl⟩ := Option.map_eq_some_iff.1 isWord
    contradiction

end Buffer

namespace Pattern

variable {buf : Buffer} {pos : Position} {word : WordAt}

/-- The pattern of a keyword can be read as its text between two word boundaries. -/
theorem read?_sourceOfWord (isWord : buf.wordAt? pos = some word) (keyword : word.keyword = true) :
    ∃ nested, Regex.Nested.read? (translate (sourceOfWord word)) = some nested ∧
      nested.expr = Regex.wholeWord word.text := by
  have word_ := (Buffer.isRun_of_wordAt? isWord keyword).all
  unfold sourceOfWord
  rw [if_pos keyword, escape_of_isWordChar word_, translate_keyword word_]
  exact Regex.read?_wholeWord fun c mem => isMeta_of_isWordChar (word_ c mem)

theorem expr_of_compile? {source : List Char} {pattern : Pattern} {nested : Regex.Nested}
    (reads : Regex.Nested.read? (translate source) = some nested) (compiled : compile? source = some pattern) :
    pattern.expr = nested.expr := by
  obtain ⟨expr, parsed, rfl⟩ := Option.map_eq_some_iff.1 compiled
  obtain ⟨same, again, -, rfl⟩ := Regex.Expr.parse?_eq_some_iff.1 parsed
  rw [Option.some.inj (reads.symm.trans again)]

end Pattern

namespace Buffer

variable {buf : Buffer} {pattern : Pattern} {pos start : Position} {word : WordAt}

theorem inside_of_wordAt? (isWord : buf.wordAt? pos = some word) (keyword : word.keyword = true) :
    pos.line < buf.lineCount := by
  have inside := (isRun_of_wordAt? isWord keyword).inside
  by_contra outside
  have none : buf.line pos.line = [] := by
    unfold line line?
    rw [List.getElem?_eq_none (Nat.le_of_not_lt outside)]
    rfl
  rw [none] at inside
  contradiction

theorem exists_search (mem : start ∈ buf.matchStarts pattern) (inside : pos.line < buf.lineCount)
    (direction : Direction) :
    ∃ next, buf.search pattern pos direction = some next ∧ next.pos ∈ buf.matchStarts pattern := by
  have finds : buf.search pattern pos direction ≠ none := fun none =>
    (buf.search_eq_none_iff pattern inside).1 none start mem
  obtain ⟨next, found⟩ := Option.ne_none_iff_exists'.1 finds
  refine ⟨next, found, ?_⟩
  rcases buf.first_of_search pattern inside found with first | first
  · exact first.1
  · exact first.2.1

end Buffer

namespace Pane

variable {pane : Pane} {buf : Buffer} {pattern : Pattern} {direction : Direction} {pos start : Position} {word : WordAt}

theorem exists_searchTimes (mem : start ∈ buf.matchStarts pattern) (count : Nat) {from_ : Found}
    (inside : from_.pos.line < buf.lineCount) :
    ∃ found, searchTimes buf pattern direction (count + 1) from_ = some found ∧
      found.pos ∈ buf.matchStarts pattern := by
  induction count generalizing from_ with
  | zero =>
      obtain ⟨next, found, onto⟩ := Buffer.exists_search mem inside direction
      refine ⟨⟨next.pos, from_.wrapped || next.wrapped⟩, ?_, onto⟩
      rw [searchTimes, found]
      rfl
  | succ count ih =>
      obtain ⟨next, found, onto⟩ := Buffer.exists_search mem inside direction
      rw [searchTimes, found]
      exact ih onto.1

theorem matchStart_line (pane : Pane) (pattern : Pattern) : (pane.matchStart pattern).line = pane.cursor.pos.line := by
  unfold matchStart
  dsimp only
  cases found : (pane.buffer.lineMatches pattern pane.cursor.pos.line).find? fun found =>
      pane.cursor.pos.col < found.start.col + found.length with
  | none => rfl
  | some found =>
      have mem := List.mem_of_find?_eq_some found
      unfold Buffer.lineMatches at mem
      obtain ⟨_, -, rfl⟩ := List.mem_map.1 mem
      rfl

/-- A search from any place comes to a match, and no error is said. -/
theorem exists_searchFrom (mem : start ∈ pane.buffer.matchStarts pattern) (inside : pos.line < pane.buffer.lineCount)
    (direction : Direction) (count : Nat) :
    ∃ target next text, pane.searchFrom pattern pos direction count = (some target, next) ∧
      target.pos ∈ pane.buffer.matchStarts pattern ∧ next.message = some ⟨text, false⟩ := by
  have times : max count 1 = max count 1 - 1 + 1 := by omega
  obtain ⟨found, finds, onto⟩ : ∃ found,
      searchTimes pane.buffer pattern direction (max count 1 - 1 + 1) ⟨pos, false⟩ = some found ∧
        found.pos ∈ pane.buffer.matchStarts pattern :=
    exists_searchTimes mem _ inside
  rw [← times] at finds
  unfold searchFrom
  rw [finds]
  exact ⟨_, _, _, rfl, onto, rfl⟩

theorem exists_searchWord (isPattern : Pattern.ofWordAt? pane.buffer pane.cursor.pos = some pattern)
    (mem : start ∈ pane.buffer.matchStarts pattern) (inside : pane.cursor.pos.line < pane.buffer.lineCount)
    (direction : Direction) (count : Option Nat) :
    ∃ target next text, pane.searchWord direction count = (some target, next) ∧
      target.pos ∈ pane.buffer.matchStarts pattern ∧ next.message = some ⟨text, false⟩ := by
  rw [← matchStart_line pane pattern] at inside
  unfold searchWord
  rw [isPattern]
  dsimp only [searchAgain, SearchState.commit]
  refine @exists_searchFrom _ _ _ start ?_ ?_ direction _
  · exact mem
  · exact inside

/-- The pattern of a keyword can be read, and if it compiles, it is found at the keyword just where regular expressions
see word boundaries on either side of it, which they do where they have the same notion of words, and then a search for
the word under the cursor comes to a match. -/
theorem searches_keyword (isWord : buf.wordAt? pos = some word) (keyword : word.keyword = true) :
    (Regex.Nested.read? (Pattern.translate (Pattern.sourceOfWord word))).isSome = true ∧
      ∀ pattern, Pattern.ofWordAt? buf pos = some pattern →
        (word.col ∈ buf.matchColumns pattern pos.line ↔
          Regex.isBounded (buf.line pos.line) word.col word.text.length = true) ∧
        ((∀ c ∈ buf.line pos.line, Unicode.isWord c = isWordChar c) → word.col ∈ buf.matchColumns pattern pos.line) ∧
        (word.col ∈ buf.matchColumns pattern pos.line → ∀ (pane : Pane) (direction : Direction) (count : Option Nat),
          pane.buffer = buf → pane.cursor.pos = pos →
            ∃ target next text, pane.searchWord direction count = (some target, next) ∧
              target.pos ∈ buf.matchStarts pattern ∧ next.message = some ⟨text, false⟩) := by
  have isRun := Buffer.isRun_of_wordAt? isWord keyword
  have inside := Buffer.inside_of_wordAt? isWord keyword
  obtain ⟨nested, reads, whole⟩ := Pattern.read?_sourceOfWord isWord keyword
  refine ⟨Option.isSome_of_eq_some reads, fun pattern isPattern => ?_⟩
  have found : word.col ∈ buf.matchColumns pattern pos.line ↔
      Regex.isBounded (buf.line pos.line) word.col word.text.length = true := by
    have compiled : Pattern.compile? (Pattern.sourceOfWord word) = some pattern := by
      rwa [Pattern.ofWordAt?, isWord, Option.bind_some] at isPattern
    have isExpr := (Pattern.expr_of_compile? reads compiled).trans whole
    rw [← Regex.mem_findAll_wholeWord_iff isRun, ← isExpr]
    simp [Buffer.matchColumns, Pattern.matchesOn]
  refine ⟨found, fun agree => found.2 (Regex.isBounded_of_agree isRun agree), ?_⟩
  rintro mem pane direction count rfl rfl
  have onIt : ⟨pane.cursor.pos.line, word.col⟩ ∈ pane.buffer.matchStarts pattern := ⟨inside, mem⟩
  exact exists_searchWord isPattern onIt inside direction count

/-- The cursor on the blank in front of a keyword with a letter that is not plain. -/
theorem searches_keyword_behind :
    let buf := Buffer.ofText "foo bär".toList
    ∃ pattern, Pattern.ofWordAt? buf ⟨0, 3⟩ = some pattern ∧ 4 ∈ buf.matchColumns pattern 0 ∧
      ∀ (pane : Pane) (direction : Direction) (count : Option Nat), pane.buffer = buf → pane.cursor.pos = ⟨0, 3⟩ →
        ∃ target next text, pane.searchWord direction count = (some target, next) ∧
          target.pos ∈ buf.matchStarts pattern ∧ next.message = some ⟨text, false⟩ := by
  intro buf
  have isWord : buf.wordAt? ⟨0, 3⟩ = some ⟨4, "bär".toList, true⟩ := by decide +kernel
  obtain ⟨pattern, isPattern⟩ := Option.isSome_iff_exists.1
    (show (Pattern.ofWordAt? buf ⟨0, 3⟩).isSome = true by decide +kernel)
  obtain ⟨-, agrees, searches⟩ := (searches_keyword isWord rfl).2 pattern isPattern
  have same : (buf.line 0).all (fun c => Unicode.isWord c == isWordChar c) = true := by decide +kernel
  have onIt := agrees fun c mem => eq_of_beq (List.all_eq_true.1 same c mem)
  exact ⟨pattern, isPattern, onIt, searches onIt⟩

/-- A superscript two is a numeral that belongs to keywords, but not to the words of regular expressions. -/
theorem misses_keyword :
    let buf := Buffer.ofText "x²".toList
    buf.wordAt? ⟨0, 0⟩ = some ⟨0, "x²".toList, true⟩ ∧
      ∃ pattern, Pattern.ofWordAt? buf ⟨0, 0⟩ = some pattern ∧ 0 ∉ buf.matchColumns pattern 0 ∧
        ((showing buf {} 20 5).searchWord .forward none).1 = none ∧
        ((showing buf {} 20 5).searchWord .forward none).2.message =
          some ⟨"E486: Pattern not found: \\<x²\\>".toList, true⟩ := by
  intro buf
  exact ⟨by decide +kernel, ⟨"\\<x²\\>".toList, Regex.wholeWord "x²".toList⟩, by decide +kernel, by decide +kernel,
    by decide +kernel, by decide +kernel⟩

end Pane

end ModalPanes
