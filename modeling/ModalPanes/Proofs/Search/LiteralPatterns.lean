import ModalPanes.Proofs.Regex.Widening
import ModalPanes.Proofs.Search.WordPatterns

/-!
# Patterns that are found literally

A text is written as a pattern by a backslash in front of every character that would mean something in a pattern, and the
pattern is then written as a regular expression by a backslash in front of every character that would mean something
there.  Wherever a character stands, and whatever follows it, each of the two steps leaves it as a character, so that
the regular expression in the end is the text, character by character.
-/

namespace ModalPanes

variable {c : Char}

namespace Pattern

/-- Behind a backslash a character that would mean something stands for itself. -/
theorem piece_of_isMagic (atStart : Bool) (magic : isMagic c = true) (behind : List Char) :
    piece atStart '\\' (c :: behind) = ⟨literal c, 1, false⟩ := by
  simp only [isMagic, Bool.or_eq_true, beq_iff_eq] at magic
  rcases magic with ((((((((rfl | rfl) | rfl) | rfl) | rfl) | rfl) | rfl) | rfl) | rfl) <;> rfl

theorem piece_of_not_isMagic (atStart : Bool) (plain : isMagic c = false) (behind : List Char) :
    piece atStart c behind = ⟨literal c, 0, false⟩ := by
  simp only [isMagic, Bool.or_eq_false_iff, beq_eq_false_iff_ne] at plain
  unfold piece
  simp [plain]

theorem pieces_escape (atStart : Bool) (text : List Char) :
    pieces atStart (escape text) = text.map fun c => ⟨literal c, if isMagic c then 1 else 0, false⟩ := by
  induction text generalizing atStart with
  | nil =>
      change pieces atStart [] = []
      rw [pieces]
  | cons c text ih =>
      have rest := ih false
      unfold escape at rest ⊢
      rw [List.flatMap_cons, List.map_cons, ← rest]
      cases magic : isMagic c with
      | true =>
          change pieces atStart ('\\' :: c :: _) = _
          rw [pieces, piece_of_isMagic atStart magic]
          rfl
      | false =>
          change pieces atStart (c :: _) = _
          rw [pieces, piece_of_not_isMagic atStart magic]
          rfl

theorem translate_escape (text : List Char) : translate (escape text) = text.flatMap literal := by
  unfold translate
  dsimp only
  rw [pieces_escape]
  simp [List.flatMap_map]

theorem not_request_prefix (text : List Char) : ¬ "(?i)".toList <+: text.flatMap literal := by
  intro request
  cases text with
  | nil => contradiction
  | cons c text =>
      rw [List.flatMap_cons] at request
      unfold literal at request
      split at request
      · cases List.cons_prefix_cons.1 request |>.1
      · rename_i plain
        obtain ⟨rfl, -⟩ := List.cons_prefix_cons.1 request
        exact plain rfl

end Pattern

namespace Regex

open Place

section Reading

/-- Behind a backslash a character that would mean something stands for itself. -/
theorem escape_of_isMeta (isMeta : Pattern.isMeta c = true) (behind : List Char) :
    Token.escape c behind = some (.literal c, 0) := by
  have all : "\\.+*?()|[]\x7b\x7d^$#&-~".toList.all (fun d =>
      Token.namedSet? d == none && Token.control? d == none && Token.isEscapable d) = true := by decide
  have here := List.all_eq_true.1 all c (by simpa [Pattern.isMeta] using isMeta)
  simp only [Bool.and_eq_true, beq_iff_eq] at here
  unfold Token.escape
  simp [here]

theorem readAll_literal (text : List Char) :
    Token.readAll (text.flatMap Pattern.literal) = some (text.map Token.literal) := by
  induction text with
  | nil => rw [List.flatMap_nil, Token.readAll, List.map_nil]
  | cons c text ih =>
      rw [List.flatMap_cons, List.map_cons]
      cases isMeta : Pattern.isMeta c with
      | true =>
          have backslash : Token.read '\\' (c :: text.flatMap Pattern.literal) = some (.literal c, 1) := by
            simp [Token.read, escape_of_isMeta isMeta]
          rw [show Pattern.literal c = ['\\', c] from if_pos isMeta]
          change Token.readAll ('\\' :: c :: text.flatMap Pattern.literal) = _
          rw [Token.readAll, backslash]
          simp [ih]
      | false =>
          rw [show Pattern.literal c = [c] from if_neg (by simp [isMeta])]
          change Token.readAll (c :: text.flatMap Pattern.literal) = _
          rw [Token.readAll, read_of_isMeta isMeta]
          simp [ih]

end Reading

/-- A text as it stands. -/
def verbatim (text : List Char) : Expr := text.foldr (fun c expr => .seq (.set (.single c)) expr) .empty

theorem read?_literal (text : List Char) :
    ∃ nested, Nested.read? (text.flatMap Pattern.literal) = some nested ∧ nested.expr = verbatim text := by
  obtain ⟨nested, reads, whole⟩ := read?_flat (readAll_literal text) (pushes_literals text)
  exact ⟨nested, reads, whole.trans List.foldr_map⟩

section Matching

theorem matchAt?_verbatim (text line : List Char) (col : Nat) :
    (verbatim text).matchAt? (ofColumn line col) =
      if text <+: line.drop col then some ⟨ofColumn line col, ofColumn line (col + text.length), []⟩ else none := by
  unfold Expr.matchAt? verbatim
  rw [matcher_letters]
  split <;> rfl

theorem matches_verbatim {found : Match} (matched : (verbatim text).Matches found)
    (place : found.start = ofColumn line found.start.index) :
    text <+: line.drop found.start.index ∧ found.length = text.length := by
  have here := matched.matched
  rw [place, matchAt?_verbatim] at here
  split at here
  · rename_i within
    have stop := congrArg (·.stop.index) (Option.some.inj here)
    refine ⟨within, ?_⟩
    unfold Match.length
    rw [← stop]
    exact Nat.add_sub_cancel_left ..
  · contradiction

theorem isMatch_verbatim_iff (text line : List Char) : (verbatim text).isMatch line = true ↔ text <:+: line := by
  constructor
  · intro isMatch
    obtain ⟨found, finds⟩ := Option.isSome_iff_exists.1 isMatch
    obtain ⟨onward, matched⟩ := Expr.findFrom?_matches finds
    exact (matches_verbatim matched onward.eq_column.1).1.isInfix.trans (List.drop_suffix ..).isInfix
  · rintro ⟨front, behind, rfl⟩
    have within : text <+: (front ++ text ++ behind).drop front.length := by simp
    have matched := matchAt?_verbatim text (front ++ text ++ behind) front.length
    rw [if_pos within] at matched
    obtain ⟨first, finds, -⟩ := Expr.exists_find? matched (Nat.zero_le _) (by simp)
    exact Option.isSome_iff_exists.2 ⟨first, finds⟩

end Matching

end Regex

namespace Pattern

open Regex

/-- A text that is escaped is matched literally: it is translated character by character, without a request to ignore
case, into what can be read, and if the pattern compiles, it matches a line just if the text stands somewhere in it.
All that is found is the text. -/
theorem escape_matches_literally (text : List Char) :
    (translate (escape text) = text.flatMap literal ∧ ¬ "(?i)".toList <+: translate (escape text)) ∧
      (Nested.read? (translate (escape text))).isSome = true ∧
      ∀ pattern, compile? (escape text) = some pattern → ∀ line,
        (pattern.expr.isMatch line = true ↔ text <:+: line) ∧
          (pattern.matchesOn line ≠ [] ↔ text <:+: line) ∧
          ∀ found ∈ pattern.matchesOn line, text <+: line.drop found.1 ∧ found.2 = text.length := by
  obtain ⟨nested, reads, whole⟩ := read?_literal text
  rw [← translate_escape] at reads
  refine ⟨⟨translate_escape text, translate_escape text ▸ not_request_prefix text⟩,
    Option.isSome_of_eq_some reads, fun pattern compiled line => ?_⟩
  have isExpr := (expr_of_compile? reads compiled).trans whole
  have isMatch := isMatch_verbatim_iff text line
  rw [← isExpr] at isMatch
  refine ⟨isMatch, ?_, fun found mem => ?_⟩
  · unfold matchesOn
    rw [← isMatch, ne_eq, List.map_eq_nil_iff, Expr.findAll_eq_nil_iff, Bool.not_eq_false]
  · obtain ⟨match_, finds, rfl⟩ := List.mem_map.1 mem
    rw [isExpr] at finds
    obtain ⟨matched, place⟩ := Expr.findAll_matches finds
    exact matches_verbatim matched place

/-- A text of signs, most of which mean something in a pattern or in a regular expression. -/
theorem escape_matches_literally_signs :
    let text := "a.b*c[d]\\(?i)".toList
    ∃ pattern, compile? (escape text) = some pattern ∧ pattern.expr.isMatch "xa.b*c[d]\\(?i)y".toList = true ∧
      pattern.matchesOn "xa.b*c[d]\\(?i)y".toList ≠ [] ∧ ¬ pattern.expr.isMatch "aXbbcd".toList = true := by
  intro text
  obtain ⟨-, -, all⟩ := escape_matches_literally text
  obtain ⟨pattern, compiled⟩ := Option.isSome_iff_exists.1
    (show (compile? (escape text)).isSome = true by decide +kernel)
  have within : text <:+: "xa.b*c[d]\\(?i)y".toList := ⟨['x'], ['y'], by decide⟩
  obtain ⟨isMatch, finds, -⟩ := all pattern compiled "xa.b*c[d]\\(?i)y".toList
  exact ⟨pattern, compiled, isMatch.2 within, finds.2 within,
    fun matches_ => absurd ((all pattern compiled _).1.1 matches_) (by decide)⟩

end Pattern

end ModalPanes
