import ModalPanes.Proofs.Pane.Rewriting
import ModalPanes.Proofs.Regex.Widening

/-!
# Substitutions that ignore case

A substitution that ignores case writes a request for it in front of the pattern.  The request becomes a switch of the
regular expression, which is wider then.  Behind the request, however, the pattern is no longer at its start, where a
caret is an anchor and a star is a character; all other characters mean the same in both places.
-/

namespace ModalPanes

open Regex

variable {c : Char} {source line replacement : List Char} {flags : SubstituteFlags}

namespace Regex

/-- What reads regular expressions, and finds out whether a line has a match. -/
structure Engine (α : Type) where
  compile? : List Char → Option α
  isMatch : α → List Char → Bool

namespace Engine

/-- A request to ignore case can be put in front of an expression, and only adds matches. -/
def Relaxes {α : Type} (engine : Engine α) (text : List Char) : Prop :=
  ∀ expr, engine.compile? text = some expr →
    ∃ wider, engine.compile? ("(?i)".toList ++ text) = some wider ∧
      ∀ line, engine.isMatch expr line = true → engine.isMatch wider line = true

/-- The one that is used here. -/
def ofExpr : Engine Expr := ⟨Expr.parse?, Expr.isMatch⟩

theorem relaxes_ofExpr {text : List Char}
    (relaxes : ∀ tokens, Token.readAll text = some tokens → ∀ token ∈ tokens, token.Relaxes)
    (fits : ∀ nested, Nested.read? ("(?i)".toList ++ text) = some nested → nested.Fits) : ofExpr.Relaxes text := by
  intro expr parses
  obtain ⟨wider, reads, within⟩ := Expr.exists_ignoringCase parses relaxes
  refine ⟨wider.expr, Expr.parse?_eq_some_iff.2 ⟨wider, reads, fits wider reads, rfl⟩, fun line found => ?_⟩
  exact within.findFrom? found

end Engine

end Regex

namespace Pattern

theorem piece_start (noCaret : c ≠ '^') (noStar : c ≠ '*') (source : List Char) :
    piece true c source = piece false c source := by
  simp [piece, noCaret, noStar]

theorem pieces_start (noCaret : source.head? ≠ some '^') (noStar : source.head? ≠ some '*') :
    pieces true source = pieces false source := by
  cases source with
  | nil => rw [pieces, pieces]
  | cons c source =>
      rw [pieces, pieces, piece_start (by simpa using noCaret) (by simpa using noStar)]

theorem translate_ignoringCase (noCaret : source.head? ≠ some '^') (noStar : source.head? ≠ some '*') :
    translate ("\\c".toList ++ source) =
      if (pieces true source).any Piece.ignoreCase then translate source else "(?i)".toList ++ translate source := by
  have request : pieces true ("\\c".toList ++ source) = ⟨[], 1, true⟩ :: pieces true source := by
    rw [pieces_start noCaret noStar]
    change pieces true ('\\' :: 'c' :: source) = _
    rw [pieces]
    rfl
  unfold translate
  dsimp only
  rw [request, List.any_cons, Bool.true_or, if_pos rfl, List.flatMap_cons, List.nil_append]
  cases (pieces true source).any Piece.ignoreCase <;> rfl

end Pattern

namespace Substitution

theorem hits_iff {expr : Expr} : hits expr replacement flags line = true ↔ expr.findAll line ≠ [] := by
  unfold hits onLine matchesFor
  cases flags.global <;> cases flags.countOnly <;> cases expr.findAll line <;> simp

/-- To ignore case only adds matches, for a pattern that does not start with a caret or a star.  Whatever reads regular
expressions, if it takes a request to ignore case in front of this one and finds no less then, the pattern is accepted
with the flag, and found wherever it is found without.  So it is here where each set of characters in the pattern
grows: the pattern can be read with the flag, and if it compiles, a substitution hits every line that it hits
otherwise. -/
theorem relaxes_case (noCaret : source.head? ≠ some '^') (noStar : source.head? ≠ some '*') :
    (∀ {α : Type} (engine : Engine α) (expr : α), engine.Relaxes (Pattern.translate source) →
      engine.compile? (Pattern.translate source) = some expr →
        ∃ wider, engine.compile? (Pattern.translate ("\\c".toList ++ source)) = some wider ∧
          ∀ line, engine.isMatch expr line = true → engine.isMatch wider line = true) ∧
    ∀ pattern, patternFor? source { flags with ignoreCase := false } = some pattern →
      (∀ tokens, Token.readAll (Pattern.translate source) = some tokens → ∀ token ∈ tokens, token.Relaxes) →
        (Nested.read? (Pattern.translate ("\\c".toList ++ source))).isSome = true ∧
          ∀ wider, patternFor? source { flags with ignoreCase := true } = some wider →
            ∀ line replacement, hits pattern.expr replacement { flags with ignoreCase := false } line = true →
              hits wider.expr replacement { flags with ignoreCase := true } line = true := by
  have translated := Pattern.translate_ignoringCase noCaret noStar
  constructor
  · intro α engine expr relaxes compiled
    rw [translated]
    split
    · exact ⟨expr, compiled, fun _ found => found⟩
    · exact relaxes expr compiled
  · intro pattern compiled relaxes
    obtain ⟨expr, parses, rfl⟩ := Option.map_eq_some_iff.1 compiled
    obtain ⟨nested, reads, within⟩ :
        ∃ nested, Nested.read? (Pattern.translate ("\\c".toList ++ source)) = some nested ∧
          ∀ line, expr.findAll line ≠ [] → nested.expr.findAll line ≠ [] := by
      rw [translated]
      split
      · obtain ⟨nested, reads, -, rfl⟩ := Expr.parse?_eq_some_iff.1 parses
        exact ⟨nested, reads, fun _ found => found⟩
      · obtain ⟨nested, reads, within⟩ := Expr.exists_ignoringCase parses relaxes
        exact ⟨nested, reads, fun _ found => within.findAll found⟩
    refine ⟨Option.isSome_of_eq_some reads, fun wider accepted line replacement found => ?_⟩
    obtain ⟨expr', parsed, rfl⟩ := Option.map_eq_some_iff.1 accepted
    obtain ⟨same, again, -, rfl⟩ := Expr.parse?_eq_some_iff.1 parsed
    obtain rfl : nested = same := Option.some.inj (reads.symm.trans again)
    exact hits_iff.2 (within line (hits_iff.1 found))

/-- A character and a set of characters. -/
theorem relaxes_case_in_brackets :
    ∃ expr pattern wider, Engine.ofExpr.compile? (Pattern.translate "b[a-c]".toList) = some expr ∧
      (∃ more, Engine.ofExpr.compile? (Pattern.translate ("\\c".toList ++ "b[a-c]".toList)) = some more ∧
        ∀ line, Engine.ofExpr.isMatch expr line = true → Engine.ofExpr.isMatch more line = true) ∧
      patternFor? "b[a-c]".toList {} = some pattern ∧
      patternFor? "b[a-c]".toList { ignoreCase := true } = some wider ∧
      ∀ line replacement, hits pattern.expr replacement {} line = true →
        hits wider.expr replacement { ignoreCase := true } line = true := by
  obtain ⟨expr, parses⟩ := Option.isSome_iff_exists.1
    (show (Engine.ofExpr.compile? (Pattern.translate "b[a-c]".toList)).isSome = true by decide +kernel)
  obtain ⟨pattern, compiled⟩ := Option.isSome_iff_exists.1
    (show (patternFor? "b[a-c]".toList {}).isSome = true by decide +kernel)
  obtain ⟨wider, ignores⟩ := Option.isSome_iff_exists.1
    (show (patternFor? "b[a-c]".toList { ignoreCase := true }).isSome = true by decide +kernel)
  have read : Token.readAll (Pattern.translate "b[a-c]".toList) =
      some [.literal 'b', .bracket false (.items (.union .empty (.range 'a' 'c')))] := by decide +kernel
  have grow : ∀ tokens, Token.readAll (Pattern.translate "b[a-c]".toList) = some tokens →
      ∀ token ∈ tokens, token.Relaxes := by
    intro tokens found
    obtain rfl := Option.some.inj (read.symm.trans found)
    exact List.forall_mem_cons.2 ⟨trivial, List.forall_mem_singleton.2 (Token.relaxes_items _)⟩
  have small : (Nested.read? ("(?i)".toList ++ Pattern.translate "b[a-c]".toList)).all (decide ·.Fits) = true := by
    decide +kernel
  have relaxes : Engine.ofExpr.Relaxes (Pattern.translate "b[a-c]".toList) := by
    refine Engine.relaxes_ofExpr grow fun nested found => ?_
    rw [found, Option.all_some, decide_eq_true_eq] at small
    exact small
  obtain ⟨any, here⟩ := @relaxes_case "b[a-c]".toList {} (by decide) (by decide)
  exact ⟨expr, pattern, wider, parses, any Engine.ofExpr expr relaxes parses, compiled, ignores,
    (here pattern compiled grow).2 wider ignores⟩

/-- When case is ignored, a caret in front of a pattern is a character to be found, and a star there has nothing to
repeat. -/
theorem anchored_misses_without_case :
    (∃ pattern wider, patternFor? "^a".toList {} = some pattern ∧
      patternFor? "^a".toList { ignoreCase := true } = some wider ∧
      hits pattern.expr ['X'] {} "abc".toList = true ∧
      hits wider.expr ['X'] { ignoreCase := true } "abc".toList = false) ∧
    (patternFor? "*b".toList {}).isSome = true ∧ patternFor? "*b".toList { ignoreCase := true } = none := by
  obtain ⟨pattern, compiled⟩ := Option.isSome_iff_exists.1
    (show (patternFor? "^a".toList {}).isSome = true by decide +kernel)
  obtain ⟨wider, ignores⟩ := Option.isSome_iff_exists.1
    (show (patternFor? "^a".toList { ignoreCase := true }).isSome = true by decide +kernel)
  have found : (patternFor? "^a".toList {}).all fun pattern => hits pattern.expr ['X'] {} "abc".toList := by
    decide +kernel
  have missed : (patternFor? "^a".toList { ignoreCase := true }).all fun wider =>
      !hits wider.expr ['X'] { ignoreCase := true } "abc".toList := by decide +kernel
  rw [compiled, Option.all_some] at found
  rw [ignores, Option.all_some, Bool.not_eq_true'] at missed
  exact ⟨⟨pattern, wider, compiled, ignores, found, missed⟩, by decide +kernel, by decide +kernel⟩

end Substitution

end ModalPanes
