import ModalPanes.Text.Object
import ModalPanes.Proofs.Text.Cuts

/-!
# Where text objects lie

The span of a text object starts in the text, and one of whole lines is made of lines that are there.
-/

namespace ModalPanes

namespace Buffer

variable {buf : Buffer} {pos : Position} {c mark : Char} {col x : Nat} {text : List Char}

theorem columnsOf_bounds (mem : x ∈ columnsOf c col text) : col ≤ x ∧ x < col + text.length := by
  induction text generalizing col with
  | nil => cases mem
  | cons d text ih =>
      unfold columnsOf at mem
      rw [List.length_cons]
      split at mem
      · rcases List.mem_cons.1 mem with rfl | mem
        · omega
        · have later := ih mem
          omega
      · have later := ih mem
        omega

theorem mem_of_mem_pairUp {columns : List Nat} {pair : Nat × Nat} (mem : pair ∈ pairUp columns) :
    pair.1 ∈ columns ∧ pair.2 ∈ columns := by
  induction columns using pairUp.induct with
  | case1 first second rest ih =>
      unfold pairUp at mem
      rcases List.mem_cons.1 mem with rfl | mem
      · simp
      · obtain ⟨left, right⟩ := ih mem
        exact ⟨by simp [left], by simp [right]⟩
  | case2 columns short =>
      unfold pairUp at mem
      split at mem
      · exact absurd rfl (short _ _ _)
      · cases mem

theorem quotePair?_bounds {pair : Nat × Nat} (found : buf.quotePair? mark pos = some pair) :
    pair.1 < buf.lineLength pos.line ∧ pair.2 < buf.lineLength pos.line := by
  have mem : pair ∈ pairUp (columnsOf mark 0 (buf.line pos.line)) := by
    rcases Option.or_eq_some_iff.1 found with found | ⟨-, found⟩
    · exact List.mem_of_find?_eq_some found
    · exact List.mem_of_find?_eq_some found
  obtain ⟨left, right⟩ := mem_of_mem_pairUp mem
  have left := columnsOf_bounds left
  have right := columnsOf_bounds right
  rw [Nat.zero_add] at left right
  exact ⟨left.2, right.2⟩

theorem line_lt_of_lineLength (some : 0 < buf.lineLength pos.line) : pos.line < buf.lineCount := by
  by_contra ge
  have none : buf.pieces[pos.line]? = none := List.getElem?_eq_none (Nat.not_lt.1 ge)
  unfold lineLength line line? at some
  rw [none] at some
  contradiction

theorem between_start {p : Position → Prop} {a b : Position} (here : p a) (there : p b) :
    p (Range.between a b).start := by
  unfold Range.between
  split
  · exact here
  · exact there

theorem admits_quoteRange? {around : Bool} {range : Range} (found : buf.quoteRange? mark around pos = some range) :
    buf.Admits true range.start := by
  obtain ⟨pair, quotes, rfl⟩ := Option.map_eq_some_iff.1 found
  obtain ⟨left, right⟩ := quotePair?_bounds quotes
  have inside : pos.line < buf.lineCount := line_lt_of_lineLength (by omega)
  have admits : ∀ col ≤ buf.lineLength pos.line, buf.Admits true (pos.withCol col) := fun col le => ⟨inside, le⟩
  split
  · have behind : (((buf.line pos.line).drop (pair.2 + 1)).takeWhile Unicode.isSpace).length ≤
        buf.lineLength pos.line - (pair.2 + 1) := by
      have short := (List.takeWhile_sublist (l := (buf.line pos.line).drop (pair.2 + 1)) Unicode.isSpace).length_le
      rwa [List.length_drop] at short
    exact between_start (admits _ (by omega)) (admits _ (by omega))
  · exact between_start (admits _ (by omega)) (admits _ (by omega))

theorem admits_indexRange (buf : Buffer) (first last : Nat) :
    buf.Admits true (buf.indexRange first last).start :=
  between_start (buf.admits_positionOf first) (buf.admits_positionOf last)

end Buffer

/-- The span of a text object holds characters from a place of the text on, or lines of the text. -/
theorem TextObject.span?_cases {object : TextObject} {buf : Buffer} {pos : Position} {span : Span}
    (found : object.span? buf pos = some span) :
    (∃ range, span = .chars range ∧ buf.Admits true range.start) ∨
      ∃ first last, span = .lines first last ∧ first ≤ last ∧ last < buf.lineCount := by
  have indices : ∀ {bounds : Option (Nat × Nat)}, bounds.map
      (fun bounds => Span.chars (buf.indexRange bounds.1 bounds.2)) = some span →
        ∃ range, span = .chars range ∧ buf.Admits true range.start := by
    intro bounds found
    obtain ⟨bounds, -, rfl⟩ := Option.map_eq_some_iff.1 found
    exact ⟨_, rfl, buf.admits_indexRange _ _⟩
  obtain ⟨kind, around⟩ := object
  cases kind with
  | word => cases around <;> exact .inl (indices found)
  | bigWord => cases around <;> exact .inl (indices found)
  | quote mark =>
      have found : (buf.quoteRange? mark around pos).map Span.chars = some span := by
        cases around <;> exact found
      obtain ⟨range, quotes, rfl⟩ := Option.map_eq_some_iff.1 found
      exact .inl ⟨range, rfl, Buffer.admits_quoteRange? quotes⟩
  | bracket left right =>
      cases around with
      | true =>
          obtain ⟨pair, -, rfl⟩ := Option.map_eq_some_iff.1 found
          exact .inl ⟨_, rfl, buf.admits_indexRange _ _⟩
      | false =>
          obtain ⟨pair, -, rfl⟩ := Option.map_eq_some_iff.1 found
          have below := (buf.admits_positionOf pair.2).1
          unfold Buffer.bracketInside
          dsimp only
          split
          · rename_i whole
            exact .inr ⟨_, _, rfl, by omega, by omega⟩
          · exact .inl ⟨_, rfl, buf.admits_indexRange _ _⟩

end ModalPanes
