import ModalPanes.Proofs.Pane.Landing
import ModalPanes.Proofs.Regex.Advancing

/-!
# Substitutions and prompts

A replacement is a part of the command line, and what it writes is made of itself and of matched text, with
its case changed.  So a substitution stays in the alphabet of the line and of the text, and so does every
text that is typed at a prompt.
-/

namespace ModalPanes

namespace Ex

theorem behind?_subset {front text rest : List Char} (found : behind? front text = some rest) :
    rest ⊆ text := by
  unfold behind? at found
  split at found
  · obtain rfl := Option.some.inj found
    exact List.drop_subset _ _
  · contradiction

theorem address?_subset {text rest : List Char} {address : Address}
    (found : address? text = some (address, rest)) : rest ⊆ text := by
  unfold address? at found
  split at found
  · cases found
    exact List.subset_cons_self _ _
  · cases found
    exact List.subset_cons_self _ _
  · dsimp only at found
    split at found
    · contradiction
    · cases found
      exact List.drop_subset _ _

theorem range_subset (text : List Char) : (range text).2 ⊆ text := by
  unfold range
  split
  · rename_i found
    exact behind?_subset found
  · split
    · rename_i found
      exact behind?_subset found
    · split
      · exact List.Subset.refl _
      · rename_i first rest found
        have shorter := address?_subset found
        split
        · rename_i second later foundSecond
          obtain ⟨middle, comma, foundSecond⟩ := Option.bind_eq_some_iff.1 foundSecond
          exact List.Subset.trans (address?_subset foundSecond)
            (List.Subset.trans (behind?_subset comma) shorter)
        · exact shorter

theorem substituteBody?_subset {text body : List Char} (found : substituteBody? text = some body) :
    body ⊆ text := by
  have front : ∀ {rest}, (behind? "substitute".toList text).or (behind? ['s'] text) = some rest →
      rest ⊆ text := by
    intro rest either
    rcases Option.or_eq_some_iff.1 either with long | ⟨-, short⟩
    · exact behind?_subset long
    · exact behind?_subset short
  unfold substituteBody? at found
  split at found
  · contradiction
  · rename_i named
    cases found
    exact front named
  · rename_i c rest named
    split at found
    · cases found
      exact front named
    · contradiction

theorem splitUnescaped?_subset {delimiter : Char} {text front rest : List Char}
    (found : splitUnescaped? delimiter text = some (front, rest)) : front ⊆ text ∧ rest ⊆ text := by
  fun_induction splitUnescaped? delimiter text generalizing front rest with
  | case1 => contradiction
  | case2 c text ih =>
      obtain ⟨⟨first, second⟩, split, eq⟩ := Option.map_eq_some_iff.1 found
      cases eq
      obtain ⟨firstSubset, restSubset⟩ := ih split
      exact ⟨List.cons_subset_cons _ (List.cons_subset_cons _ firstSubset),
        List.subset_cons_of_subset _ (List.subset_cons_of_subset _ restSubset)⟩
  | case3 c text plain delimited =>
      cases found
      exact ⟨List.nil_subset _, List.subset_cons_self _ _⟩
  | case4 c text plain undelimited ih =>
      obtain ⟨⟨first, second⟩, split, eq⟩ := Option.map_eq_some_iff.1 found
      cases eq
      obtain ⟨firstSubset, restSubset⟩ := ih split
      exact ⟨List.cons_subset_cons _ firstSubset, List.subset_cons_of_subset _ restSubset⟩

theorem unescape_subset (delimiter : Char) (text : List Char) : unescape delimiter text ⊆ text := by
  fun_induction unescape delimiter text with
  | case1 => exact List.Subset.refl _
  | case2 c => exact List.Subset.refl _
  | case3 c d rest escaped ih =>
      obtain ⟨-, rfl⟩ := escaped
      exact List.subset_cons_of_subset _ (List.cons_subset_cons _ ih)
  | case4 c d rest unescaped ih => exact List.cons_subset_cons _ ih

/-- The replacement of a substitution is a part of what was typed. -/
theorem substitution_subset {range lines : LineRange} {body pattern replacement : List Char}
    {flags : SubstituteFlags}
    (parsed : substitution range body = .substitute lines pattern replacement flags) :
    replacement ⊆ body := by
  unfold substitution at parsed
  split at parsed
  · contradiction
  · rename_i delimiter rest
    split at parsed
    · cases parsed
      exact List.nil_subset _
    · rename_i front later found
      have later_subset := (splitUnescaped?_subset found).2
      cases parsed
      refine List.Subset.trans (unescape_subset _ _) (List.subset_cons_of_subset _ ?_)
      cases second : splitUnescaped? delimiter later with
      | none => exact later_subset
      | some parts => exact List.Subset.trans (splitUnescaped?_subset second).1 later_subset

/-- No command but the one for it is a substitution. -/
theorem named?_ne_substitute (name arg : List Char) (lines : LineRange)
    (pattern replacement : List Char) (flags : SubstituteFlags) :
    named? name arg ≠ some (.substitute lines pattern replacement flags) := by
  intro found
  obtain ⟨front, rest, table, -⟩ := List.lookup_eq_some_iff.1 found
  have entry : (String.ofList name, ExCommand.substitute lines pattern replacement flags) ∈
      front ++ (String.ofList name, .substitute lines pattern replacement flags) :: rest := by simp
  rw [← table] at entry
  simp at entry

theorem parse_subset {input pattern replacement : List Char} {lines : LineRange}
    {flags : SubstituteFlags} (parsed : parse input = .substitute lines pattern replacement flags) :
    replacement ⊆ input := by
  have trimmed : Blank.trimEnd (input.dropWhile fun c => c == ' ' || c == ':') ⊆ input := by
    intro c mem
    have kept := List.mem_reverse.1 mem
    have inFront := List.mem_reverse.1 ((List.dropWhile_sublist _).subset kept)
    exact (List.dropWhile_sublist _).subset inFront
  unfold parse at parsed
  dsimp only at parsed
  split at parsed
  · contradiction
  · split at parsed
    · rename_i body found
      refine List.Subset.trans (substitution_subset parsed)
        (List.Subset.trans (substituteBody?_subset found) ?_)
      exact List.Subset.trans (List.dropWhile_sublist _).subset
        (List.Subset.trans (range_subset _) trimmed)
    · split at parsed
      · split at parsed <;> contradiction
      · generalize found : named? _ _ = command at parsed
        cases command with
        | none => cases parsed
        | some command =>
            cases parsed
            exact absurd found (named?_ne_substitute _ _ _ _ _ _)

end Ex

section Texts

variable {alphabet : Alphabet}

theorem CaseChange.spells_apply (change : CaseChange) {c : Char} (has : alphabet.Has c) :
    alphabet.Spells (change.apply c) := by
  cases change with
  | keep => exact .cons has .nil
  | upper => exact alphabet.upper has
  | lower => exact alphabet.lower has

theorem CaseState.spells_write (state : CaseState) {text : List Char}
    (known : alphabet.Spells text) : alphabet.Spells (state.write text).1 := by
  cases text with
  | nil => exact .nil
  | cons c rest =>
      obtain ⟨has, knownRest⟩ := List.forall_mem_cons.1 known
      exact (CaseChange.spells_apply _ has).append
        (.flatMap fun d mem => CaseChange.spells_apply _ (knownRest d mem))

namespace Substitution

theorem spells_expand {group : Nat → List Char} (groups : ∀ n, alphabet.Spells (group n))
    (state : CaseState) {replacement : List Char} (known : alphabet.Spells replacement) :
    alphabet.Spells (expand group state replacement) := by
  have behind : ∀ {c d : Char} {rest : List Char}, alphabet.Spells (c :: d :: rest) →
      alphabet.Has d ∧ alphabet.Spells rest := fun known =>
    List.forall_mem_cons.1 (List.forall_mem_cons.1 known).2
  fun_induction expand group state replacement with
  | case1 => exact .nil
  | case2 state c rest digit written ih =>
      exact (state.spells_write (groups _)).append (ih (behind known).2)
  | case3 state rest _ ih => exact ih (behind known).2
  | case4 state rest _ _ ih => exact ih (behind known).2
  | case5 state rest _ _ _ ih => exact ih (behind known).2
  | case6 state rest _ _ _ _ ih => exact ih (behind known).2
  | case7 state c rest _ _ _ _ _ ending ih => exact ih (behind known).2
  | case8 state c rest _ _ _ _ _ _ written ih =>
      refine (state.spells_write ?_).append (ih (behind known).2)
      refine .cons ?_ .nil
      split
      · exact alphabet.tab
      · exact (behind known).1
  | case9 state c rest _ written ih =>
      obtain ⟨has, knownRest⟩ := List.forall_mem_cons.1 known
      refine (state.spells_write ?_).append (ih knownRest)
      split
      · exact groups 0
      · exact .cons has .nil

theorem spells_group {line : List Char} (known : alphabet.Spells line) {found : Regex.Match}
    (inLine : Regex.Expr.MatchIn line found) (n : Nat) :
    alphabet.Spells (found.group line n) := by
  unfold Regex.Match.group
  split
  · exact (known.of_subset inLine.1.subset).take _
  · split
    · exact (known.take _).drop _
    · exact .nil

theorem spells_replaceFrom {line replacement : List Char} (knownLine : alphabet.Spells line)
    (known : alphabet.Spells replacement) {found : List Regex.Match}
    (inLine : ∀ one ∈ found, Regex.Expr.MatchIn line one) (done : Nat) :
    alphabet.Spells (replaceFrom line replacement done found) := by
  induction found generalizing done with
  | nil => exact knownLine.drop done
  | cons first rest ih =>
      obtain ⟨firstIn, restIn⟩ := List.forall_mem_cons.1 inLine
      exact ((knownLine.drop done).take _).append
        ((spells_expand (spells_group knownLine firstIn) _ known).append (ih restIn _))

theorem spells_onLine {expr : Regex.Expr} {line replacement text : List Char}
    {flags : SubstituteFlags} {count : Nat} (knownLine : alphabet.Spells line)
    (known : alphabet.Spells replacement)
    (done : onLine expr line replacement flags = some (text, count)) :
    alphabet.Spells text := by
  have inLine : ∀ found ∈ matchesFor expr flags line, Regex.Expr.MatchIn line found := by
    intro found mem
    unfold matchesFor at mem
    split at mem
    · exact expr.findAll_in line found mem
    · exact expr.findAll_in line found (List.mem_of_mem_take mem)
  unfold onLine at done
  dsimp only at done
  split at done
  · contradiction
  · split at done
    · cases done
      exact knownLine
    · cases done
      exact spells_replaceFrom knownLine known inLine 0

end Substitution

theorem Prompt.spells_handleKey {prompt : Prompt} (known : alphabet.Spells prompt.line.text)
    {key : Key} (typed : ∀ c ∈ key.typed?, alphabet.Has c) :
    alphabet.Spells (prompt.handleKey key).1.line.text := by
  have inserted : ∀ {c}, alphabet.Has c → alphabet.Spells (prompt.line.insert c).text := fun has =>
    (known.take _).append (.cons has (known.drop _))
  have erased : ∀ start, alphabet.Spells (prompt.line.eraseFrom start).text := fun start =>
    (known.take start).append (known.drop _)
  have backspaced : alphabet.Spells prompt.backspace.1.line.text := by
    unfold Prompt.backspace
    split
    · exact known
    · exact erased _
  unfold Prompt.handleKey
  dsimp only
  split
  · exact erased _
  · split
    · exact erased _
    · split
      · exact known
      · split
        · exact backspaced
        · split
          · exact known
          · exact known
          · exact backspaced
          · exact (known.take _).append (known.drop _)
          · exact known
          · dsimp only [Prompt.edit, InputLine.right]
            split
            · exact known
            · exact known
          · exact known
          · exact known
          · exact inserted alphabet.tab
          · split
            · rename_i c isTyped
              exact inserted (typed c isTyped)
            · exact known

theorem Prompt.eq_of_submit {prompt next : Prompt} {key : Key} {text : List Char}
    (submits : prompt.handleKey key = (next, .submit text)) :
    key.code = .enter ∧ text = prompt.line.text := by
  have noEdit : ∀ line, prompt.edit line ≠ (next, .submit text) := by
    intro line eq
    cases eq
  have noBackspace : prompt.backspace ≠ (next, .submit text) := by
    unfold Prompt.backspace
    split
    · nofun
    · exact noEdit _
  unfold Prompt.handleKey at submits
  dsimp only at submits
  repeat' split at submits
  all_goals first
    | exact absurd submits (noEdit _)
    | exact absurd submits noBackspace
    | (rename_i enter; cases submits; exact ⟨enter, rfl⟩)
    | cases submits

end Texts

namespace Pane

variable {alphabet : Alphabet} {origin pane : Pane}

/-- One line of a substitution: the text is edited, and as long as there was no match, or matches are only
counted, nothing has happened. -/
theorem substituteLine_lands {expr : Regex.Expr} {replacement : List Char} {flags : SubstituteFlags}
    (known : alphabet.Spells replacement) {state : Pane × Tally}
    (edits : Edits alphabet origin state.1)
    (placed : state.2.lastLine = none ∨ flags.countOnly = true → state.1.Placed false) (line : Nat) :
    let next := substituteLine expr replacement flags state line
    Edits alphabet origin next.1 ∧
      (next.2.lastLine = none ∨ flags.countOnly = true → next.1.Placed false) := by
  unfold substituteLine
  dsimp only
  split
  · exact ⟨edits, placed⟩
  · rename_i newText count done
    have newKnown := Substitution.spells_onLine (Buffer.spells_line edits.spelled.text line) known done
    split
    · rename_i countOnly
      exact ⟨edits, fun _ => placed (.inr countOnly)⟩
    · rename_i writes
      refine ⟨edits.replaceText _ newKnown, ?_⟩
      rintro (noMatch | countOnly)
      · contradiction
      · exact absurd countOnly writes

theorem concludeSubstitution_lands (edits : Edits alphabet origin pane) {source : List Char}
    {flags : SubstituteFlags} {tally : Tally}
    (placed : tally.lastLine = none ∨ flags.countOnly = true → pane.Placed false) :
    Lands alphabet origin false (pane.concludeSubstitution source flags tally) := by
  unfold concludeSubstitution
  dsimp only
  split
  · rename_i noMatch
    exact Lands.fail ⟨edits, placed (.inl noMatch)⟩ _
  · split
    · rename_i countOnly
      exact Lands.say ⟨edits, placed (.inr countOnly)⟩ _
    · have jumped := edits.markChange.jumpToLine false
      split
      · exact (jumped _).say _
      · exact jumped _

theorem Lands.substitute (lands : Lands alphabet origin false pane) (range : LineRange)
    (pattern : List Char) {replacement : List Char} (known : alphabet.Spells replacement)
    (flags : SubstituteFlags) :
    Lands alphabet origin false (pane.substitute range pattern replacement flags) := by
  unfold Pane.substitute
  split
  · exact lands.fail _
  · rename_i first last _
    split
    · exact lands.fail _
    · rename_i source _
      split
      · exact lands.fail _
      · rename_i compiled _
        have remembered : ∀ search, Edits alphabet origin
            { pane with search := search, lastSubstitute := some ⟨source, replacement⟩ } :=
          fun search => (lands.edits.remember ⟨source, replacement⟩ known).tidy rfl
        have substituted : ∀ (lines : List Nat) (state : Pane × Tally),
            Edits alphabet origin state.1 →
            (state.2.lastLine = none ∨ flags.countOnly = true → state.1.Placed false) →
              let done := lines.foldl (substituteLine compiled.expr replacement flags) state
              Edits alphabet origin done.1 ∧
                (done.2.lastLine = none ∨ flags.countOnly = true → done.1.Placed false) := by
          intro lines
          induction lines with
          | nil => exact fun _ edits placed => ⟨edits, placed⟩
          | cons line lines ih =>
              intro state edits placed
              obtain ⟨edits, placed⟩ := substituteLine_lands known edits placed line
              exact ih _ edits placed
        have done := fun search => substituted (linesBetween first last) (_, {})
          (remembered search) fun _ => lands.placed
        exact concludeSubstitution_lands (done _).1 (done _).2

namespace Quiet

variable (quiet : origin.Quiet) (lands : Lands alphabet origin false pane)
include quiet lands

theorem submitSearch (text : List Char) (direction : Direction)
    (operator : Option PendingOperator) (count : Option Nat) :
    Ends alphabet origin True (pane.submitSearch text direction operator count) := by
  unfold Pane.submitSearch
  split
  · exact .done (lands.fail _)
  · split
    · exact .done (lands.fail _)
    · rename_i source _ pattern _
      have committed : Lands alphabet origin false
          { pane with search := .commit pattern direction } := lands.tidy ⟨rfl, rfl⟩
      have searched := committed.tidy (searchFrom_idles _ pattern pane.cursor.pos direction
        (count.getD 1))
      dsimp only
      split
      · rename_i other found
        rw [found] at searched
        exact .done (searched.tidy ⟨rfl, rfl⟩)
      · rename_i target other found
        rw [found] at searched
        split
        · have mode : origin.mode.cursorPastEnd = false := by rw [quiet.mode]; rfl
          exact .done (searched.edits.goTo mode target)
        · split
          · exact (searched.edits.operate searched.placed _ _).imp fun _ => trivial
          · exact .done searched

end Quiet

end Pane

end ModalPanes
