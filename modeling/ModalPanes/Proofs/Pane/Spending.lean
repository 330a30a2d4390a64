import ModalPanes.Proofs.Pane.Repeating
import ModalPanes.Proofs.Pane.SelectionClearing

/-!
# Nothing is left for the next command

What one key leaves of a count and a register is put together for all modes, and for the changes that are
repeated within one another.  So a pane that has come to rest is idle, if the key that brought it there had
a use for what was typed in front of it, or dropped it.
-/

namespace ModalPanes

namespace Pane

variable {pane next : Pane} {key : Key}

/-- Typing goes on or ends with whatever was there when it began. -/
theorem handleTyping_leaves (prompt : pane.prompt = none) (typing : pane.mode.isTyping = true)
    (tidy : pane.prefixes.Tidy) (key : Key) : pane.Leaves key (pane.handleTyping key) := by
  have same := prefixes_handleTyping pane key
  have keepsCount : pane.keepsCount key = true := by simp [Pane.keepsCount, typing]
  have keepsRegister : pane.keepsRegister key = true := by
    unfold Pane.keepsRegister
    cases mode : pane.mode <;> simp_all [Mode.isTyping]
  refine ⟨same ▸ tidy, fun _ _ _ spends => ?_⟩
  refine ⟨(congrArg Prefixes.count same :).trans ?_, (congrArg Prefixes.register same :).trans ?_⟩
  · exact spends.count.resolve_right (by simp [keepsCount])
  · exact spends.register.resolve_right (by simp [keepsRegister])

/-- What any key leaves that does not repeat the last change. -/
theorem Coherent.leaves (coherent : pane.Coherent) (tidy : pane.prefixes.Tidy)
    (other : pane.runsRepeat key = false) {again : Option Nat → Pane → Option Pane}
    (handed : Pane.dispatchWith again key pane = some next) : pane.Leaves key next := by
  unfold Pane.dispatchWith at handed
  cases coherent with
  | normal rest awaited =>
      have prompt : pane.prompt = none := rest.prompt
      have mode : pane.mode = .normal := rest.mode
      rw [prompt, mode] at handed
      dsimp only [handleNormal] at handed
      cases waits : pane.pending with
      | some pending =>
          rw [waits] at handed
          obtain rfl := Option.some.inj handed
          exact handlePending_leaves prompt mode tidy waits (awaited pending waits) key
      | none =>
          rw [waits] at handed
          cases digit : pane.acceptDigit? key with
          | some counted =>
              rw [digit] at handed
              obtain rfl := Option.some.inj handed
              obtain ⟨value, -, rfl⟩ := Option.map_eq_some_iff.1 digit
              refine ⟨.of_idle waits prompt, fun _ _ _ spends => ?_⟩
              have typed := spends.digit
              simp [readsDigit, prompt, mode, waits, digit] at typed
          | none =>
              rw [digit] at handed
              cases found : Keymap.findOrMotion? Keymap.normal key with
              | none =>
                  rw [found] at handed
                  obtain rfl := Option.some.inj handed
                  exact .of_cancel _
              | some command =>
                  have ordinary : command ≠ .repeatChange := by
                    rintro rfl
                    simp [runsRepeat, prompt, mode, waits, digit, found] at other
                  rw [found] at handed
                  have run : next = pane.runNormal command := by
                    split at handed <;> simp_all
                  exact run ▸ runNormal_leaves prompt mode waits found
  | typing mode session quiet placed =>
      have prompt : pane.prompt = none := quiet.prompt
      have handled : next = pane.handleTyping key := by
        rw [prompt] at handed
        cases isMode : pane.mode <;> simp_all [Mode.isTyping]
      subst handled
      exact handleTyping_leaves prompt mode tidy key
  | visual selecting awaited =>
      obtain ⟨kind, mode⟩ := selecting.mode
      rw [selecting.prompt, mode] at handed
      obtain rfl := Option.some.inj handed
      exact handleVisual_leaves selecting.prompt mode awaited key
  | prompting state mode prompt rest =>
      rw [prompt] at handed
      obtain rfl := Option.some.inj handed
      exact handlePromptKey_leaves prompt tidy key

section Repeating

theorem Coherent.tidy_handOut (coherent : pane.Coherent) (tidy : pane.prefixes.Tidy)
    {again : Option Nat → Pane → Option Pane}
    (repeats : ∀ {count : Option Nat} {pane next : Pane},
      pane.AtRest → again count pane = some next → next.prefixes.Tidy)
    (handed : Pane.dispatchWith again key pane = some next) : next.prefixes.Tidy := by
  have known : key.Known .every := fun _ _ => trivial
  rcases coherent.dispatchWith pane.spelled_every known again with ⟨-, rest, same⟩ | ⟨other, -⟩
  · have dropped : pane.dropCount.AtRest := { rest with }
    exact repeats dropped (same.symm.trans handed)
  · exact (coherent.leaves tidy other handed).tidy

theorem AtRest.tidy_repeatChange (rest : pane.AtRest) {step : Key → Pane → Option Pane}
    (steps : ∀ {key : Key} {pane next : Pane}, pane.Coherent → pane.prefixes.Tidy →
      step key pane = some next → next.Coherent ∧ next.prefixes.Tidy)
    {count : Option Nat} (repeated : Pane.repeatChange step count pane = some next) :
    next.prefixes.Tidy := by
  unfold Pane.repeatChange at repeated
  split at repeated
  · obtain rfl := Option.some.inj repeated
    exact .of_idle rest.pending rest.prompt
  · obtain ⟨last, done, rfl⟩ := Option.map_eq_some_iff.1 repeated
    have replayed : last.Coherent ∧ last.prefixes.Tidy := by
      refine foldlM_keeps (fun kept => steps kept.1 kept.2) ⟨?_, ?_⟩ done
      · exact AtRest.coherent { rest with }
      · exact .of_idle rest.pending rest.prompt
    exact replayed.2

/-- A count stays in front of a command or behind an operator, however deep repetitions are nested. -/
theorem Coherent.tidy_dispatch (coherent : pane.Coherent) (tidy : pane.prefixes.Tidy) {depth : Nat}
    (handed : Pane.dispatch depth key pane = some next) : next.prefixes.Tidy := by
  induction depth generalizing key pane next with
  | zero =>
      refine coherent.tidy_handOut tidy (fun rest repeated => rest.tidy_repeatChange ?_ repeated) handed
      exact fun _ _ none => nomatch none
  | succ depth ih =>
      refine coherent.tidy_handOut tidy (fun rest repeated => rest.tidy_repeatChange ?_ repeated) handed
      exact fun coherent tidy handed => ⟨coherent.dispatch handed, ih coherent tidy handed⟩

end Repeating

theorem prefixes_settle (pane : Pane) : pane.settle.prefixes = pane.prefixes := by
  obtain ⟨recorder, view, eq, -⟩ := settle_eq pane
  rw [eq]
  rfl

theorem prefixes_resize (pane : Pane) (width height : Nat) :
    (pane.resize width height).prefixes = pane.prefixes := by
  unfold resize
  split <;> rfl

theorem Reached.tidy (reached : Reached pane) : pane.prefixes.Tidy := by
  induction reached with
  | start buffer options width height => exact .of_count rfl
  | @key pane next reached depth key handled ih =>
      obtain ⟨last, handed, rfl⟩ := Option.map_eq_some_iff.1 handled
      have recorded : (pane.record key).Coherent := reached.invariant.1.recorded _
      rw [prefixes_settle]
      exact recorded.tidy_dispatch ih handed
  | resize reached width height ih =>
      rw [prefixes_resize]
      exact ih

theorem Replays.tidy {keys : List Key} (replays : Replays pane keys next) (coherent : pane.Coherent)
    (tidy : pane.prefixes.Tidy) : next.prefixes.Tidy := by
  induction replays with
  | nil pane => exact tidy
  | cons other handed rest ih =>
      have first := handed fun _ _ => none
      have fits := (Replays.cons other handed (.nil _)).coherent coherent
      exact ih fits (coherent.leaves tidy other first).tidy

/-- What was typed of a count and a register is used or dropped by the key, or by the last key of the change
that it repeats. -/
inductive Finishes : Pane → Key → Prop where
  | alone {pane : Pane} {key : Key} (other : pane.runsRepeat key = false) (spends : pane.Spends key) :
      Finishes pane key
  | nothing {pane : Pane} {key : Key} (repeats : pane.runsRepeat key = true)
      (last : pane.recorder.last = none) (register : pane.register = none) : Finishes pane key
  | change {pane middle : Pane} {key final : Key} {front : List Key} {count : Option Nat}
      (repeats : pane.runsRepeat key = true) (last : pane.recorder.last = some ⟨front ++ [final], count⟩)
      (played : Replays ((pane.record key).replayOf ⟨front ++ [final], count⟩) front middle)
      (other : middle.runsRepeat final = false) (spends : middle.Spends final) : Finishes pane key

theorem Spends.record (spends : pane.Spends key) : (pane.record key).Spends key where
  digit := by
    have typed := spends.digit
    simp only [readsDigit, acceptDigit?, Option.isSome_map] at typed ⊢
    exact typed
  name := spends.name
  count := spends.count
  register := spends.register

theorem repeat_leaves {front : List Key} {final : Key} {count : Option Nat} {middle : Pane}
    (coherent : pane.Coherent) (repeats : pane.runsRepeat key = true)
    (last : pane.recorder.last = some ⟨front ++ [final], count⟩)
    (played : Replays (pane.replayOf ⟨front ++ [final], count⟩) front middle)
    (other : middle.runsRepeat final = false) {depth : Nat}
    (handed : dispatch depth key pane = some next) :
    ∃ done, middle.Leaves final done ∧ next = done.replayed := by
  have rest : pane.AtRest := by
    have known : key.Known .every := fun _ _ => trivial
    rcases coherent.dispatchWith pane.spelled_every known fun _ _ => none with ⟨-, rest, -⟩ | ⟨other, -⟩
    · exact rest
    · rw [repeats] at other
      contradiction
  have start : (pane.replayOf ⟨front ++ [final], count⟩).AtRest := { rest with }
  have fits : middle.Coherent := played.coherent start.coherent
  have tidy : middle.prefixes.Tidy := played.tidy start.coherent (.of_idle rest.pending rest.prompt)
  cases depth with
  | zero =>
      unfold dispatch at handed
      rw [dispatchWith_of_repeat repeats, repeatChange_eq last] at handed
      cases front <;> cases handed
  | succ depth =>
      obtain ⟨again, eq⟩ := exists_dispatchWith depth
      unfold dispatch at handed
      rw [dispatchWith_of_repeat repeats, repeatChange_eq last, eq] at handed
      rw [List.foldlM_append, played.foldlM again] at handed
      obtain ⟨done, finished, rfl⟩ := Option.map_eq_some_iff.1 handed
      have finished : dispatchWith again final middle = some done := by simpa using finished
      exact ⟨done, fits.leaves tidy other finished, rfl⟩

/-- When a key is done with a command, neither a count nor a register is left for the next one. -/
theorem Reached.leaves_no_prefix (reached : Reached pane) {depth : Nat}
    (handled : handleKeyWithin depth key pane = some next) (finishes : pane.Finishes key)
    (mode : next.mode = .normal) (pending : next.pending = none) (prompt : next.prompt = none) :
    next.count = none ∧ next.register = none ∧ next.isIdle = true := by
  suffices spent : next.count = none ∧ next.register = none by
    refine ⟨spent.1, spent.2, ?_⟩
    simp [isIdle, mode, pending, prompt, spent.1, spent.2]
  have coherent : (pane.record key).Coherent := reached.invariant.1.recorded _
  obtain ⟨last, handed, rfl⟩ := Option.map_eq_some_iff.1 handled
  have same := prefixes_settle last
  have waits : last.pending = none := (congrArg Prefixes.pending same :).symm.trans pending
  have asks : last.prompt = none := (congrArg Prefixes.prompt same :).symm.trans prompt
  have rests : last.mode = .normal := by
    obtain ⟨recorder, view, eq, -⟩ := settle_eq last
    rw [eq] at mode
    exact mode
  suffices spent : last.count = none ∧ last.register = none from
    ⟨(congrArg Prefixes.count same :).trans spent.1, (congrArg Prefixes.register same :).trans spent.2⟩
  cases finishes with
  | alone other spends =>
      rw [← runsRepeat_record] at other
      obtain ⟨again, eq⟩ := exists_dispatchWith depth
      rw [eq] at handed
      exact (coherent.leaves reached.tidy other handed).spent rests waits asks spends.record
  | nothing repeats none register =>
      rw [← runsRepeat_record] at repeats
      have unchanged : last = (pane.record key).dropCount := by
        have nothing := (pane.record_last key).trans none
        cases depth <;>
          simpa [dispatch, dispatchWith_of_repeat repeats, repeatChange, dropCount, nothing] using handed.symm
      exact unchanged ▸ ⟨rfl, register⟩
  | change repeats stored played other spends =>
      rw [← runsRepeat_record] at repeats
      have stored := (pane.record_last key).trans stored
      obtain ⟨done, leaves, rfl⟩ := repeat_leaves coherent repeats stored played other handed
      exact leaves.spent rests waits asks spends

/-- A count and the name of a register are spent on the repetition of a change. -/
theorem leaves_no_prefix_repeated :
    let pane := typedInto "one two three".toList [.char 'd', .char 'w', .char '2', .char '"', .char 'a']
    Reached pane ∧ pane.count = some 2 ∧ pane.register = some 'a' ∧ pane.Finishes (.char '.') ∧
      ∃ next, handleKeyWithin 1 (.char '.') pane = some next ∧
        next.mode = .normal ∧ next.pending = none ∧ next.prompt = none ∧
          next.count = none ∧ next.register = none ∧ next.isIdle = true := by
  intro pane
  have reached : Reached pane := reached_typedInto _ _
  let change : RecordedChange := ⟨[.char 'd'] ++ [.char 'w'], none⟩
  have finishes : pane.Finishes (.char '.') := by
    have others : ∀ key ∈ [Key.char 'd'], Keymap.findOrMotion? Keymap.normal key ≠ some .repeatChange := by
      decide +kernel
    obtain ⟨middle, played⟩ := (Retypes.of_others others ((pane.record (.char '.')).replayOf change)).replays
    have facts : ∀ middle ∈ [Key.char 'd'].foldlM
        (fun pane key => dispatchWith (fun _ _ => none) key pane)
        ((pane.record (.char '.')).replayOf change),
        middle.runsRepeat (.char 'w') = false ∧ middle.readsDigit (.char 'w') = false ∧
          middle.readsName (.char 'w') = false ∧ middle.keepsCount (.char 'w') = false ∧
            middle.keepsRegister (.char 'w') = false := by
      decide +kernel
    obtain ⟨other, digit, name, count, register⟩ := facts middle (played.foldlM _)
    exact .change (by decide +kernel) (by decide +kernel) played other
      ⟨digit, name, .inr count, .inr register⟩
  have rests : ∀ next ∈ handleKeyWithin 1 (.char '.') pane,
      next.mode = .normal ∧ next.pending = none ∧ next.prompt = none := by
    decide +kernel
  have ends : (handleKeyWithin 1 (.char '.') pane).isSome = true := by decide +kernel
  obtain ⟨next, handled⟩ := Option.isSome_iff_exists.1 ends
  obtain ⟨mode, pending, prompt⟩ := rests next handled
  exact ⟨reached, by decide +kernel, by decide +kernel, finishes, next, handled, mode, pending, prompt,
    reached.leaves_no_prefix handled finishes mode pending prompt⟩

/-- A count behind an operator is left over when a text object completes it, and a register is when the
cursor moves. -/
theorem prefix_left_over :
    let counted := typedInto "one two three".toList [.char 'd', .char '3', .char 'i']
    let erased := counted.handleKey (.char 'w')
    let named := typedInto "one two three".toList [.char '"', .char 'a']
    let moved := named.handleKey (.char 'w')
    (Reached counted ∧ counted.readsDigit (.char 'w') = false ∧ counted.readsName (.char 'w') = false ∧
      erased.mode = .normal ∧ erased.pending = none ∧ erased.prompt = none ∧ erased.count = some 3) ∧
      Reached named ∧ named.readsDigit (.char 'w') = false ∧ named.readsName (.char 'w') = false ∧
        moved.mode = .normal ∧ moved.pending = none ∧ moved.prompt = none ∧ moved.register = some 'a' := by
  intro counted erased named moved
  exact ⟨⟨reached_typedInto _ _, by decide +kernel, by decide +kernel, by decide +kernel, by decide +kernel,
      by decide +kernel, by decide +kernel⟩,
    reached_typedInto _ _, by decide +kernel, by decide +kernel, by decide +kernel, by decide +kernel,
    by decide +kernel, by decide +kernel⟩

end Pane

end ModalPanes
