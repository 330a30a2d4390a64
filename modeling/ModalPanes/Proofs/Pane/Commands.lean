import ModalPanes.Proofs.Pane.Coherence

/-!
# Commands of Normal mode keep panes coherent

Every command of Normal mode, and every key that completes one, leaves the parts of the pane fitting
together, whatever its count, its register and the text.
-/

namespace ModalPanes

/-- A key types only characters of an alphabet. -/
def Key.Known (alphabet : Alphabet) (key : Key) : Prop := ∀ c, key.code = .char c → alphabet.Has c

namespace Key.Known

variable {alphabet : Alphabet} {key : Key}

theorem typed (known : key.Known alphabet) : ∀ c ∈ key.typed?, alphabet.Has c := by
  intro c mem
  unfold typed? at mem
  split at mem
  · rename_i d code
    split at mem
    · contradiction
    · obtain rfl := Option.some.inj mem
      exact known _ code
  · contradiction

theorem replacement (known : key.Known alphabet) :
    ∀ c ∈ Pane.replacement? key, alphabet.Has c := by
  intro c mem
  unfold Pane.replacement? at mem
  split at mem
  · obtain rfl := Option.some.inj mem
    exact alphabet.newline
  · obtain rfl := Option.some.inj mem
    exact alphabet.tab
  · exact known.typed c mem

end Key.Known

namespace Pane

variable {alphabet : Alphabet} {origin base pane : Pane}

theorem Acts.pending (spelled : pane.Spelled alphabet) (pending : Option Pending) :
    Acts alphabet pane { pane with pending := pending } :=
  (Acts.refl spelled).steers ⟨rfl, rfl, rfl, rfl, rfl, rfl⟩ { spelled with }

theorem Acts.openPrompt (acts : Acts alphabet origin pane) (kind : PromptKind) {text : List Char}
    (known : alphabet.Spells text) (operator : Option PendingOperator) (count : Option Nat) :
    Acts alphabet origin (pane.openPrompt kind text operator count) := by
  refine acts.steers ⟨rfl, rfl, rfl, rfl, rfl, rfl⟩ { acts.spelled with prompt := fun state mem => ?_ }
  obtain rfl := Option.some.inj mem
  exact known

theorem Acts.exitVisual (spelled : pane.Spelled alphabet) : Acts alphabet pane pane.exitVisual := by
  unfold Pane.exitVisual
  split
  all_goals exact (Acts.refl spelled).steers ⟨rfl, rfl, rfl, rfl, rfl, rfl⟩ { spelled with }

theorem idles_of_digit {next : Pane} {key : Key} (accepted : pane.acceptDigit? key = some next) :
    pane.Idles next := by
  obtain ⟨digit, -, rfl⟩ := Option.map_eq_some_iff.1 accepted
  exact ⟨rfl, rfl⟩

/-- An action that only touches what comes and goes. -/
theorem Acts.tidy (spelled : pane.Spelled alphabet) {next : Pane} (same : next.bare = pane.bare) :
    Acts alphabet pane next :=
  .edits ((Edits.refl spelled).tidy same)

namespace AtRest

section

variable (rest : base.AtRest) (lands : Lands alphabet base false pane)
include rest lands

theorem goes_await {pending : Pending} (fits : pending.InNormal) :
    Goes alphabet base (pane.await pending) :=
  ⟨(rest.after lands).await fits,
    (Acts.edits lands.edits).trans (.pending lands.edits.spelled (some pending))⟩

theorem goes_openPrompt (kind : PromptKind) {text : List Char} (known : alphabet.Spells text)
    (operator : Option PendingOperator) (count : Option Nat) :
    Goes alphabet base (pane.openPrompt kind text operator count) :=
  ⟨(rest.after lands).openPrompt kind text operator count,
    (Acts.edits lands.edits).openPrompt kind known operator count⟩

theorem goes_startInsert (kind : InsertKind) (count : Nat) :
    Goes alphabet base (pane.startInsert kind count) :=
  Ends.goes rest.toQuiet (.typing trivial (lands.widen true) kind count : Ends _ _ True _)

theorem goes_operate (op : Operator) (span : Span) : Goes alphabet base (pane.operate op span) :=
  (lands.edits.operate lands.placed op span).goes rest.toQuiet

theorem goes_operateOnCharsHere (op : Operator) (count : Nat) :
    Goes alphabet base (pane.operateOnCharsHere op count) := by
  unfold Pane.operateOnCharsHere
  exact rest.goes_operate lands _ _

theorem goes_operateOnLinesHere (op : Operator) (count : Nat) :
    Goes alphabet base (pane.operateOnLinesHere op count) :=
  rest.goes_operate lands _ _

theorem goes_move (motion : Motion) (count : Option Nat) :
    Goes alphabet base (pane.move motion count) := by
  have mode : base.mode.cursorPastEnd = false := by rw [rest.mode]; rfl
  exact (lands.move mode motion count).goes rest.toQuiet

theorem goes_operateByMotion (pending : PendingOperator) (motion : Motion) (count : Option Nat) :
    Goes alphabet base (pane.operateByMotion pending motion count) :=
  (rest.operateByMotion lands pending motion count).goes rest.toQuiet

theorem goes_cancel : Goes alphabet base pane.cancelCommand :=
  (rest.cancelCommand lands).goes rest.toQuiet

theorem goes_appendHere (count : Nat) : Goes alphabet base (pane.appendHere count) := by
  have jumped := Lands.ite (0 < pane.buffer.lineLength pane.cursor.pos.line)
    (lands.edits.jump true (pane.cursor.pos.withCol (pane.cursor.pos.col + 1))) (lands.widen true)
  exact Ends.goes rest.toQuiet (.typing trivial jumped .plain count : Ends _ _ True _)

theorem goes_eraseCharsBefore (count : Nat) :
    Goes alphabet base (pane.eraseCharsBefore count) := by
  unfold Pane.eraseCharsBefore
  dsimp only
  split
  · exact rest.goes_operate lands _ _
  · exact lands.goes rest.toQuiet

end

section

variable (rest : pane.AtRest) (spelled : pane.Spelled alphabet)
include rest spelled

theorem landsTaken : Lands alphabet pane false pane.takeCount.2 :=
  ⟨(Edits.refl spelled).tidy rfl, rest.placed⟩

theorem landsDropped : Lands alphabet pane false pane.dropCount :=
  ⟨(Edits.refl spelled).tidy rfl, rest.placed⟩

theorem landsHere : Lands alphabet pane false pane := ⟨.refl spelled, rest.placed⟩

/-- Every command of Normal mode that neither travels in the history nor closes the pane. -/
theorem runNormal (command : Command)
    (ordinary : command ≠ .undo ∧ command ≠ .redo ∧ command ≠ .exitSave ∧ command ≠ .forceQuit) :
    Goes alphabet pane (pane.runNormal command) := by
  have taken := rest.landsTaken spelled
  have dropped := rest.landsDropped spelled
  have here := rest.landsHere spelled
  have quiet := rest.toQuiet
  have mode : pane.mode.cursorPastEnd = false := by rw [rest.mode]; rfl
  unfold Pane.runNormal withTimes withUnrecordedCount withCount
  cases command with
  | motion motion => exact rest.goes_move taken motion _
  | awaitFind find => exact rest.goes_await taken trivial
  | awaitG => exact rest.goes_await taken trivial
  | awaitZ => exact rest.goes_await dropped trivial
  | awaitRegister => exact rest.goes_await here trivial
  | awaitReplace => exact rest.goes_await taken trivial
  | operator op => exact rest.goes_await taken trivial
  | insert => exact rest.goes_startInsert taken _ _
  | append => exact rest.goes_appendHere taken _
  | insertAtLineStart =>
      have moved : Lands alphabet pane true (pane.takeCount.2.moveCursor fun cursor =>
          cursor.toFirstNonBlank pane.takeCount.2.buffer true) :=
        ⟨taken.edits.tidy rfl, Cursor.admits_toFirstNonBlank true rest.placed.1⟩
      exact Ends.goes quiet (.typing trivial moved _ _ : Ends _ _ True _)
  | appendAtLineEnd =>
      have moved : Lands alphabet pane true (pane.takeCount.2.moveCursor fun cursor =>
          cursor.toLineEnd pane.takeCount.2.buffer true) :=
        ⟨taken.edits.tidy rfl, Cursor.admits_toLineEnd true rest.placed.1⟩
      exact Ends.goes quiet (.typing trivial moved _ _ : Ends _ _ True _)
  | openBelow =>
      exact Ends.goes quiet (.typing trivial (taken.edits.openLine true) _ _ : Ends _ _ True _)
  | openAbove =>
      exact Ends.goes quiet (.typing trivial (taken.edits.openLine false) _ _ : Ends _ _ True _)
  | deleteChar => exact rest.goes_operateOnCharsHere taken _ _
  | deleteCharBefore => exact rest.goes_eraseCharsBefore taken _
  | substituteChar => exact rest.goes_operateOnCharsHere taken _ _
  | substituteLine => exact rest.goes_operateOnLinesHere taken _ _
  | yankLine => exact rest.goes_operateOnLinesHere taken _ _
  | deleteToEnd => exact rest.goes_operateByMotion taken _ _ _
  | changeToEnd => exact rest.goes_operateByMotion taken _ _ _
  | putAfter => exact (taken.edits.put taken.placed true _).goes quiet
  | putBefore => exact (taken.edits.put taken.placed false _).goes quiet
  | joinLines => exact (taken.edits.joinLines taken.placed _ _).goes quiet
  | toggleCase => exact (taken.edits.toggleCase taken.placed _).goes quiet
  | replaceMode =>
      exact ⟨(taken.widen true).beginTyping quiet rfl _ _,
        (Acts.edits taken.edits).beginTyping _ _ _⟩
  | undo => exact absurd rfl ordinary.1
  | redo => exact absurd rfl ordinary.2.1
  | visual kind =>
      have resting := quiet.after dropped
      refine ⟨(resting.enterVisual kind).coherent resting.pending, ?_⟩
      exact (Acts.edits dropped.edits).steers ⟨rfl, rfl, rfl, rfl, rfl, rfl⟩ { dropped.edits.spelled with }
  | commandLine =>
      have cancelled : Lands alphabet pane false pane.cancelCommand.cancelRecording :=
        (rest.cancelCommand here).tidy ⟨rfl, rfl⟩
      exact rest.goes_openPrompt cancelled _ .nil _ _
  | search direction =>
      have cancelled : Lands alphabet pane false pane.dropCount.cancelRecording :=
        dropped.tidy ⟨rfl, rfl⟩
      exact rest.goes_openPrompt cancelled _ .nil _ _
  | scroll way => exact (dropped.edits.scroll dropped.placed mode way _).goes quiet
  | exitSave => exact absurd rfl ordinary.2.2.1
  | forceQuit => exact absurd rfl ordinary.2.2.2
  | repeatChange => exact rest.goes_cancel here
  | escape => exact rest.goes_cancel here
  | swapSelectionEnds => exact rest.goes_cancel here
  | blockInsert => exact rest.goes_cancel here
  | blockAppend => exact rest.goes_cancel here

theorem handleOperatorKey (pending : PendingOperator) (key : Key) :
    Goes alphabet pane (pane.handleOperatorKey pending key) := by
  have taken := rest.landsTaken spelled
  have here := rest.landsHere spelled
  unfold Pane.handleOperatorKey
  split
  · rename_i next accepted
    exact rest.goes_await (here.tidy (idles_of_digit accepted)) trivial
  · extract_lets plain merged search byTable
    have onTable : Goes alphabet pane byTable := by
      dsimp only [byTable]
      split
      · exact rest.goes_operateByMotion taken _ _ _
      · exact rest.goes_await taken trivial
      · exact rest.goes_await taken trivial
      · exact rest.goes_cancel here
    split
    · exact onTable
    · split
      · exact rest.goes_operateOnLinesHere taken _ _
      · split
        · exact rest.goes_await here trivial
        · split
          · exact rest.goes_openPrompt taken _ .nil _ _
          · split
            · exact rest.goes_openPrompt taken _ .nil _ _
            · exact onTable

theorem goes_moveOrOperate {next : Pane} (idles : pane.Idles next) (op : Option PendingOperator)
    (motion : Motion) (count : Option Nat) :
    Goes alphabet pane (next.moveOrOperate op motion count) := by
  have lands := (rest.landsHere spelled).tidy idles
  cases op with
  | none => exact rest.goes_move lands motion count
  | some pending => exact rest.goes_operateByMotion lands pending motion count

/-- Every key that completes a pending state of Normal mode, but for those behind `Z`. -/
theorem completePending {pending : Pending} (fits : pending.InNormal) {key : Key}
    (known : key.Known alphabet)
    (ordinary : pending = .z → Keymap.find? Keymap.afterZ key ≠ some .exitSave ∧
      Keymap.find? Keymap.afterZ key ≠ some .forceQuit) :
    Goes alphabet pane (pane.completePending pending key) := by
  have here := rest.landsHere spelled
  have cancelled := rest.goes_cancel here
  have quiet := rest.toQuiet
  unfold Pane.completePending
  cases pending with
  | register =>
      dsimp only
      split
      · apply Lands.goes quiet
        exact here.tidy ⟨rfl, rfl⟩
      · exact cancelled
  | g op count =>
      dsimp only
      split
      · exact rest.goes_moveOrOperate spelled ⟨rfl, rfl⟩ op _ count
      · exact cancelled
  | z =>
      obtain ⟨notSave, notQuit⟩ := ordinary rfl
      dsimp only
      split
      · exact absurd ‹_› notSave
      · exact absurd ‹_› notQuit
      · exact cancelled
  | find find op count =>
      dsimp only
      split
      · apply rest.goes_moveOrOperate spelled
        exact ⟨rfl, rfl⟩
      · exact cancelled
  | replace count =>
      exact (here.edits.replaceChars rest.placed rest.pending known.replacement _).goes quiet
  | operator op => exact rest.handleOperatorKey spelled op key
  | object op around =>
      cases op with
      | none => exact absurd fits id
      | some op =>
          dsimp only
          split
          · unfold selectOrOperate
            dsimp only
            split
            · exact rest.goes_operate here _ _
            · exact cancelled
          · exact cancelled

end

end AtRest

end Pane

end ModalPanes
