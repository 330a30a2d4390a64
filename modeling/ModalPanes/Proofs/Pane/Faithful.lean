import ModalPanes.Proofs.Pane.Recording

/-!
# Panes with a faithful history

A pane is faithful if its parts fit together, everything in it is plain text and its history tracks the
text.  A new pane that shows a plain text is faithful, and a plain key that does not repeat the last change
keeps it so: whatever turn the key takes gives out no number, and settling gives out the one of the change
that the key ends.
-/

namespace ModalPanes

theorem History.current_of_not_open {history : History} (closed : history.isOpen = false) :
    history.current = none := by
  simpa [isOpen] using closed

namespace Pane

open History (Tracks textsAfter)

variable {texts : Nat → List Char} {pane next : Pane} {key : Key}

/-- Everything about a pane that its history has to do with is in order; `texts` has the texts at which
the steps were committed. -/
structure Faithful (texts : Nat → List Char) (pane : Pane) : Prop where
  coherent : pane.Coherent
  spelled : pane.Spelled .plain
  /-- Between keys a step is under way only while typing. -/
  closed : pane.history.isOpen = true → pane.mode.cursorPastEnd = true
  recorded : ∃ base, pane.Recorded texts base

theorem faithful_showing {buffer : Buffer} (plain : Plain buffer.text) (options : Options)
    (width height : Nat) :
    (showing buffer options width height).Faithful fun _ => buffer.text where
  coherent := (Reached.start buffer options width height).invariant.1
  spelled :=
    { text := plain
      registers :=
        { unnamed := .nil
          named := fun _ mem => (List.eq_of_mem_replicate mem) ▸ .nil }
      insert := nofun
      prompt := nofun
      replacement := nofun }
  closed := nofun
  recorded :=
    ⟨buffer.text,
      { done := .nil plain
        undone := .nil
        closed := fun _ => rfl
        underWay := nofun
        numbered := nofun
        ascending := List.pairwise_singleton _ _ }⟩

/-- Outside of typing no step is under way. -/
theorem Faithful.current (faithful : pane.Faithful texts) (idle : pane.mode.cursorPastEnd = false) :
    pane.history.current = none := by
  refine History.current_of_not_open (Bool.eq_false_iff.2 fun isOpen => ?_)
  rw [faithful.closed isOpen] at idle
  contradiction

/-- How a pane is shown and what is recorded of its commands do not matter. -/
theorem Faithful.reframe (faithful : pane.Faithful texts) (recorder : Recorder)
    (width height : Nat) (view : View) (closing : Bool) :
    Faithful texts
      { pane with
        recorder := recorder
        width := width
        height := height
        view := view
        closing := closing } where
  coherent := faithful.coherent.around pane.history pane.buffer.modified recorder width height view
    closing
  spelled := { faithful.spelled with }
  closed := faithful.closed
  recorded := faithful.recorded

/-- What a key comes to before the pane settles. -/
structure Arrives (texts : Nat → List Char) (key : Key) (origin next : Pane) : Prop where
  turn : Turn .plain key origin next
  coherent : next.Coherent
  spelled : next.Spelled .plain
  recorded : ∃ base, next.Recorded texts base
  lastId : next.history.lastId = origin.history.lastId

theorem Faithful.dropCount (faithful : pane.Faithful texts) (rest : pane.AtRest) :
    pane.dropCount.Faithful texts where
  coherent := AtRest.coherent { rest with }
  spelled := { faithful.spelled with }
  closed := faithful.closed
  recorded := faithful.recorded

/-- Going back or forth from rest, where no step is under way. -/
theorem Faithful.revisit (faithful : pane.Faithful texts) (rest : pane.AtRest)
    {step : History → Buffer → Option Position × History × Buffer}
    {move : History → Nat → History} (way : History.Way step move) (count : Nat) :
    (pane.revisit step count).Spelled .plain ∧
      (∃ base, (pane.revisit step count).Recorded texts base) ∧
        (pane.revisit step count).history.lastId = pane.history.lastId := by
  have closed : pane.history.current = none := faithful.current (by rw [rest.mode]; rfl)
  obtain ⟨base, recorded⟩ := faithful.recorded
  obtain ⟨led, recordedAfter⟩ := recorded.revisit way closed count
  refine ⟨?_, ⟨_, recordedAfter⟩, by rw [led, way.lastId]⟩
  have eq := revisit_eq pane step count
  have registers : (pane.revisit step count).registers = pane.registers :=
    (congrArg Pane.registers eq :)
  have insert : (pane.revisit step count).insert = pane.insert := (congrArg Pane.insert eq :)
  have prompt : (pane.revisit step count).prompt = pane.prompt := (congrArg Pane.prompt eq :)
  have last : (pane.revisit step count).lastSubstitute = pane.lastSubstitute :=
    (congrArg Pane.lastSubstitute eq :)
  exact
    { text := Tracks.plain recordedAfter
      registers := registers ▸ faithful.spelled.registers
      insert := insert ▸ faithful.spelled.insert
      prompt := prompt ▸ faithful.spelled.prompt
      replacement := last ▸ faithful.spelled.replacement }

/-- A command that writes or closes touches neither the text nor the history. -/
theorem execute_file_keeps (pane : Pane) {command : ExCommand} (file : command.isFile = true) :
    (pane.execute command).buffer.text = pane.buffer.text ∧
      (pane.execute command).history = pane.history ∧
        (pane.Spelled .plain → (pane.execute command).Spelled .plain) := by
  rw [execute_file_eq file]
  exact ⟨rfl, rfl, fun spelled => { spelled with }⟩

theorem Faithful.turn (faithful : pane.Faithful texts) (coherent : next.Coherent)
    (turn : Turn .plain key pane next) : Arrives texts key pane next := by
  obtain ⟨base, recorded⟩ := faithful.recorded
  cases turn with
  | acts acts other =>
      obtain ⟨recordedAfter, lastId⟩ := acts.recorded recorded
      exact ⟨.acts acts other, coherent, acts.spelled, ⟨base, recordedAfter⟩, lastId⟩
  | undo rest count =>
      have dropped : pane.dropCount.AtRest := { rest with }
      obtain ⟨spelled, recordedAfter, lastId⟩ :=
        (faithful.dropCount rest).revisit dropped History.undo_way count
      exact ⟨.undo rest count, coherent, spelled, recordedAfter, lastId⟩
  | redo rest count =>
      have dropped : pane.dropCount.AtRest := { rest with }
      obtain ⟨spelled, recordedAfter, lastId⟩ :=
        (faithful.dropCount rest).revisit dropped History.redo_way count
      exact ⟨.redo rest count, coherent, spelled, recordedAfter, lastId⟩
  | @executes middle steers spelled idle command completed file =>
      obtain ⟨text, history, spells⟩ := execute_file_keeps middle file
      refine ⟨.executes steers spelled idle completed file, coherent, spells spelled, ⟨base, ?_⟩, ?_⟩
      · rw [Recorded, text, history, steers.history, steers.buffer]
        exact recorded
      · rw [history, steers.history]

/-- A plain key that does not repeat the last change takes a turn, and then the pane settles. -/
theorem Faithful.arrives (faithful : pane.Faithful texts) (known : key.Known .plain)
    (never : pane.runsRepeat key = false) :
    ∃ next, pane.handleKey key = settle next ∧ Arrives texts key (pane.record key) next := by
  have recording : (pane.record key).Faithful texts :=
    faithful.reframe _ pane.width pane.height pane.view pane.closing
  rw [← runsRepeat_record] at never
  have handed := fun again =>
    recording.coherent.dispatchWith recording.spelled known again
  obtain ⟨again, eq⟩ := exists_dispatchWith deepestRepeat
  unfold handleKey handleKeyWithin
  rw [eq]
  rcases handed again with ⟨repeats, -, -⟩ | ⟨-, next, same, coherent, turn⟩
  · rw [never] at repeats
    contradiction
  · rw [same]
    exact ⟨next, rfl, recording.turn coherent turn⟩

theorem textsAfter_congr {before middle after : History} {text : List Char}
    (same : middle.lastId = before.lastId) :
    textsAfter texts middle after text = textsAfter texts before after text := by
  unfold textsAfter
  rw [same]

/-- Settling a pane gives out the number of the step that ends, if one does. -/
theorem Arrives.settles {origin : Pane} (arrives : Arrives texts key origin next) :
    (settle next).Faithful
      (textsAfter texts origin.history (settle next).history (settle next).buffer.text) := by
  obtain ⟨recorder, view, eq, -⟩ := settle_eq next
  obtain ⟨base, recorded⟩ := arrives.recorded
  rw [eq]
  refine
    { coherent := arrives.coherent.around _ _ _ next.width next.height _ next.closing
      spelled := { arrives.spelled with }
      closed := settledHistory_isOpen
      recorded := ?_ }
  rw [← textsAfter_congr arrives.lastId]
  dsimp only [Recorded]
  unfold settledHistory
  split
  · exact ⟨_, Tracks.commit recorded next.cursor.pos⟩
  · refine ⟨base, ?_⟩
    unfold textsAfter
    rw [if_pos rfl]
    exact recorded

theorem commit_lastId (history : History) (cursor : Position) :
    (history.commit cursor).1.lastId = history.lastId ∨
      (history.commit cursor).1.lastId = history.lastId + 1 ∧
        (history.commit cursor).1.current = none ∧ (history.commit cursor).1.undone = [] := by
  unfold History.commit
  split
  · exact .inl rfl
  · split
    · exact .inl rfl
    · exact .inr ⟨rfl, rfl, rfl⟩

/-- Only a committed change gives out a number, and it leaves nothing to redo. -/
theorem Arrives.lastId_settle {origin : Pane} (arrives : Arrives texts key origin next) :
    (settle next).history.lastId = origin.history.lastId ∨
      (settle next).history.lastId = origin.history.lastId + 1 ∧
        (settle next).history.current = none ∧ (settle next).history.undone = [] := by
  obtain ⟨recorder, view, eq, -⟩ := settle_eq next
  rw [eq, ← arrives.lastId]
  dsimp only
  unfold settledHistory
  split
  · exact commit_lastId _ _
  · exact .inl rfl

/-- What a smaller number stands for stays. -/
theorem Arrives.textsAfter_of_le {origin : Pane} (arrives : Arrives texts key origin next) {id : Nat}
    (le : id ≤ origin.history.lastId) :
    textsAfter texts origin.history (settle next).history (settle next).buffer.text id =
      texts id := by
  unfold textsAfter
  split
  · rfl
  · rcases arrives.lastId_settle with same | ⟨given, -⟩
    · contradiction
    · rw [given]
      exact Function.update_of_ne (by omega) _ _

/-- A plain key that does not repeat the last change keeps the history faithful. -/
theorem Faithful.handleKey (faithful : pane.Faithful texts) (known : key.Known .plain)
    (never : pane.runsRepeat key = false) :
    (pane.handleKey key).Faithful
      (textsAfter texts pane.history (pane.handleKey key).history
        (pane.handleKey key).buffer.text) := by
  obtain ⟨next, handled, arrives⟩ := faithful.arrives known never
  rw [handled]
  exact arrives.settles

end Pane

end ModalPanes
