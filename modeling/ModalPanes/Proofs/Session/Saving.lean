import ModalPanes.Proofs.Pane.Saving
import ModalPanes.Proofs.Session.Stepping

/-!
# No change is lost silently

A session knows of every pane whether its text was changed since it was last written.  A log of what was
written goes along with the keys: the panes that count as unchanged show the texts of the log, and a pane
whose text is another one goes only if the question about it is answered or if it is closed by force.
-/

namespace ModalPanes

namespace Buffer

theorem normalizeBreaks_subset (text : List Char) : normalizeBreaks text ⊆ text := by
  fun_induction normalizeBreaks text with
  | case1 rest ih => exact fun c mem => List.mem_cons_of_mem _ (List.cons_subset_cons _ ih mem)
  | case2 c rest other ih => exact List.cons_subset_cons c ih
  | case3 => exact List.nil_subset _

theorem plain_ofText {text : List Char} (plain : Plain text) : Plain (ofText text).text := by
  have normalized : Alphabet.plain.Spells (normalizeBreaks text) := fun c mem =>
    plain c (normalizeBreaks_subset text mem)
  exact normalized.trimBreak

end Buffer

namespace Session

variable {session base next : Session} {id : PaneId} {key : Key} {written : PaneId → List Char}

/-- The texts written last once a session has handled a key: the pane that gets the key may write. -/
def writtenAfter (session : Session) (key : Key) (written : PaneId → List Char) :
    PaneId → List Char :=
  match session.receiver? key with
  | none => written
  | some id =>
      match session.pane? id with
      | none => written
      | some pane =>
          Function.update written id
            (pane.writtenAfter key (pane.handleKey key).buffer.text (written id))

theorem writtenAfter_of_idle (idle : session.receiver? key = none) :
    session.writtenAfter key written = written := by
  unfold writtenAfter
  rw [idle]

/-- A pane that does not get the key writes nothing. -/
theorem writtenAfter_of_ne (other : session.receiver? key ≠ some id ∨ session.pane? id = none) :
    session.writtenAfter key written id = written id := by
  unfold writtenAfter
  cases receives : session.receiver? key with
  | none => rfl
  | some receiver =>
      dsimp only
      cases opened : session.pane? receiver with
      | none => rfl
      | some pane =>
          refine Function.update_of_ne ?_ _ _
          rintro rfl
          rcases other with other | absent
          · exact other receives
          · rw [opened] at absent
            contradiction

theorem writtenAfter_of_receives {pane : Pane} (receives : session.receiver? key = some id)
    (opened : session.pane? id = some pane) :
    session.writtenAfter key written id =
      pane.writtenAfter key (pane.handleKey key).buffer.text (written id) := by
  unfold writtenAfter
  rw [receives]
  dsimp only
  rw [opened]
  exact Function.update_self ..

/-- The text that a pane has when a key has been handled, be the pane open or gone. -/
def textAfter (session : Session) (key : Key) (id : PaneId) (pane : Pane) : List Char :=
  if session.receiver? key = some id then (pane.handleKey key).buffer.text else pane.buffer.text

/-- No key repeats the last change of the pane that gets it. -/
def NeverRepeats (session : Session) (key : Key) : Prop :=
  ∀ id ∈ session.receiver? key, ∀ pane ∈ session.pane? id, pane.runsRepeat key = false

/-- The log of a session that starts from a text and handles plain keys, none of which repeats the last
change: `written` has the text that every pane wrote last, or the one that it started from. -/
inductive Log (setup : Setup) (text : List Char) : (PaneId → List Char) → Session → Prop where
  | start {session : Session} (started : start setup text = .ok session) :
      Log setup text (fun id => if id = 0 then (Buffer.ofText text).text else []) session
  | key {written : PaneId → List Char} {session : Session} (log : Log setup text written session)
      {key : Key} (known : key.Known .plain) (never : session.NeverRepeats key) :
      Log setup text (session.writtenAfter key written) (session.handleKey key)

/-- Every open pane knows the text that it wrote last. -/
structure Kept (written : PaneId → List Char) (session : Session) : Prop where
  whole : session.Whole
  leader : session.leader = .ctrl 'b'
  panes : ∀ id, ∀ pane ∈ session.pane? id,
    (∃ texts, pane.Saved texts (written id)) ∧ pane.closing = false
  unused : ∀ id, session.nextId ≤ id → written id = []

namespace Kept

variable (kept : session.Kept written)
include kept

theorem arranges (arranges : session.Arranges next) : next.Kept written where
  whole := kept.whole.arranges arranges
  leader := arranges.leader.trans kept.leader
  panes := by
    intro id pane mem
    obtain ⟨sized, resized, same⟩ := arranges.pane? id
    rw [Option.mem_def, same] at mem
    obtain ⟨before, opened, rfl⟩ := Option.map_eq_some_iff.1 mem
    obtain ⟨⟨texts, saved⟩, closing⟩ := kept.panes id before opened
    obtain ⟨width, height, view, eq⟩ := resized before
    rw [eq]
    exact ⟨⟨texts, saved.reframe before.recorder width height view before.closing⟩, closing⟩
  unused := by
    rw [arranges.nextId]
    exact kept.unused

theorem opens {options : Options} {width height : Nat}
    (opens : session.Opens (.showing {} options width height) next) : next.Kept written := by
  obtain ⟨arranged, leaves, rest⟩ := opens
  have base := kept.arranges arranged
  refine Kept.arranges ?_ rest
  exact
    { whole := base.whole.opened _ leaves
      leader := base.leader
      panes := by
        intro id pane mem
        rw [Option.mem_def, Session.pane?, List.lookup_append, Option.or_eq_some_iff] at mem
        rcases mem with opened | ⟨-, new⟩
        · exact base.panes id pane opened
        · rw [List.lookup_cons] at new
          split at new
          · rename_i same
            obtain rfl := beq_iff_eq.1 same
            obtain rfl := Option.some.inj new
            have saved := @Pane.saved_showing {} (by simp [Plain]) options width height
            rw [base.unused _ (Nat.le_refl _)]
            exact ⟨⟨_, saved⟩, rfl⟩
          · contradiction
      unused := fun id le => base.unused id (Nat.le_of_succ_le le) }

theorem closes (closes : session.Closes id next) : next.Kept written := by
  cases closes with
  | ignored absent arranges => exact kept.arranges arranges
  | exits isOpen arranges only same =>
      have base := kept.arranges arranges
      exact same ▸ { base with whole := { base.whole with } }
  | @removes base layout isOpen arranged leaves rest =>
      have base := kept.arranges arranged
      refine Kept.arranges ?_ rest
      exact
        { whole := base.whole.removed id leaves
          leader := base.leader
          panes := by
            intro other pane mem
            rw [Option.mem_def, Session.pane?, lookup_filter] at mem
            split at mem
            · contradiction
            · exact base.panes other pane mem
          unused := base.unused }

/-- The active pane gets a key, and its request to be closed is served if it makes one. -/
theorem hands (known : key.Known .plain) (never : session.NeverRepeats key)
    (receives : session.receiver? key = some session.active) {change : Pane → Pane}
    (changes : ∀ pane ∈ session.pane? session.active, change pane = (pane.handleKey key).served) :
    (session.onPane session.active change).Kept (session.writtenAfter key written) where
  whole := kept.whole.onPane _ _
  leader := kept.leader
  panes := by
    intro id pane mem
    rw [Option.mem_def, pane?_onPane] at mem
    split at mem
    · rename_i active
      obtain ⟨before, opened, rfl⟩ := Option.map_eq_some_iff.1 mem
      subst active
      obtain ⟨⟨texts, saved⟩, -⟩ := kept.panes _ before opened
      obtain ⟨textsAfter, savedAfter⟩ := saved.handleKey known (never _ receives before opened)
      rw [writtenAfter_of_receives receives opened, changes before opened]
      exact ⟨⟨textsAfter, savedAfter.reframe _ _ _ _ false⟩, rfl⟩
    · rename_i other
      rw [writtenAfter_of_ne (.inl fun receiver => other ?_)]
      · exact kept.panes id pane mem
      · exact (Option.some.inj (receives.symm.trans receiver)).symm
  unused := by
    intro id le
    rw [writtenAfter_of_ne (.inr ?_)]
    · exact kept.unused id le
    · refine Option.not_isSome_iff_eq_none.1 fun isOpen => ?_
      exact Nat.not_lt.2 le (kept.whole.fresh id (kept.whole.mem_leaves isOpen))

/-- The leader behind itself goes to the pane, and does not make it ask to be closed. -/
theorem served_of_calm (known : key.Known .plain) (never : session.NeverRepeats key)
    (receives : session.receiver? key = some session.active)
    (calm : key = session.leader ∨
      ∀ pane ∈ session.pane? session.active, (pane.handleKey key).closing = false)
    {pane : Pane} (opened : pane ∈ session.pane? session.active) :
    (pane.handleKey key).served = pane.handleKey key := by
  obtain ⟨⟨texts, saved⟩, closing⟩ := kept.panes _ pane opened
  have quiet : (pane.handleKey key).closing = false := by
    rcases calm with leads | calm
    · refine Bool.eq_false_iff.2 fun asks => ?_
      obtain ⟨command, completed, -⟩ :=
        saved.closing known (never _ receives pane opened) closing asks
      rw [leads, kept.leader, Pane.completed?_ctrl_b] at completed
      contradiction
    · exact calm pane opened
  unfold Pane.served
  rw [← quiet]

/-- Every plain key that does not repeat a change keeps what the panes know. -/
theorem handleKey (known : key.Known .plain) (never : session.NeverRepeats key) :
    (session.handleKey key).Kept (session.writtenAfter key written) := by
  cases kept.whole.handleKey key with
  | arranges idle arranges =>
      rw [writtenAfter_of_idle idle]
      exact kept.arranges arranges
  | opens idle opens =>
      rw [writtenAfter_of_idle idle]
      exact kept.opens opens
  | closes idle cause closes =>
      rw [writtenAfter_of_idle idle]
      exact kept.closes closes
  | hands receives calm arranges =>
      refine (kept.hands known never receives fun pane mem => ?_).arranges arranges
      exact (kept.served_of_calm known never receives calm mem).symm
  | serves receives asked closes =>
      exact (kept.hands known never receives fun pane mem => rfl).closes closes

end Kept

theorem kept_start {setup : Setup} {text : List Char} (leader : setup.leader = .ctrl 'b')
    (plain : Plain text) (started : start setup text = .ok session) :
    session.Kept fun id => if id = 0 then (Buffer.ofText text).text else [] := by
  unfold start at started
  split at started
  · contradiction
  · obtain rfl := Except.ok.inj started
    exact
      { whole :=
          { distinct := List.nodup_singleton 0
            ids := .refl _
            fresh := fun id mem => by
              obtain rfl := List.mem_singleton.1 mem
              exact Nat.one_pos }
        leader := leader
        panes := by
          intro id pane mem
          rw [Option.mem_def, Session.pane?, List.lookup_cons] at mem
          split at mem
          · rename_i same
            obtain rfl := beq_iff_eq.1 same
            obtain rfl := Option.some.inj mem
            have plainBuffer : Plain
                ({ Buffer.ofText text with name := setup.filename } : Buffer).text :=
              Buffer.plain_ofText plain
            exact ⟨⟨_, Pane.saved_showing plainBuffer _ _ _⟩, rfl⟩
          · contradiction
        unused := fun id le => if_neg (Nat.ne_of_gt le) }

theorem Log.kept {setup : Setup} {text : List Char} (leader : setup.leader = .ctrl 'b')
    (plain : Plain text) (log : Log setup text written session) : session.Kept written := by
  induction log with
  | start started => exact kept_start leader plain started
  | key log known never ih => exact ih.handleKey known never

/-- An open pane is gone once it is closed or the session has ended. -/
def Lost (session next : Session) (id : PaneId) : Prop :=
  next.isOpen id = false ∨ session.exited = false ∧ next.exited = true

theorem Arranges.not_lost (arranges : session.Arranges next) (isOpen : session.isOpen id = true) :
    ¬ session.Lost next id := by
  rintro (closed | ⟨running, exited⟩)
  · rw [arranges.isOpen, isOpen] at closed
    contradiction
  · rw [arranges.exited, running] at exited
    contradiction

theorem Opens.not_lost {pane : Pane} (opens : session.Opens pane next)
    (isOpen : session.isOpen id = true) : ¬ session.Lost next id := by
  obtain ⟨arranged, leaves, rest⟩ := opens
  rw [← arranged.isOpen] at isOpen
  rintro (closed | ⟨running, exited⟩)
  · rw [rest.isOpen, Session.isOpen, Session.pane?, List.lookup_append] at closed
    rw [Session.isOpen, Session.pane?] at isOpen
    simp [isOpen] at closed
  · rw [rest.exited, arranged.exited, running] at exited
    contradiction

/-- Closing a pane loses no other one. -/
theorem Whole.eq_of_lost {closed : PaneId} (whole : session.Whole)
    (closes : session.Closes closed next) (isOpen : session.isOpen id = true)
    (lost : session.Lost next id) : id = closed := by
  cases closes with
  | ignored absent arranges => exact absurd lost (arranges.not_lost isOpen)
  | exits opened arranges only same =>
      have mem := whole.mem_leaves isOpen
      rw [← arranges.leaves, only] at mem
      exact List.mem_singleton.1 mem
  | removes opened arranged leaves rest =>
      by_contra different
      rw [← arranged.isOpen, Session.isOpen, Session.pane?] at isOpen
      rcases lost with gone | ⟨running, exited⟩
      · rw [rest.isOpen, Session.isOpen, Session.pane?, lookup_filter, if_neg different] at gone
        rw [isOpen] at gone
        contradiction
      · rw [rest.exited, arranged.exited, running] at exited
        contradiction

/-- No unsaved change is lost silently: an open pane that counts as unchanged shows the text of the log, and
a pane with another text goes only if the question about it is answered by `y` or if it gets the key that
completes a command to close by force. -/
theorem Log.nothing_lost {setup : Setup} {text : List Char} (leader : setup.leader = .ctrl 'b')
    (plain : Plain text) (log : Log setup text written session) :
    (∀ id, ∀ pane ∈ session.pane? id, pane.isDirty = false → pane.buffer.text = written id) ∧
      ∀ key : Key, key.Known .plain → session.NeverRepeats key →
        ∀ id, ∀ pane ∈ session.pane? id, session.Lost (session.handleKey key) id →
          session.textAfter key id pane ≠ session.writtenAfter key written id →
            (session.overlay = some (.confirmKill id) ∧ key.typed? = some 'y') ∨
              (session.receiver? key = some id ∧ pane.completed? key = some .forceQuit) := by
  have kept := log.kept leader plain
  have shows : ∀ id, ∀ pane ∈ session.pane? id,
      pane.isDirty = false → pane.buffer.text = written id := fun id pane mem clean => by
    obtain ⟨⟨texts, saved⟩, -⟩ := kept.panes id pane mem
    exact saved.clean clean
  refine ⟨shows, fun key known never id pane mem lost unsaved => ?_⟩
  have isOpen : session.isOpen id = true := by
    rw [Session.isOpen, Option.mem_def.1 mem]
    rfl
  cases kept.whole.handleKey key with
  | arranges idle arranges => exact absurd lost (arranges.not_lost isOpen)
  | opens idle opens => exact absurd lost (opens.not_lost isOpen)
  | closes idle cause closes =>
      obtain rfl := kept.whole.eq_of_lost closes isOpen lost
      refine .inl (cause.resolve_right fun clean => unsaved ?_)
      rw [textAfter, if_neg (by simp [idle]), writtenAfter_of_idle idle]
      exact shows id pane mem (clean pane mem)
  | hands receives calm arranges =>
      have handed : (session.onPane session.active (·.handleKey key)).isOpen id = true := by
        rw [isOpen_onPane, isOpen]
      exact absurd lost (arranges.not_lost handed)
  | serves receives asked closes =>
      have whole := kept.whole.onPane session.active fun pane => (pane.handleKey key).served
      obtain rfl : id = session.active :=
        whole.eq_of_lost closes (by rw [isOpen_onPane, isOpen]) lost
      obtain ⟨asking, opened, asks⟩ := asked
      obtain rfl := Option.some.inj ((Option.mem_def.1 opened).symm.trans mem)
      obtain ⟨⟨texts, saved⟩, closing⟩ := kept.panes _ asking opened
      obtain ⟨command, completed, rfl | same⟩ :=
        saved.closing known (never _ receives asking opened) closing asks
      · exact .inr ⟨receives, completed⟩
      · rw [textAfter, if_pos receives, writtenAfter_of_receives receives opened] at unsaved
        exact absurd same unsaved

/-- A pane with a text that was not written goes with the answer to a question. -/
theorem nothing_lost_answered :
    ∃ written session, Log {} "ab\ncd".toList written session ∧
      (∀ id, ∀ pane ∈ session.pane? id, pane.isDirty = false → pane.buffer.text = written id) ∧
        session.Lost (session.handleKey (.char 'y')) 0 ∧
          session.overlay = some (.confirmKill 0) := by
  have known : ∀ c mods, IsPlain c → Key.Known .plain ⟨.char c, mods⟩ := by
    rintro c mods plain _ ⟨⟩
    exact plain
  have plain : Plain "ab\ncd".toList := by decide
  obtain ⟨written, session, log, never, lost, ⟨pane, opened, unsaved⟩, idle⟩ :
      ∃ written session, Log {} "ab\ncd".toList written session ∧
        session.NeverRepeats (.char 'y') ∧ session.Lost (session.handleKey (.char 'y')) 0 ∧
          (∃ pane ∈ session.pane? 0, session.textAfter (.char 'y') 0 pane ≠
            session.writtenAfter (.char 'y') written 0) ∧ session.receiver? (.char 'y') = none := by
    have fresh : Log {} "ab\ncd".toList _ _ := .start rfl
    have erased := fresh.key (known 'x' {} (by decide)) (by unfold NeverRepeats; decide +kernel)
    have led := erased.key (known 'b' { ctrl := true } (by decide))
      (by unfold NeverRepeats; decide +kernel)
    have asked := led.key (known 'x' {} (by decide)) (by unfold NeverRepeats; decide +kernel)
    exact ⟨_, _, asked, by unfold NeverRepeats; decide +kernel, by unfold Lost; decide +kernel,
      by decide +kernel, by decide +kernel⟩
  obtain ⟨shows, loses⟩ := log.nothing_lost rfl plain
  refine ⟨written, session, log, shows, lost, ?_⟩
  rcases loses _ (known 'y' {} (by decide)) never 0 pane opened lost unsaved with
    ⟨answered, -⟩ | ⟨receives, -⟩
  · exact answered
  · rw [show session.receiver? ⟨.char 'y', {}⟩ = none from idle] at receives
    contradiction

end Session

end ModalPanes
