import ModalPanes.Proofs.Pane.Asking
import ModalPanes.Proofs.Session.Saving
import ModalPanes.Proofs.Session.Structure

/-!
# Requests to be closed

A pane that asks to be closed on a key is closed by the same key, since the session looks at the pane that
it gave a key to.  It does not look when it hands over the leader, typed twice: a request made on that key
is left, until the pane gets another one.  So all requests of a run are served at once if the leader never
makes a pane ask, and most keys cannot.
-/

namespace ModalPanes

namespace Session

/-- No open pane has a request to be closed that is left. -/
def Calm (session : Session) : Prop :=
  ∀ id, ∀ pane ∈ session.pane? id, pane.closing = false

/-- The key is the leader, handed over to the active pane, and the pane asks on it to be closed. -/
def Overlooks (session : Session) (key : Key) : Prop :=
  key = session.leader ∧ session.receiver? key = some session.active ∧
    ∃ pane ∈ session.pane? session.active, (pane.handleKey key).closing = true

/-- A pane that asks on a key to be closed is gone with it, and if the session goes on, no open pane has a
request left. -/
structure Serves (session : Session) (key : Key) : Prop where
  closes : ∀ id ∈ session.receiver? key, ∀ pane ∈ session.pane? id,
    (pane.handleKey key).closing = true → session.Lost (session.handleKey key) id
  calm : (session.handleKey key).exited = false → (session.handleKey key).Calm

/-- At every key of a run, something holds of the key and the session that handles it. -/
def Throughout (holds : Session → Key → Prop) : Session → List Key → Prop
  | _, [] => True
  | session, key :: keys => holds session key ∧ Throughout holds (session.handleKey key) keys

variable {session next : Session} {id : PaneId} {key : Key}

section Calm

theorem Calm.arranges (calm : session.Calm) (arranges : session.Arranges next) : next.Calm := by
  intro id pane present
  obtain ⟨sized, resized, same⟩ := arranges.pane? id
  rw [Option.mem_def, same] at present
  obtain ⟨before, opened, rfl⟩ := Option.map_eq_some_iff.1 present
  obtain ⟨width, height, view, eq⟩ := resized before
  rw [eq]
  exact calm id before opened

theorem Calm.opens (calm : session.Calm) {pane : Pane} (quiet : pane.closing = false)
    (opens : session.Opens pane next) : next.Calm := by
  obtain @⟨base, layout, arranged, -, rest⟩ := opens
  refine Calm.arranges (fun id other present => ?_) rest
  rw [Option.mem_def, Session.pane?, List.lookup_append, Option.or_eq_some_iff] at present
  rcases present with present | ⟨-, new⟩
  · exact calm.arranges arranged id other present
  · rw [List.lookup_cons] at new
    split at new
    · obtain rfl := Option.some.inj new
      exact quiet
    · contradiction

theorem Calm.closes (calm : session.Calm) (closes : session.Closes id next) : next.Calm := by
  cases closes with
  | ignored absent arranges => exact calm.arranges arranges
  | exits isOpen arranges only same =>
      subst same
      exact (calm.arranges arranges :)
  | removes isOpen arranged leaves rest =>
      refine Calm.arranges (fun other pane present => ?_) rest
      rw [Option.mem_def, Session.pane?, lookup_filter] at present
      split at present
      · contradiction
      · exact calm.arranges arranged other pane present

theorem Calm.onPane (calm : session.Calm) {change : Pane → Pane}
    (quiet : ∀ pane ∈ session.pane? session.active, (change pane).closing = false) :
    (session.onPane session.active change).Calm := by
  intro id pane present
  rw [Option.mem_def, pane?_onPane] at present
  split at present
  · rename_i active
    subst active
    obtain ⟨before, opened, rfl⟩ := Option.map_eq_some_iff.1 present
    exact quiet before opened
  · exact calm id pane present

end Calm

theorem Closes.lost (closes : session.Closes id next) (isOpen : session.isOpen id = true)
    (running : session.exited = false) : session.Lost next id := by
  cases closes with
  | ignored absent arranges =>
      rw [isOpen] at absent
      contradiction
  | exits opened arranges only same =>
      subst same
      exact .inr ⟨running, rfl⟩
  | removes opened arranged leaves rest =>
      refine .inl (rest.isOpen id ▸ ?_)
      unfold Session.isOpen Session.pane?
      rw [lookup_filter, if_pos rfl]
      rfl

/-- A session hands keys over while it goes on and asks nothing, the leader only behind itself. -/
theorem of_receives (receives : session.receiver? key = some id) :
    session.exited = false ∧ (∀ closed, session.overlay ≠ some (.confirmKill closed)) ∧
      session.led = (key == session.leader) := by
  unfold receiver? at receives
  split at receives
  · contradiction
  · rename_i running
    split at receives
    · contradiction
    · rename_i notAsked
      split at receives
      · rename_i led
        exact ⟨Bool.eq_false_iff.2 running, notAsked, led⟩
      · contradiction

/-- The session serves every request but one made on the leader. -/
theorem Whole.serves (whole : session.Whole) (calm : session.Calm) (looks : ¬ session.Overlooks key) :
    session.Serves key ∧ (session.handleKey key).Calm := by
  suffices all : (∀ id ∈ session.receiver? key, ∀ pane ∈ session.pane? id,
      (pane.handleKey key).closing = true → session.Lost (session.handleKey key) id) ∧
        (session.handleKey key).Calm from ⟨⟨all.1, fun _ => all.2⟩, all.2⟩
  have unheard : session.receiver? key = none → ∀ id ∈ session.receiver? key, ∀ pane ∈ session.pane? id,
      (pane.handleKey key).closing = true → session.Lost (session.handleKey key) id := by
    intro idle id receives
    rw [idle] at receives
    contradiction
  cases whole.handleKey key with
  | arranges idle arranges => exact ⟨unheard idle, calm.arranges arranges⟩
  | opens idle opens => exact ⟨unheard idle, calm.opens rfl opens⟩
  | closes idle cause closes => exact ⟨unheard idle, calm.closes closes⟩
  | hands receives handed arranges =>
      have quiet : ∀ pane ∈ session.pane? session.active, (pane.handleKey key).closing = false := by
        intro pane opened
        rcases handed with leads | quiet
        · exact Bool.eq_false_iff.2 fun asks => looks ⟨leads, receives, pane, opened, asks⟩
        · exact quiet pane opened
      refine ⟨fun id receiver pane opened asks => ?_, (calm.onPane quiet).arranges arranges⟩
      obtain rfl := Option.some.inj (receives.symm.trans receiver)
      rw [quiet pane opened] at asks
      contradiction
  | serves receives asked closes =>
      refine ⟨fun id receiver pane opened _ => ?_, (calm.onPane fun pane _ => rfl).closes closes⟩
      obtain rfl := Option.some.inj (receives.symm.trans receiver)
      refine closes.lost ?_ (of_receives receives).1
      rw [isOpen_onPane, Session.isOpen, Option.mem_def.1 opened]
      rfl

theorem handleKey_of_leader (leads : key = session.leader)
    (receives : session.receiver? key = some session.active) :
    session.handleKey key =
      { session with led := false, overlay := none }.onPane session.active (·.handleKey key) := by
  obtain ⟨running, notAsked, led⟩ := of_receives receives
  have led : session.led = true := by rw [led, leads, beq_self_eq_true]
  unfold handleKey
  rw [if_neg (Bool.eq_false_iff.1 running)]
  split
  · rename_i id asked
    exact absurd asked (notAsked id)
  · dsimp only
    rw [if_pos led]
    unfold handleLed
    rw [if_pos leads]

/-- A request that is overlooked is left. -/
theorem Overlooks.not_serves (overlooks : session.Overlooks key) : ¬ session.Serves key := by
  intro serves
  obtain ⟨leads, receives, pane, opened, asks⟩ := overlooks
  have handed := handleKey_of_leader leads receives
  have left : ((session.handleKey key).pane? session.active) = some (pane.handleKey key) := by
    rw [handed, pane?_onPane, if_pos rfl]
    exact congrArg (Option.map (·.handleKey key)) opened
  have goesOn : (session.handleKey key).exited = false := by
    rw [handed]
    exact (of_receives receives).1
  have quiet := serves.calm goesOn session.active _ left
  rw [asks] at quiet
  contradiction

namespace Throughout

variable {holds other : Session → Key → Prop} {keys : List Key}

theorem imp (implies : ∀ session key, holds session key → other session key)
    (throughout : Throughout holds session keys) : Throughout other session keys := by
  induction keys generalizing session with
  | nil => trivial
  | cons key keys ih => exact ⟨implies _ _ throughout.1, ih throughout.2⟩

/-- A run that overlooks no request serves all of them. -/
theorem serves (fitted : session.Fitted) (calm : session.Calm)
    (looks : Throughout (fun session key => ¬ session.Overlooks key) session keys) :
    Throughout Serves session keys := by
  induction keys generalizing session with
  | nil => trivial
  | cons key keys ih =>
      obtain ⟨serves, calm⟩ := fitted.toWhole.serves calm looks.1
      exact ⟨serves, ih (fitted.handleKey key) calm looks.2⟩

end Throughout

theorem calm_start {setup : Setup} {text : List Char} (started : start setup text = .ok session) :
    session.Calm := by
  unfold start at started
  split at started
  · contradiction
  · obtain rfl := Except.ok.inj started
    intro id pane present
    rw [Option.mem_def, Session.pane?, List.lookup_cons] at present
    split at present
    · obtain rfl := Option.some.inj present
      rfl
    · contradiction

section Leader

theorem Closes.leader (closes : session.Closes id next) : next.leader = session.leader := by
  cases closes with
  | ignored absent arranges => exact arranges.leader
  | exits isOpen arranges only same => exact same ▸ arranges.leader
  | removes isOpen arranged leaves rest => exact rest.leader.trans arranged.leader

theorem Opens.leader {pane : Pane} (opens : session.Opens pane next) : next.leader = session.leader := by
  obtain ⟨arranged, -, rest⟩ := opens
  exact rest.leader.trans arranged.leader

theorem Whole.leader_handleKey (whole : session.Whole) (key : Key) :
    (session.handleKey key).leader = session.leader := by
  cases whole.handleKey key with
  | arranges idle arranges => exact arranges.leader
  | opens idle opens => exact opens.leader
  | closes idle cause closes => exact closes.leader
  | hands receives handed arranges => exact arranges.leader
  | serves receives asked closes => exact closes.leader

/-- No pane comes to ask to be closed on a leader that closes none. -/
theorem Fitted.not_overlooks (fitted : session.Fitted) (calm : session.Calm)
    (never : session.leader.mayClose = false) (key : Key) : ¬ session.Overlooks key := by
  rintro ⟨rfl, -, pane, opened, asks⟩
  rcases (fitted.coherent _ pane opened).closing_handleKey asks with asked | closes
  · rw [calm _ pane opened] at asked
    contradiction
  · rw [never] at closes
    contradiction

theorem throughout_not_overlooks (fitted : session.Fitted) (calm : session.Calm)
    (never : session.leader.mayClose = false) (keys : List Key) :
    Throughout (fun session key => ¬ session.Overlooks key) session keys := by
  induction keys generalizing session with
  | nil => trivial
  | cons key keys ih =>
      have looks := fitted.not_overlooks calm never key
      have leader := fitted.toWhole.leader_handleKey key
      exact ⟨looks, ih (fitted.handleKey key) (fitted.toWhole.serves calm looks).2 (leader ▸ never)⟩

end Leader

/-- Whatever the leader is and whatever keys come, all requests to be closed are served at once exactly if
none is made on the leader, handed to a pane; and that is so for every leader on which no pane may close. -/
theorem serves_requests {setup : Setup} {text : List Char} (started : start setup text = .ok session)
    (keys : List Key) :
    (Throughout Serves session keys ↔
        Throughout (fun session key => ¬ session.Overlooks key) session keys) ∧
      (setup.leader.mayClose = false → Throughout Serves session keys) := by
  have fitted := fitted_start started
  have calm := calm_start started
  refine ⟨⟨fun serves => ?_, fun looks => looks.serves fitted calm⟩, fun never => ?_⟩
  · exact serves.imp fun session key serves overlooks => overlooks.not_serves serves
  · have leader : session.leader = setup.leader := by
      unfold start at started
      split at started
      · contradiction
      · obtain rfl := Except.ok.inj started
        rfl
    exact (throughout_not_overlooks fitted calm (leader ▸ never) keys).serves fitted calm

/-- Of two panes, the changed one is closed by force, and the other one stays. -/
theorem serves_requests_forced :
    ∃ session, start { cols := 20, rows := 4 } "ab".toList = .ok session ∧
      let keys := Key.readTyped "<C-b>%ix<Esc>:q!<CR>".toList
      (Key.ctrl 'b').mayClose = false ∧ Throughout Serves session keys ∧
        (session.handleKeys keys).paneIds = [0] := by
  have started : start { cols := 20, rows := 4 } "ab".toList = .ok _ := rfl
  have never : (Key.ctrl 'b').mayClose = false := by decide
  exact ⟨_, started, never, (serves_requests started _).2 never, by decide +kernel⟩

/-- With Enter as the leader, a command line is completed by Enter typed twice: the pane asks to be closed
and stays, until another key comes that has nothing to do with it. -/
theorem request_left_on_leader :
    ∃ session, start { cols := 20, rows := 4, leader := .plain .enter } "ab".toList = .ok session ∧
      let asked := session.handleTyped ":q<CR><CR>".toList
      asked.exited = false ∧ (asked.pane? 0).map Pane.closing = some true ∧
        (asked.handleKey (.char 'l')).exited = true := by
  have started : start { cols := 20, rows := 4, leader := .plain .enter } "ab".toList = .ok _ := rfl
  exact ⟨_, started, by decide +kernel, by decide +kernel, by decide +kernel⟩

end Session

end ModalPanes
