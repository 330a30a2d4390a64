import ModalPanes.Proofs.Pane.Failing
import ModalPanes.Proofs.Pane.Handling

/-!
# Commands that fail change nothing

An operator is given up where its motion, its find or its text object is not there, and by any key that means
nothing to it.  A command line or a search that cannot be carried out says so.  Whatever the search or the
substitution to come may remember of either, text, cursor, registers and history stay as they were.
-/

namespace ModalPanes

namespace Pane

variable {pane middle next : Pane} {op : Operator} {key : Key} {keys : List Key} {pending : Pending}
  {count first second : Option Nat} {register name : Option Char}

/-- Text, cursor, registers and history are as they were, and so is the mode with what it waits for. -/
structure Stays (pane next : Pane) : Prop where
  text : next.buffer.text = pane.buffer.text
  pos : next.cursor.pos = pane.cursor.pos
  registers : next.registers = pane.registers
  history : next.history = pane.history
  mode : next.mode = pane.mode
  prompt : next.prompt = pane.prompt
  pending : next.pending = pane.pending

theorem Stays.settle (stays : pane.Stays next) (closed : pane.history.isOpen = false) :
    pane.Stays next.settle := by
  have history : next.settle.history = next.history :=
    history_settle ((congrArg History.isOpen stays.history).trans closed)
  obtain ⟨recorder, view, eq, -⟩ := settle_eq next
  rw [eq] at history ⊢
  exact { stays with history := history.trans stays.history }

section Operators

theorem GivesUp.stays {waits : Option Pending} (gives : (middle.record key).GivesUp next)
    (stands : Stands pane waits count register middle) (rests : pane.pending = none) : pane.Stays next where
  text := (gives.read (·.buffer.text) fun _ => rfl).trans (stands.alike.same (·.buffer.text) fun _ => rfl)
  pos := gives.pos.trans (stands.alike.same (·.cursor.pos) fun _ => rfl)
  registers := (gives.read (·.registers) fun _ => rfl).trans (stands.alike.same (·.registers) fun _ => rfl)
  history := (gives.read (·.history) fun _ => rfl).trans stands.history
  mode := (gives.read (·.mode) fun _ => rfl).trans (stands.alike.same (·.mode) fun _ => rfl)
  prompt := (gives.read (·.prompt) fun _ => rfl).trans (stands.alike.same (·.prompt) fun _ => rfl)
  pending := gives.rests.trans rests.symm

theorem Stands.opens (stands : Stands pane (some (.operator ⟨op, first⟩)) second register middle)
    (ready : pane.Ready) (opens : Opens op first second key pending count) :
    ∃ next, Handles middle [key] next ∧ Stands pane (some pending) count register next := by
  have takes := (stands.ready ready).toTakesCommands.record key
  have handed := fun again => dispatchWith_awaited takes stands.isPending again key
  have isCount : (middle.record key).count = second := stands.isCount
  obtain ⟨recorder, eq⟩ := opens.handlePending isCount
  rw [eq] at handed
  exact stands.type ready handed ⟨by rw [← stands.isRegister]; rfl⟩ rfl

theorem resolve_onScreen {motion : Motion} (onScreen : motion.isOnScreen = true) (count : Option Nat)
    (operator changeWord : Bool) : (pane.resolve motion count operator changeWord).1.isSome = true := by
  cases motion <;> first | rfl | contradiction

theorem Alike.reaches {a b : Pane} (alike : a.Alike b) (op : Operator) (count : Option Nat) (aim : Aim) :
    a.reaches op count aim = b.reaches op count aim := by
  unfold Pane.reaches
  cases aim with
  | object object =>
      exact alike.same (fun pane => (object.span? pane.buffer pane.cursor.pos).isSome)
        fun pane => congrArg Option.isSome (object.span?_unmarked pane.buffer pane.cursor.pos).symm
  | motion motion =>
      have chosen : a.motionFor op motion = b.motionFor op motion :=
        alike.same (·.motionFor op motion) fun _ => rfl
      dsimp only
      rw [chosen]
      -- likeness ignores the view, so the motions to a row of the screen are apart
      cases onScreen : motion.isOnScreen with
      | true =>
          rw [← b.motionFor_isOnScreen op motion] at onScreen
          rw [resolve_onScreen onScreen, resolve_onScreen onScreen]
      | false =>
          rw [← b.motionFor_isOnScreen op motion] at onScreen
          exact congrArg Option.isSome (alike.resolve onScreen count true _).target

/-- What waits for a command makes no difference to where a motion leads. -/
theorem Stands.reaches {waits : Option Pending} (stands : Stands pane waits count register middle)
    (op : Operator) (total : Option Nat) (aim : Aim) :
    middle.reaches op total aim = pane.reaches op total aim := by
  have half : pane.HalfTyped (pane.waiting waits count register) := ⟨rfl⟩
  rw [stands.alike.reaches, half.reaches]

/-- The keys of an operator: counts and registers in front of it, and a count behind. -/
inductive Operated (op : Operator) : List Key → Option Nat → Option Nat → Option Char → Prop where
  | intro {front digits : List Key} {key : Key} {first second : Option Nat} {name : Option Char}
      (fronts : Fronts none none front first name)
      (found : Keymap.findOrMotion? Keymap.normal key = some (.operator op))
      (behind : Digits none digits second) : Operated op (front ++ key :: digits) first second name

theorem Operated.stands (operated : Operated op keys first second name) (ready : pane.Ready)
    (idle : Stands pane none none none pane) :
    ∃ next, Handles pane keys next ∧ Stands pane (some (.operator ⟨op, first⟩)) second name next := by
  cases operated with
  | @intro front digits key _ _ _ fronts found behind =>
      obtain ⟨counted, handled, stands⟩ := idle.fronts ready fronts
      have takes := (stands.ready ready).toTakesCommands.record key
      have digit := Keymap.countDigit?_of_findOrMotion? found nofun
      obtain ⟨operator, operated, stands⟩ : ∃ next, Handles counted [key] next ∧
          Stands pane (some (.operator ⟨op, first⟩)) none name next :=
        stands.type ready (dispatchWith_command takes stands.isPending (digit _) found nofun)
          ⟨by rw [← stands.isCount, ← stands.isRegister]; rfl⟩ rfl
      have counts : ∀ waits ∈ some (Pending.operator ⟨op, first⟩), ∃ op, waits = .operator op :=
        fun waits mem => ⟨_, (Option.mem_some.1 mem).symm⟩
      obtain ⟨next, handles, stands⟩ := stands.digits ready counts behind
      exact ⟨next, handled.append (operated.append handles), stands⟩

/-- An operator that comes to nothing. -/
theorem Operated.misses (operated : Operated op keys first second name) (ready : pane.Ready)
    (idle : Stands pane none none none pane) (waits : pane.pending = none) {behind : List Key}
    (misses : pane.Misses op first second behind) :
    ∃ next, Handles pane (keys ++ behind) next ∧ pane.Stays next := by
  obtain ⟨middle, handled, stands⟩ := operated.stands ready idle
  have gives : ∀ {waiting : Pending} {counted : Option Nat} {middle : Pane} {key : Key},
      Stands pane (some waiting) counted name middle → pane.Loses op waiting counted key →
        ∃ next, Handles middle [key] next ∧ pane.Stays next := by
    intro waiting counted middle key stands loses
    have takes := (stands.ready ready).toTakesCommands.record key
    have gives : (middle.record key).GivesUp ((middle.record key).handlePending waiting key) := by
      refine (loses.of_reaches fun total aim => ?_).gives_up stands.isCount
      exact ((Alike.record key middle).reaches op total aim).trans (stands.reaches op total aim)
    refine ⟨_, .one fun again => dispatchWith_awaited takes stands.isPending again key, ?_⟩
    exact (gives.stays stands waits).settle ready.closed
  cases misses with
  | one loses =>
      obtain ⟨next, handles, stays⟩ := gives stands loses
      exact ⟨next, handled.append handles, stays⟩
  | two opens loses =>
      obtain ⟨opened, first, stands⟩ := stands.opens ready opens
      obtain ⟨next, handles, stays⟩ := gives stands loses
      exact ⟨next, handled.append (first.append handles), stays⟩

end Operators

section Messages

/-- What went wrong is said on the status row. -/
def refuses (pane : Pane) : Bool := pane.message.any Message.error

variable (pane)

theorem refuses_jump (pastEnd : Bool) (pos : Position) : (pane.jump pastEnd pos).refuses = pane.refuses := rfl

theorem refuses_jumpToLine (pastEnd : Bool) (line : Nat) :
    (pane.jumpToLine pastEnd line).refuses = pane.refuses := rfl

theorem refuses_insertText (pos : Position) (text : List Char) :
    (pane.insertText pos text).refuses = pane.refuses := by
  obtain ⟨history, recorder, eq⟩ := insertText_eq pane pos text
  rw [eq]
  rfl

theorem refuses_eraseRange (range : Range) : (pane.eraseRange range).refuses = pane.refuses := by
  obtain ⟨history, recorder, eq⟩ := eraseRange_eq pane range
  rw [eq]
  rfl

theorem refuses_replaceText (range : Range) (text : List Char) :
    (pane.replaceText range text).refuses = pane.refuses := by
  unfold replaceText
  split
  · rfl
  · rw [refuses_insertText, refuses_eraseRange]

variable {pane} (calm : pane.refuses = false)
include calm

theorem refuses_reportFewer (before : Nat) : (pane.reportFewer before).refuses = false := by
  unfold reportFewer
  dsimp only
  split
  · rfl
  · exact calm

theorem refuses_reportYanked (lines : Nat) : (pane.reportYanked lines).refuses = false := by
  unfold reportYanked
  split
  · rfl
  · exact calm

theorem refuses_operateOnChars (op : Operator) (range : Range) (register : Option Char) :
    (pane.operateOnChars op range register).refuses = false := by
  have stored : (if (pane.buffer.slice range).isEmpty then pane
      else pane.store register .char (pane.buffer.slice range)).refuses = false := by
    split <;> exact calm
  unfold operateOnChars
  cases op with
  | yank =>
      refine refuses_reportYanked ?_ _
      rw [refuses_jump]
      exact stored
  | change => rfl
  | delete =>
      dsimp only at stored ⊢
      split
      · rename_i empty
        rwa [if_pos empty] at stored
      · rename_i filled
        rw [if_neg filled] at stored
        refine refuses_reportFewer ?_ _
        rw [refuses_jump, refuses_eraseRange]
        exact stored

theorem refuses_operateOnLines (op : Operator) (first last : Nat) (register : Option Char) :
    (pane.operateOnLines op first last register).refuses = false := by
  unfold operateOnLines
  cases op with
  | yank =>
      refine refuses_reportYanked ?_ _
      split
      · rw [refuses_jump]
        exact calm
      · exact calm
  | change => rfl
  | delete =>
      dsimp only
      split
      · rfl
      · refine refuses_reportFewer ?_ _
        rw [refuses_jumpToLine, refuses_eraseRange]
        exact calm

theorem refuses_operate (op : Operator) (span : Span) : (pane.operate op span).refuses = false := by
  have dropped : refuses { pane with register := none } = false := calm
  unfold operate
  dsimp only
  split
  · exact refuses_operateOnLines dropped _ _ _ _
  · exact refuses_operateOnChars dropped _ _ _

end Messages

section Execution

/-- Where a substitution has found nothing yet, nothing has changed. -/
structure Tallies (pane : Pane) (state : Pane × Tally) : Prop where
  same : state.2.lastLine = none → state.1 = pane
  message : state.1.refuses = pane.refuses

theorem Tallies.substituteLine {state : Pane × Tally} (tallies : Tallies pane state) (expr : Regex.Expr)
    (replacement : List Char) (flags : SubstituteFlags) (line : Nat) :
    Tallies pane (Pane.substituteLine expr replacement flags state line) := by
  unfold Pane.substituteLine
  dsimp only
  split
  · exact tallies
  · split
    · exact ⟨nofun, tallies.message⟩
    · exact ⟨nofun, (refuses_replaceText _ _ _).trans tallies.message⟩

theorem Tallies.foldl {state : Pane × Tally} (tallies : Tallies pane state) (expr : Regex.Expr)
    (replacement : List Char) (flags : SubstituteFlags) (lines : List Nat) :
    Tallies pane (lines.foldl (Pane.substituteLine expr replacement flags) state) := by
  induction lines generalizing state with
  | nil => exact tallies
  | cons line lines ih => exact ih (tallies.substituteLine expr replacement flags line)

theorem Stays.refl (pane : Pane) : pane.Stays pane := ⟨rfl, rfl, rfl, rfl, rfl, rfl, rfl⟩

/-- The end of a substitution is an error only where nothing was found. -/
theorem Tallies.conclude {state : Pane × Tally} (tallies : Tallies pane state) (calm : pane.refuses = false)
    (source : List Char) (flags : SubstituteFlags) :
    (state.1.concludeSubstitution source flags state.2).refuses = true →
      pane.Stays (state.1.concludeSubstitution source flags state.2) := by
  have quiet := tallies.message.trans calm
  unfold concludeSubstitution
  dsimp only
  split
  · rename_i nothing
    rw [tallies.same nothing]
    exact fun _ => { Stays.refl pane with }
  · split
    · exact nofun
    · split
      · exact nofun
      · intro refuses
        exact absurd (quiet.symm.trans refuses) (by decide)

theorem searchFrom_eq (pane : Pane) (pattern : Pattern) (start : Position) (direction : Direction)
    (count : Nat) :
    (∃ text, pane.searchFrom pattern start direction count = (none, pane.fail text)) ∨
      ∃ pos text, pane.searchFrom pattern start direction count =
        (some ⟨pos, .exclusive, .reset⟩, pane.say text) := by
  unfold searchFrom
  split
  · exact .inl ⟨_, rfl⟩
  · exact .inr ⟨_, _, rfl⟩

variable (calm : pane.refuses = false)
include calm

/-- A substitution that ends in an error has replaced nothing. -/
theorem stays_substitute (range : LineRange) (patternText replacement : List Char) (flags : SubstituteFlags) :
    (pane.substitute range patternText replacement flags).refuses = true →
      pane.Stays (pane.substitute range patternText replacement flags) := by
  unfold substitute
  split
  · exact fun _ => { Stays.refl pane with }
  · split
    · exact fun _ => { Stays.refl pane with }
    · have start : ∀ search last, Tallies { pane with search := search, lastSubstitute := last }
          ({ pane with search := search, lastSubstitute := last }, {}) := fun _ _ => ⟨fun _ => rfl, rfl⟩
      have quiet : ∀ search last,
          refuses { pane with search := search, lastSubstitute := last } = false := fun _ _ => calm
      split
      · exact fun _ => { Stays.refl pane with }
      · intro refuses
        exact { ((start _ _).foldl _ _ _ _).conclude (quiet _ _) _ _ refuses with }

/-- A command line that ends in an error has only remembered what was searched for and set. -/
theorem stays_execute (command : ExCommand) :
    (pane.execute command).refuses = true → pane.Stays (pane.execute command) := by
  cases command with
  | substitute range pattern replacement flags => exact stays_substitute calm range pattern replacement flags
  | repeatSubstitute range =>
      unfold execute
      dsimp only
      split
      · exact stays_substitute calm range _ _ _
      · exact fun _ => { Stays.refl pane with }
  | goto address =>
      intro refuses
      exact absurd (calm.symm.trans refuses) (by decide)
  | quit =>
      unfold execute
      dsimp only
      split <;> exact fun _ => { Stays.refl pane with }
  | exitSave =>
      unfold execute
      dsimp only
      split <;> exact fun _ => { Stays.refl pane with }
  | set args =>
      unfold execute
      dsimp only
      split <;> exact fun _ => { Stays.refl pane with }
  | _ => exact fun _ => { Stays.refl pane with }

omit calm in
/-- A search that ends in an error has moved nothing and operated on nothing. -/
theorem stays_submitSearch (pane : Pane) (text : List Char) (direction : Direction)
    (operator : Option PendingOperator) (count : Option Nat) :
    (pane.submitSearch text direction operator count).refuses = true →
      pane.Stays (pane.submitSearch text direction operator count) := by
  unfold submitSearch
  split
  · exact fun _ => { Stays.refl pane with }
  · split
    · exact fun _ => { Stays.refl pane with }
    · rename_i pattern _
      dsimp only
      rcases searchFrom_eq { pane with search := .commit pattern direction } pattern pane.cursor.pos
        direction (count.getD 1) with ⟨text, eq⟩ | ⟨pos, text, eq⟩
      · rw [eq]
        exact fun _ => { Stays.refl pane with }
      · rw [eq]
        cases operator with
        | none => exact nofun
        | some pending =>
            dsimp only
            split
            · intro refuses
              rw [refuses_operate rfl] at refuses
              contradiction
            · exact nofun

end Execution

section Prompts

/-- A prompt is open that returns to the pane as it was, and nothing is complained about. -/
structure Prompts (pane : Pane) (state : PromptState) (next : Pane) : Prop where
  stays : Stays { pane with prompt := some state, mode := .commandLine } next
  calm : next.refuses = false
  origin : state.origin = pane.mode

theorem Stays.trans (first : pane.Stays middle) (second : middle.Stays next) : pane.Stays next where
  text := second.text.trans first.text
  pos := second.pos.trans first.pos
  registers := second.registers.trans first.registers
  history := second.history.trans first.history
  mode := second.mode.trans first.mode
  prompt := second.prompt.trans first.prompt
  pending := second.pending.trans first.pending

theorem refuses_settle (pane : Pane) : pane.settle.refuses = pane.refuses := by
  obtain ⟨recorder, view, eq, -⟩ := settle_eq pane
  rw [eq]
  rfl

/-- Keys that edit the line of a prompt, up to the one that submits it. -/
inductive Submits : Prompt → List Key → Prop where
  | submit {prompt : Prompt} {key : Key} {text : List Char}
      (submits : (prompt.handleKey key).2 = .submit text) : Submits prompt [key]
  | edit {prompt : Prompt} {key : Key} {keys : List Key} (edits : (prompt.handleKey key).2 = .pending)
      (rest : Submits (prompt.handleKey key).1 keys) : Submits prompt (key :: keys)

/-- Keys that open a prompt: for a command line, for a search, or for a search that an operator waits for. -/
inductive Asks : List Key → PromptKind → Prop where
  | command {front : List Key} {key : Key} {count : Option Nat} {name : Option Char}
      (fronts : Fronts none none front count name)
      (found : Keymap.findOrMotion? Keymap.normal key = some .commandLine) : Asks (front ++ [key]) .command
  | search {front : List Key} {key : Key} {count : Option Nat} {name : Option Char} {direction : Direction}
      (fronts : Fronts none none front count name)
      (found : Keymap.findOrMotion? Keymap.normal key = some (.search direction)) :
      Asks (front ++ [key]) (.search direction)
  | operator {op : Operator} {keys : List Key} {key : Key} {first second : Option Nat} {name : Option Char}
      {direction : Direction} (operated : Operated op keys first second name)
      (types : key.typed? = some direction.sign) : Asks (keys ++ [key]) (.search direction)

theorem Stands.prompts {waits : Option Pending} (stands : Stands pane waits count register middle)
    (ready : pane.Ready) (rests : pane.pending = none) {base : Pane} {kind : PromptKind}
    {operator : Option PendingOperator} {total : Option Nat}
    (handed : ∀ again, dispatchWith again key (middle.record key) =
      some (base.openPrompt kind [] operator total))
    (stays : Stays { middle with pending := none } base) :
    ∃ state next, Handles middle [key] next ∧ state.prompt = .withText kind [] ∧
      Prompts pane state next := by
  have mode : base.mode = pane.mode := stays.mode.trans (stands.alike.same (·.mode) fun _ => rfl)
  refine ⟨⟨.withText kind [], base.mode, operator, total⟩, _, .one handed, rfl, ?_, ?_, mode⟩
  · refine Stays.settle ?_ ready.closed
    exact
      { text := stays.text.trans (stands.alike.same (·.buffer.text) fun _ => rfl)
        pos := stays.pos.trans (stands.alike.same (·.cursor.pos) fun _ => rfl)
        registers := stays.registers.trans (stands.alike.same (·.registers) fun _ => rfl)
        history := stays.history.trans stands.history
        mode := rfl
        prompt := rfl
        pending := stays.pending.trans rests.symm }
  · rw [refuses_settle]
    rfl

theorem handlePending_operator_of_search (pane : Pane) {direction : Direction}
    (types : key.typed? = some direction.sign) (pending : PendingOperator) :
    ∃ total, pane.handlePending (.operator pending) key =
      ({ pane with pending := none }.takeCount.2).openPrompt (.search direction) [] (some ⟨pending.op, none⟩)
        total := by
  have digit : ∀ counting, key.countDigit? counting = none := by
    intro counting
    unfold Key.countDigit?
    rw [types]
    cases direction <;> rfl
  rw [handlePending_of_typed types]
  unfold completePending handleOperatorKey acceptDigit?
  rw [digit, types]
  obtain ⟨op, count⟩ := pending
  cases direction <;> cases op <;> exact ⟨_, rfl⟩

theorem Asks.prompts {kind : PromptKind} (asks : Asks keys kind) (ready : pane.Ready)
    (idle : Stands pane none none none pane) (rests : pane.pending = none) :
    ∃ state next, Handles pane keys next ∧ state.prompt = .withText kind [] ∧ Prompts pane state next := by
  cases asks with
  | @command front key count name fronts found =>
      obtain ⟨middle, handled, stands⟩ := idle.fronts ready fronts
      have takes := (stands.ready ready).toTakesCommands.record key
      have digit := Keymap.countDigit?_of_findOrMotion? found nofun
      obtain ⟨state, next, handles, opened, prompts⟩ := stands.prompts ready rests
        (dispatchWith_command takes stands.isPending (digit _) found nofun) ⟨rfl, rfl, rfl, rfl, rfl, rfl, rfl⟩
      exact ⟨state, next, handled.append handles, opened, prompts⟩
  | @search front key count name direction fronts found =>
      obtain ⟨middle, handled, stands⟩ := idle.fronts ready fronts
      have takes := (stands.ready ready).toTakesCommands.record key
      have digit := Keymap.countDigit?_of_findOrMotion? found nofun
      obtain ⟨state, next, handles, opened, prompts⟩ := stands.prompts ready rests
        (dispatchWith_command takes stands.isPending (digit _) found nofun)
        ⟨rfl, rfl, rfl, rfl, rfl, rfl, stands.isPending⟩
      exact ⟨state, next, handled.append handles, opened, prompts⟩
  | @operator op keys key first second name direction operated types =>
      obtain ⟨middle, handled, stands⟩ := operated.stands ready idle
      have takes := (stands.ready ready).toTakesCommands.record key
      have handed := fun again => dispatchWith_awaited takes stands.isPending again key
      obtain ⟨total, eq⟩ := handlePending_operator_of_search (middle.record key) types ⟨op, first⟩
      rw [eq] at handed
      obtain ⟨state, next, handles, opened, prompts⟩ := stands.prompts ready rests handed
        ⟨rfl, rfl, rfl, rfl, rfl, rfl, rfl⟩
      exact ⟨state, next, handled.append handles, opened, prompts⟩

theorem Prompts.edit {state : PromptState} (prompts : Prompts pane state middle) (ready : pane.Ready)
    (edits : (state.prompt.handleKey key).2 = .pending) :
    ∃ next, Handles middle [key] next ∧
      Prompts pane { state with prompt := (state.prompt.handleKey key).1 } next := by
  have handed : ∀ again, dispatchWith again key (middle.record key) =
      some { middle.record key with prompt := some { state with prompt := (state.prompt.handleKey key).1 } } := by
    intro again
    have event : state.prompt.handleKey key = ((state.prompt.handleKey key).1, .pending) :=
      Prod.ext rfl edits
    unfold dispatchWith
    rw [show (middle.record key).prompt = some state from prompts.stays.prompt]
    dsimp only
    unfold handlePromptKey
    rw [event]
  refine ⟨_, .one handed, ?_, ?_, prompts.origin⟩
  · refine Stays.settle ?_ ready.closed
    exact { prompts.stays with prompt := rfl }
  · rw [refuses_settle]
    exact prompts.calm

theorem Prompts.submit {state : PromptState} (prompts : Prompts pane state middle) (ready : pane.Ready)
    {text : List Char} (submits : (state.prompt.handleKey key).2 = .submit text) :
    ∃ next, Handles middle [key] next ∧ (next.refuses = true → pane.Stays next) := by
  let base : Pane := { middle.record key with prompt := none, mode := state.origin }
  have stays : pane.Stays base := { prompts.stays with mode := prompts.origin, prompt := ready.prompt.symm }
  have handed : ∀ again, dispatchWith again key (middle.record key) =
      some ((middle.record key).submit state text) := by
    intro again
    have event : state.prompt.handleKey key = ((state.prompt.handleKey key).1, .submit text) :=
      Prod.ext rfl submits
    unfold dispatchWith
    rw [show (middle.record key).prompt = some state from prompts.stays.prompt]
    dsimp only
    unfold handlePromptKey
    rw [event]
  refine ⟨_, .one handed, fun refuses => ?_⟩
  rw [refuses_settle] at refuses
  refine Stays.settle (stays.trans ?_) ready.closed
  revert refuses
  unfold Pane.submit
  dsimp only
  have calm : base.refuses = false := prompts.calm
  split
  · exact stays_execute calm _
  · exact stays_submitSearch base _ _ _ _

theorem Submits.stays {prompt : Prompt} (submits : Submits prompt keys) {state : PromptState}
    (prompts : Prompts pane state middle) (opened : state.prompt = prompt) (ready : pane.Ready) :
    ∃ next, Handles middle keys next ∧ (next.refuses = true → pane.Stays next) := by
  induction submits generalizing middle state with
  | submit submits =>
      subst opened
      exact prompts.submit ready submits
  | edit edits rest ih =>
      subst opened
      obtain ⟨edited, first, prompts⟩ := prompts.edit ready edits
      obtain ⟨next, handles, stays⟩ := ih prompts rfl
      exact ⟨next, first.append handles, stays⟩

end Prompts

/-- Commands that fail change nothing.  An operator with a motion, a find or a text object that is not there, or
with a key that means nothing to it, leaves an idle pane as it was; and so does a command line or a search,
behind an operator or not, that ends in an error. -/
theorem Reached.failed_commands_change_nothing (reached : Reached pane) (idle : pane.isIdle = true) :
    (∀ {op : Operator} {keys behind : List Key} {first second : Option Nat} {name : Option Char},
      Operated op keys first second name → pane.Misses op first second behind →
        ∃ next, Handles pane (keys ++ behind) next ∧ pane.Stays next ∧ next.mode = .normal) ∧
    ∀ {opening line : List Key} {kind : PromptKind},
      Asks opening kind → Submits (.withText kind []) line →
        ∃ next, Handles pane (opening ++ line) next ∧
          (next.refuses = true → pane.Stays next ∧ next.mode = .normal) := by
  have ready := reached.ready idle
  have stands := Stands.of_idle idle
  obtain ⟨mode, rests, -⟩ := isIdle_iff.1 idle
  constructor
  · intro op keys behind first second name operated misses
    obtain ⟨next, handles, stays⟩ := operated.misses ready stands rests misses
    exact ⟨next, handles, stays, stays.mode.trans mode⟩
  · intro opening line kind asks submits
    obtain ⟨state, middle, opened, prompt, prompts⟩ := asks.prompts ready stands rests
    obtain ⟨next, handles, stays⟩ := submits.stays prompts prompt ready
    exact ⟨next, opened.append handles, fun refuses => ⟨stays refuses, (stays refuses).mode.trans mode⟩⟩

/-- A find that comes to nothing, and a search for what the text does not have. -/
theorem failed_commands_change_nothing_typed :
    let pane := typedInto "one two\nthree".toList [.char 'y', .char 'w', .char 'x', .char 'u', .char 'l']
    let missed := [.char '2', .char 'd', .char '3', .char 'f', .char 'x']
    let searched := [.char 'd', .char '/', .char 'z', .plain .enter]
    Reached pane ∧ pane.isIdle = true ∧
      (∃ next, Handles pane missed next ∧ pane.Stays next ∧ next.mode = .normal) ∧
        ∃ next, Handles pane searched next ∧ next.refuses = true ∧ pane.Stays next ∧
          next.mode = .normal := by
  intro pane missed searched
  have reached : Reached pane := reached_typedInto _ _
  have idle : pane.isIdle = true := by decide +kernel
  obtain ⟨misses, fails⟩ := reached.failed_commands_change_nothing idle
  have absent : pane.reaches .delete (some 6) (.motion (.find ⟨.forward, false⟩ 'x')) = false := by
    decide +kernel
  have two : (Key.char '2').countDigit? false = some 2 := rfl
  have three : (Key.char '3').countDigit? false = some 3 := rfl
  have digits : Digits none [.char '2'] (some 2) := .cons two (.nil _)
  have front : Fronts none none [.char '2'] (some 2) none := .digits digits none
  have behind : Digits none [.char '3'] (some 3) := .cons three (.nil _)
  have operated : Operated .delete [.char '2', .char 'd', .char '3'] (some 2) (some 3) none :=
    .intro front rfl behind
  have operates : Operated .delete [.char 'd'] none none none :=
    .intro (.digits (.nil none) none) rfl (.nil none)
  have asks : Asks [.char 'd', .char '/'] (.search .forward) :=
    .operator operates rfl
  have submits : Submits (.withText (.search .forward) []) [.char 'z', .plain .enter] :=
    .edit rfl (.submit rfl)
  obtain ⟨next, handles, stays⟩ := fails asks submits
  have reads : pane.handleKeys searched = next := handles.handleKeys
  have refuses : next.refuses = true := by
    rw [← reads]
    decide +kernel
  exact ⟨reached, idle, misses operated (.two (.find rfl) (.find rfl absent)), next, handles, refuses,
    stays refuses⟩

end Pane

end ModalPanes
