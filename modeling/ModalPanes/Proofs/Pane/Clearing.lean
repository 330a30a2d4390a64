import ModalPanes.Proofs.Pane.Prefixes
import ModalPanes.Proofs.Pane.Turns

/-!
# Counts and registers are left behind

A command that is done has taken the count and the register that were typed in front of it, or has dropped
them.  Two things keep what they should not: a count that is typed behind an operator waits on where a text
object completes it, and a register waits on behind every command that has no use for one.
-/

namespace ModalPanes

/-- Keys that wait for another one once the count has been taken. -/
def Pending.tookCount : Pending → Bool
  | .g _ _ | .z | .find _ _ _ | .replace _ => true
  | _ => false

/-- Whether a key completes something that has no use for a register. -/
def Pending.keepsRegister (key : Key) : Pending → Bool
  | .g none _ => (Keymap.find? Keymap.afterG key).isSome
  | .z => (Keymap.find? Keymap.afterZ key).isSome
  | .find _ none _ => key.typed?.isSome
  | .replace _ => (Pane.replacement? key).isSome
  | _ => false

/-- Commands that have no use for a register; one that erases what is in front of the cursor has none where
nothing is. -/
def Command.keepsRegister (col : Nat) : Command → Bool
  | .motion _ | .joinLines | .toggleCase | .undo | .redo | .scroll _ | .visual _ => true
  | .deleteCharBefore => col == 0
  | _ => false

/-- A count is typed only in front of a command or behind an operator. -/
structure Prefixes.Tidy (prefixes : Prefixes) : Prop where
  pending : ∀ pending ∈ prefixes.pending, pending.tookCount = true → prefixes.count = none
  prompt : ∀ state ∈ prefixes.prompt, prefixes.count = none

namespace Prefixes.Tidy

variable {prefixes : Prefixes}

theorem of_count (count : prefixes.count = none) : prefixes.Tidy :=
  ⟨fun _ _ _ => count, fun _ _ => count⟩

theorem of_idle (pending : prefixes.pending = none) (prompt : prefixes.prompt = none) : prefixes.Tidy :=
  ⟨by simp [pending], by simp [prompt]⟩

end Prefixes.Tidy

namespace Pane

/-- The key is one more digit of a count. -/
def readsDigit (pane : Pane) (key : Key) : Bool :=
  pane.prompt.isNone && pane.mode == .normal && pane.pending.isNone && (pane.acceptDigit? key).isSome

/-- The key is the name of a register. -/
def readsName (pane : Pane) (key : Key) : Bool :=
  pane.prompt.isNone && pane.mode == .normal && pane.pending == some .register && key.typed?.isSome

/-- The key leaves the count: it ends typing, or completes a text object behind an operator. -/
def keepsCount (pane : Pane) (key : Key) : Bool :=
  pane.mode.isTyping ||
    pane.pending.any fun pending =>
      match pending with
      | .object _ _ => (key.typed?.bind ObjectKind.ofKey?).isSome
      | _ => false

/-- A search that was typed takes the register if it finds nothing, or if an operator acts on the way to
what it finds. -/
def submitTakesRegister (pane : Pane) (state : PromptState) (text : List Char) : Bool :=
  match state.prompt.kind with
  | .command => false
  | .search direction =>
      ((pane.patternSource? text).bind Pattern.compile?).any fun pattern =>
        (pane.found? pattern pane.cursor.pos direction (state.count.getD 1)).all fun target =>
          state.operator.isSome && (target.span? pane.buffer pane.cursor.pos).isSome

/-- The key leaves the register, since what it completes has no use for one. -/
def keepsRegister (pane : Pane) (key : Key) : Bool :=
  match pane.prompt with
  | some state =>
      match (state.prompt.handleKey key).2 with
      | .submit text => !pane.submitTakesRegister state text
      | _ => false
  | none =>
      match pane.mode, pane.pending with
      | .normal, none =>
          (Keymap.findOrMotion? Keymap.normal key).any (Command.keepsRegister pane.cursor.pos.col)
      | .normal, some pending => pending.keepsRegister key
      | .visual _, none =>
          (Keymap.findOrMotion? Keymap.visual key).any (Command.keepsRegister pane.cursor.pos.col)
      | .visual _, some _ => false
      | _, _ => true

/-- What has been typed of a count and a register is used by what the key completes, or dropped with it. -/
structure Spends (pane : Pane) (key : Key) : Prop where
  digit : pane.readsDigit key = false
  name : pane.readsName key = false
  count : pane.count = none ∨ pane.keepsCount key = false
  register : pane.register = none ∨ pane.keepsRegister key = false

/-- What a key leaves of a count and a register. -/
structure Leaves (pane : Pane) (key : Key) (next : Pane) : Prop where
  tidy : next.prefixes.Tidy
  spent : next.mode = .normal → next.pending = none → next.prompt = none → pane.Spends key →
    next.count = none ∧ next.register = none

variable {pane next : Pane} {key : Key}

namespace Leaves

theorem of_unnamed {base : Pane} (same : next.prefixes = base.prefixes.unnamed)
    (count : base.count = none) : pane.Leaves key next := by
  have counted : next.count = none := (congrArg Prefixes.count same :).trans count
  exact ⟨.of_count counted, fun _ _ _ _ => ⟨counted, congrArg Prefixes.register same⟩⟩

theorem of_kept {base : Pane} (same : next.prefixes = base.prefixes) (count : base.count = none)
    (register : base.register = pane.register) (keeps : pane.keepsRegister key = true) :
    pane.Leaves key next := by
  have counted : next.count = none := (congrArg Prefixes.count same :).trans count
  refine ⟨.of_count counted, fun _ _ _ spends => ⟨counted, ?_⟩⟩
  rcases spends.register with none | takes
  · exact (congrArg Prefixes.register same :).trans (register.trans none)
  · rw [keeps] at takes
    contradiction

/-- A motion has no use for a register, but an operator that waits for one does. -/
theorem moveOrOperate {base : Pane} (op : Option PendingOperator) (motion : Motion) (asked : Option Nat)
    (rests : base.pending = none) (count : base.count = none) (register : base.register = pane.register)
    (keeps : op = none → pane.keepsRegister key = true) :
    pane.Leaves key (base.moveOrOperate op motion asked) := by
  cases op with
  | none => exact .of_kept (prefixes_move _ _ _) count register (keeps rfl)
  | some op => exact .of_unnamed (prefixes_operateByMotion _ _ _ _ count rests) count

theorem withTimes {run : Pane → Nat → Pane} (runs : ∀ n, pane.Leaves key (run pane.takeCount.2 n)) :
    pane.Leaves key (pane.withTimes run) :=
  runs _

/-- One more key is awaited. -/
theorem of_pending {pending : Pending} (tidy : next.prefixes.Tidy) (waits : next.pending = some pending) :
    pane.Leaves key next :=
  ⟨tidy, fun _ rests => absurd (waits.symm.trans rests) (Option.some_ne_none _)⟩

theorem of_prompt {state : PromptState} (count : next.count = none) (asks : next.prompt = some state) :
    pane.Leaves key next :=
  ⟨.of_count count, fun _ _ closed => absurd (asks.symm.trans closed) (Option.some_ne_none _)⟩

theorem of_mode (tidy : next.prefixes.Tidy) (mode : next.mode ≠ .normal) : pane.Leaves key next :=
  ⟨tidy, fun normal => absurd normal mode⟩

theorem of_cancel (base : Pane) : pane.Leaves key base.cancelCommand :=
  ⟨.of_count rfl, fun _ _ _ _ => ⟨rfl, rfl⟩⟩

end Leaves

section Normal

variable (prompt : pane.prompt = none) (mode : pane.mode = .normal)
include prompt mode

theorem keepsRegister_pending {pending : Pending} (waits : pane.pending = some pending) :
    pane.keepsRegister key = pending.keepsRegister key := by
  unfold keepsRegister
  rw [prompt, mode, waits]

theorem keepsRegister_command (waits : pane.pending = none) {command : Command}
    (found : Keymap.findOrMotion? Keymap.normal key = some command) :
    pane.keepsRegister key = command.keepsRegister pane.cursor.pos.col := by
  unfold keepsRegister
  rw [prompt, mode, waits, found]
  rfl

omit mode in
/-- The key behind an operator, which may have a count of its own. -/
theorem handleOperatorKey_leaves (op : PendingOperator) (key : Key) :
    pane.Leaves key (handleOperatorKey { pane with pending := none } op key) := by
  have operated : ∀ motion, pane.Leaves key
      (withCount { pane with pending := none } fun pane count => pane.operateByMotion op motion count) :=
    fun motion => .of_unnamed (prefixes_operateByMotion _ _ _ _ rfl rfl) rfl
  have waiting : ∀ (count : Option Nat) (pending : Pending), pending.tookCount = false →
      Prefixes.Tidy ⟨some pending, count, pane.register, pane.prompt⟩ := by
    intro count pending took
    refine ⟨fun other mem takes => ?_, by simp [prompt]⟩
    obtain rfl := Option.some.inj mem
    rw [took] at takes
    contradiction
  unfold handleOperatorKey
  split
  · rename_i counted digit
    obtain ⟨value, -, rfl⟩ := Option.map_eq_some_iff.1 digit
    exact .of_pending (waiting _ _ rfl) rfl
  · extract_lets plain merged search byTable
    have tabled : pane.Leaves key byTable := by
      unfold byTable
      split
      · exact operated _
      · exact .of_pending (.of_count rfl) rfl
      · exact .of_pending (.of_count rfl) rfl
      · exact .of_cancel _
    split
    · exact tabled
    · split
      · exact .of_unnamed (prefixes_operateOnLinesHere _ _ _) rfl
      · split
        · exact .of_pending (waiting _ _ rfl) rfl
        · split
          · exact .of_prompt rfl rfl
          · split
            · exact .of_prompt rfl rfl
            · exact tabled

theorem replaceChars_leaves {asked : Option Nat} (waits : pane.pending = some (.replace asked))
    (count : pane.count = none) (times : Nat) :
    pane.Leaves key (replaceChars { pane with pending := none } key times) := by
  unfold replaceChars
  split
  · exact .of_cancel _
  · rename_i c replaces
    have keeps : pane.keepsRegister key = true := by
      rw [keepsRegister_pending prompt mode waits, Pending.keepsRegister, replaces]
      rfl
    have erased := fun range => prefixes_eraseRange { pane with pending := none } range
    have written := fun range pos text => (prefixes_insertText _ text pos).trans (erased range)
    dsimp only
    split
    · exact ⟨.of_count count, fun _ _ _ _ => ⟨count, rfl⟩⟩
    · split
      · exact .of_kept ((prefixes_jump _ _ _).trans (written _ _ _)) count rfl keeps
      · exact .of_kept ((prefixes_jump _ _ _).trans (written _ _ _)) count rfl keeps

theorem handlePending_leaves (tidy : pane.prefixes.Tidy) {pending : Pending}
    (waits : pane.pending = some pending) (fits : pending.InNormal) (key : Key) :
    pane.Leaves key (pane.handlePending pending key) := by
  have count : pending.tookCount = true → pane.count = none := tidy.pending pending waits
  have keeps : pending.keepsRegister key = true → pane.keepsRegister key = true := fun keeps =>
    (keepsRegister_pending prompt mode waits).trans keeps
  unfold handlePending completePending
  split
  · exact .of_cancel _
  · cases pending with
    | register =>
        dsimp only
        split
        · rename_i name types
          refine ⟨.of_idle rfl prompt, fun _ _ _ spends => ?_⟩
          have other := spends.name
          simp [readsName, prompt, mode, waits, types] at other
        · exact .of_cancel _
    | g op asked =>
        dsimp only
        split
        · rename_i motion found
          refine .moveOrOperate op motion asked rfl (count rfl) rfl fun alone => keeps ?_
          rw [alone, Pending.keepsRegister, found]
          rfl
        · exact .of_cancel _
    | z =>
        have finds : ∀ {command : Command}, Keymap.find? Keymap.afterZ key = some command →
            pane.keepsRegister key = true := fun found => keeps (by simp [Pending.keepsRegister, found])
        dsimp only
        split
        · rename_i found
          exact .of_kept (prefixes_execute _ _) (count rfl) rfl (finds found)
        · rename_i found
          exact .of_kept (prefixes_execute _ _) (count rfl) rfl (finds found)
        · exact .of_cancel _
    | find find op asked =>
        dsimp only
        split
        · rename_i c types
          refine .moveOrOperate op (.find find c) asked rfl (count rfl) rfl fun alone => keeps ?_
          rw [alone, Pending.keepsRegister, types]
          rfl
        · exact .of_cancel _
    | replace asked => exact replaceChars_leaves prompt mode waits (count rfl) _
    | operator op => exact handleOperatorKey_leaves prompt op key
    | object op around =>
        cases op with
        | none => exact fits.elim
        | some op =>
            dsimp only
            split
            · rename_i kind named
              unfold selectOrOperate
              dsimp only
              split
              · rename_i span found
                have same := prefixes_operate { pane with pending := none } op.op span
                have rests := (congrArg Prefixes.pending same :)
                have asks := (congrArg Prefixes.prompt same :).trans prompt
                refine ⟨.of_idle rests asks, fun _ _ _ spends => ?_⟩
                refine ⟨(congrArg Prefixes.count same :).trans ?_, congrArg Prefixes.register same⟩
                rcases spends.count with none | takes
                · exact none
                · simp [keepsCount, waits, named] at takes
              · exact .of_cancel _
            · exact .of_cancel _

/-- A command of Normal mode takes the count or drops it, and most have taken the register when they are
done. -/
theorem runNormal_leaves (waits : pane.pending = none) {command : Command}
    (found : Keymap.findOrMotion? Keymap.normal key = some command) :
    pane.Leaves key (pane.runNormal command) := by
  have keeps := keepsRegister_command prompt mode waits found
  have enters : ∀ {next : Pane}, next.count = none → (next.mode == .normal) = false → pane.Leaves key next :=
    fun count entered => .of_mode (.of_count count) (ne_of_beq_false entered)
  have opened : ∀ below, (pane.takeCount.2.openLine below).count = none :=
    fun below => congrArg Prefixes.count (pane.takeCount.2.prefixes_openLine below)
  obtain ⟨notSave, notQuit⟩ := findOrMotion?_ne key
  cases command with
  | motion motion =>
      show pane.Leaves key (pane.takeCount.2.move motion pane.count)
      exact .of_kept (prefixes_move _ _ _) rfl rfl keeps
  | awaitFind find => exact .of_pending (.of_count rfl) rfl
  | awaitG => exact .of_pending (.of_count rfl) rfl
  | awaitZ => exact .of_pending (.of_count rfl) rfl
  | awaitReplace => exact .of_pending (.of_count rfl) rfl
  | operator op => exact .of_pending (.of_count rfl) rfl
  | awaitRegister =>
      refine .of_pending ⟨fun pending mem took => ?_, by simp [prefixes, runNormal, await, prompt]⟩ rfl
      obtain rfl := Option.some.inj mem
      contradiction
  | insert => exact enters rfl rfl
  | append =>
      refine .withTimes fun n => enters ?_ rfl
      exact congrArg Prefixes.count (prefixes_appendHere _ n)
  | insertAtLineStart => exact enters rfl rfl
  | appendAtLineEnd => exact enters rfl rfl
  | openBelow => exact enters (opened true) rfl
  | openAbove => exact enters (opened false) rfl
  | replaceMode => exact enters rfl rfl
  | visual kind => exact enters rfl rfl
  | deleteChar => exact .withTimes fun n => .of_unnamed (prefixes_operateOnCharsHere _ _ _) rfl
  | substituteChar => exact .withTimes fun n => .of_unnamed (prefixes_operateOnCharsHere _ _ _) rfl
  | substituteLine => exact .withTimes fun n => .of_unnamed (prefixes_operateOnLinesHere _ _ _) rfl
  | yankLine => exact .withTimes fun n => .of_unnamed (prefixes_operateOnLinesHere _ _ _) rfl
  | deleteToEnd =>
      show pane.Leaves key (pane.takeCount.2.operateByMotion ⟨.delete, pane.count⟩ .lineEnd none)
      exact .of_unnamed (prefixes_operateByMotion _ _ _ _ rfl waits) rfl
  | changeToEnd =>
      show pane.Leaves key (pane.takeCount.2.operateByMotion ⟨.change, pane.count⟩ .lineEnd none)
      exact .of_unnamed (prefixes_operateByMotion _ _ _ _ rfl waits) rfl
  | deleteCharBefore =>
      refine .withTimes fun n => ?_
      unfold eraseCharsBefore
      dsimp only
      split
      · exact .of_unnamed (prefixes_operate _ _ _) rfl
      · rename_i start
        exact .of_kept rfl rfl rfl (keeps.trans (beq_iff_eq.2 (Nat.eq_zero_of_not_pos start)))
  | putAfter => exact .withTimes fun n => .of_unnamed (prefixes_put _ _ _) rfl
  | putBefore => exact .withTimes fun n => .of_unnamed (prefixes_put _ _ _) rfl
  | joinLines =>
      show pane.Leaves key (pane.takeCount.2.joinLines pane.cursor.pos.line (pane.count.getD 2))
      exact .of_kept (prefixes_joinLines _ _ _) rfl rfl keeps
  | toggleCase => exact .withTimes fun n => .of_kept (prefixes_toggleCase _ _) rfl rfl keeps
  | undo => exact .of_kept (prefixes_revisit pane.dropCount _ _) rfl rfl keeps
  | redo => exact .of_kept (prefixes_revisit pane.dropCount _ _) rfl rfl keeps
  | scroll way => exact .of_kept (prefixes_scroll pane.dropCount _ _) rfl rfl keeps
  | commandLine => exact .of_prompt rfl rfl
  | search direction => exact .of_prompt rfl rfl
  | exitSave => exact absurd found notSave
  | forceQuit => exact absurd found notQuit
  | _ => exact .of_cancel _

end Normal

section Prompts

variable {state : PromptState}

/-- A search that was typed leaves the register where nothing takes it. -/
theorem submitSearch_leaves (count : pane.count = none) {direction : Direction}
    (searches : state.prompt.kind = .search direction) {text : List Char}
    (keeps : pane.keepsRegister key = !pane.submitTakesRegister state text) :
    pane.Leaves key (submitSearch { pane with prompt := none, mode := state.origin } text direction
      state.operator state.count) := by
  let base : Pane := { pane with prompt := none, mode := state.origin }
  unfold submitTakesRegister at keeps
  rw [searches] at keeps
  dsimp only at keeps
  unfold submitSearch
  split
  · rename_i absent
    rw [show pane.patternSource? text = none from absent] at keeps
    exact .of_kept (base.prefixes_fail _) count rfl keeps
  · rename_i source present
    rw [show pane.patternSource? text = some source from present, Option.bind_some] at keeps
    split
    · rename_i absent
      rw [absent] at keeps
      exact .of_kept (base.prefixes_fail _) count rfl keeps
    · rename_i pattern compiled
      rw [compiled, Option.any_some] at keeps
      let searching : Pane := { base with search := .commit pattern direction }
      have leads := searching.searchFrom_fst pattern base.cursor.pos direction (state.count.getD 1)
      have same := searching.prefixes_searchFrom pattern base.cursor.pos direction (state.count.getD 1)
      have idles := searching.searchFrom_idles pattern base.cursor.pos direction (state.count.getD 1)
      dsimp only
      split
      · rename_i other found
        rw [found] at same
        exact .of_unnamed (congrArg Prefixes.unnamed same) count
      · rename_i target other found
        rw [found] at leads same idles
        rw [show pane.found? pattern pane.cursor.pos direction (state.count.getD 1) = some target from
          leads.symm] at keeps
        split
        · rename_i alone
          rw [alone] at keeps
          exact .of_kept ((prefixes_goTo _ _).trans same) count rfl keeps
        · rename_i pending waits
          have buffer : other.buffer = pane.buffer := (congrArg Pane.buffer idles.bare :)
          rw [buffer]
          split
          · exact .of_unnamed ((prefixes_operate _ _ _).trans (congrArg Prefixes.unnamed same)) count
          · rename_i empty
            refine .of_kept same count rfl (keeps.trans ?_)
            rw [Option.all_some, show target.span? pane.buffer pane.cursor.pos = none from empty, waits]
            rfl

theorem handlePromptKey_leaves (prompt : pane.prompt = some state) (tidy : pane.prefixes.Tidy) (key : Key) :
    pane.Leaves key (pane.handlePromptKey state key) := by
  have count : pane.count = none := tidy.prompt state prompt
  unfold handlePromptKey
  split
  · exact .of_prompt count rfl
  · exact .of_cancel _
  · rename_i text handled
    have keeps : pane.keepsRegister key = !pane.submitTakesRegister state text := by
      unfold keepsRegister
      rw [prompt]
      dsimp only
      rw [handled]
    unfold submit
    dsimp only
    split
    · rename_i commands
      refine .of_kept (prefixes_execute _ _) count rfl (keeps.trans ?_)
      rw [submitTakesRegister, commands]
      rfl
    · rename_i direction searches
      exact submitSearch_leaves count searches keeps

end Prompts

end Pane

end ModalPanes
