import ModalPanes.Proofs.Pane.Reaching
import ModalPanes.Proofs.Pane.Recording

/-!
# Keys change no size

The size of a pane is given to it from outside: no key changes it, not even one that repeats a change.
A key that does not repeat takes one of the turns of `Turn`; what all of them keep, and what stays when the
count or the recorder changes, is kept at every depth of repetitions.
-/

namespace ModalPanes

namespace Pane

variable {alphabet : Alphabet} {origin pane next : Pane} {key : Key}

/-- A relation that follows a pane through every turn and through what is set up around a replay. -/
structure Carried (relation : Pane → Pane → Prop) : Prop where
  refl : ∀ pane, relation pane pane
  trans : ∀ {first middle last}, relation first middle → relation middle last → relation first last
  turn : ∀ {key pane next}, Turn .every key pane next → relation pane next
  around : ∀ (pane : Pane) (count : Option Nat) (recorder : Recorder),
    relation pane { pane with count := count, recorder := recorder }

namespace Carried

variable {relation : Pane → Pane → Prop} (carried : Carried relation)
include carried

theorem foldlM {step : Key → Pane → Option Pane}
    (steps : ∀ {key pane next}, pane.Coherent → step key pane = some next →
      next.Coherent ∧ relation pane next) (keys : List Key) (coherent : pane.Coherent)
    (done : keys.foldlM (fun pane key => step key pane) pane = some next) :
    relation pane next := by
  let kept : Pane → Prop := fun last => last.Coherent ∧ relation pane last
  have start : kept pane := ⟨coherent, carried.refl pane⟩
  have goes : ∀ {key : Key} {middle last : Pane}, kept middle → step key middle = some last → kept last := by
    intro key middle last before first
    obtain ⟨fits, related⟩ := steps before.1 first
    exact ⟨fits, carried.trans before.2 related⟩
  exact (foldlM_keeps goes start done).2

theorem repeatChange {step : Key → Pane → Option Pane}
    (steps : ∀ {key pane next}, pane.Coherent → step key pane = some next →
      next.Coherent ∧ relation pane next) (rest : pane.AtRest) {count : Option Nat}
    (repeated : Pane.repeatChange step count pane = some next) : relation pane next := by
  unfold Pane.repeatChange at repeated
  split at repeated
  · cases repeated
    exact carried.refl pane
  · rename_i change remembered
    obtain ⟨last, done, rfl⟩ := Option.map_eq_some_iff.1 repeated
    have ready : AtRest
        { pane with
          count := count.or change.count
          recorder := { pane.recorder with replaying := true } } := { rest with }
    have replayed := carried.foldlM steps change.keys ready.coherent done
    have prepared := carried.around pane (count.or change.count)
      { pane.recorder with replaying := true }
    exact carried.trans (carried.trans prepared replayed) (carried.around last last.count _)

theorem handOut {again : Option Nat → Pane → Option Pane}
    (repeats : ∀ {count pane next}, pane.AtRest → again count pane = some next → relation pane next)
    (coherent : pane.Coherent) (handed : dispatchWith again key pane = some next) :
    relation pane next := by
  have known : key.Known .every := fun _ _ => trivial
  rcases coherent.dispatchWith pane.spelled_every known again with
    ⟨-, rest, same⟩ | ⟨-, other, same, -, turn⟩
  · rw [same] at handed
    have dropped : pane.dropCount.AtRest := { rest with }
    exact carried.trans (carried.around pane none pane.recorder) (repeats dropped handed)
  · rw [same] at handed
    cases handed
    exact carried.turn turn

/-- What every turn keeps is kept by a key at any depth of repetitions. -/
theorem dispatch {depth : Nat} (coherent : pane.Coherent)
    (handed : Pane.dispatch depth key pane = some next) : relation pane next := by
  induction depth generalizing key pane next with
  | zero =>
      refine carried.handOut (fun rest repeated => carried.repeatChange ?_ rest repeated) coherent
        handed
      intro key pane next coherent none
      exact nomatch none
  | succ depth ih =>
      refine carried.handOut (fun rest repeated => carried.repeatChange ?_ rest repeated) coherent
        handed
      intro key pane next coherent handed
      exact ⟨coherent.dispatch handed, ih coherent handed⟩

end Carried

theorem Acts.size (acts : Acts alphabet origin pane) : pane.size = origin.size := by
  induction acts with
  | edits edits => exact edits.keeps.size
  | more acts edits ih => exact edits.keeps.size.trans ih
  | steers acts steers spelled ih => exact steers.size.trans ih

theorem size_revisit (pane : Pane) (step : History → Buffer → Option Position × History × Buffer)
    (count : Nat) : (pane.revisit step count).size = pane.size := by
  rw [revisit_eq]
  rfl

theorem Turn.size (turn : Turn alphabet key pane next) : next.size = pane.size := by
  cases turn with
  | acts acts other => exact acts.size
  | undo rest count => exact size_revisit pane.dropCount History.undo count
  | redo rest count => exact size_revisit pane.dropCount History.redo count
  | executes steers spelled idle completed file =>
      rw [execute_file_eq file]
      exact steers.size

theorem carried_size : Carried fun pane next => next.size = pane.size where
  refl _ := rfl
  trans first second := second.trans first
  turn := Turn.size
  around _ _ _ := rfl

theorem size_settle (pane : Pane) : (settle pane).size = pane.size := by
  obtain ⟨recorder, view, eq, -⟩ := settle_eq pane
  rw [eq]
  rfl

theorem size_resize (pane : Pane) (width height : Nat) :
    (pane.resize width height).size = (width, height) := by
  unfold resize
  split
  · rename_i same
    rw [same.1, same.2]
    rfl
  · rfl

theorem Coherent.handleKey (coherent : pane.Coherent) (key : Key) :
    (pane.handleKey key).Coherent ∧ (pane.handleKey key).size = pane.size := by
  unfold Pane.handleKey
  cases handled : handleKeyWithin deepestRepeat key pane with
  | none => exact ⟨coherent, rfl⟩
  | some next =>
      obtain ⟨settling, handed, rfl⟩ := Option.map_eq_some_iff.1 handled
      have recorded : (pane.record key).Coherent := coherent.recorded _
      have kept : settling.size = (pane.record key).size := carried_size.dispatch recorded handed
      refine ⟨?_, (size_settle settling).trans kept⟩
      obtain ⟨recorder, view, eq, -⟩ := settle_eq settling
      rw [Option.getD_some, eq]
      exact (recorded.dispatch handed).around _ _ _ settling.width settling.height _
        settling.closing

end Pane

end ModalPanes
