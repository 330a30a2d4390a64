import ModalPanes.Proofs.Text.Place
import Mathlib.Logic.Function.Basic

/-!
# What the history knows of the text

An edit of a plain text leads from one text to another, and its inverse leads back.  A history tracks the
text: the steps done lead from the first text to the present one, the steps undone lead on from there, and
every step ends in the text that stood when it was committed.  Committing, undoing and redoing keep track.
-/

namespace ModalPanes

namespace Edit

/-- An edit leads from one text to another: it puts a text in behind a front part of the first, or takes
one out there. -/
inductive Turns : Edit → List Char → List Char → Prop where
  | insert (front text rest : List Char) :
      Turns (.insert (stopOf .zero front) text) (front ++ rest) (front ++ text ++ rest)
  | erase (front text rest : List Char) :
      Turns (.erase (stopOf .zero front) text) (front ++ text ++ rest) (front ++ rest)

theorem Turns.inverse {edit : Edit} {before after : List Char} (turns : edit.Turns before after) :
    edit.inverse.Turns after before := by
  cases turns with
  | insert front text rest => exact .erase front text rest
  | erase front text rest => exact .insert front text rest

end Edit

namespace Buffer

variable {buf : Buffer} {front text rest : List Char}

theorem text_insert (plain : Plain buf.text) (cut : buf.text = front ++ rest) (text : List Char) :
    (buf.insert (Edit.stopOf .zero front) text).text = front ++ text ++ rest := by
  unfold insert
  split
  · rename_i empty
    rw [List.isEmpty_iff] at empty
    simpa [empty] using cut
  · simp [index_stopOf plain cut, cut]

theorem text_erase (plain : Plain buf.text) (cut : buf.text = front ++ text ++ rest) :
    (buf.erase (Edit.rangeOf (Edit.stopOf .zero front) text)).text = front ++ rest := by
  have start : buf.index (Edit.stopOf .zero front) = front.length :=
    index_stopOf plain (by rw [cut, List.append_assoc])
  have stop : buf.index (Edit.stopOf .zero (front ++ text)) = (front ++ text).length :=
    index_stopOf plain cut
  simp only [erase, Edit.rangeOf_eq, ← Edit.stopOf_append, start, stop]
  split
  · rename_i none
    rw [List.length_append] at none
    have empty : text = [] := List.eq_nil_of_length_eq_zero (by omega)
    simpa [empty] using cut
  · simp [cut]

end Buffer

namespace Edit

theorem Turns.text_apply {edit : Edit} {buf : Buffer} {after : List Char} (plain : Plain buf.text)
    (turns : edit.Turns buf.text after) : (edit.apply buf).text = after := by
  generalize before : buf.text = text at turns
  cases turns with
  | insert front text rest => exact Buffer.text_insert plain before text
  | erase front text rest => exact Buffer.text_erase plain before

end Edit

namespace Transaction

/-- The edits of a step, the newest first, lead from one plain text to another. -/
inductive Leads : List Edit → List Char → List Char → Prop where
  | nil {text : List Char} (plain : Plain text) : Leads [] text text
  | cons {edit : Edit} {edits : List Edit} {before middle after : List Char}
      (earlier : Leads edits before middle) (turns : edit.Turns middle after)
      (plain : Plain after) : Leads (edit :: edits) before after

namespace Leads

variable {edits : List Edit} {before after : List Char}

theorem plain_after (leads : Leads edits before after) : Plain after := by
  cases leads <;> assumption

theorem eq_of_nil (leads : Leads [] before after) : before = after := by
  cases leads
  rfl

end Leads

variable {step : Transaction} {buf : Buffer}

theorem text_undo {before : List Char} (leads : Leads step.edits before buf.text) :
    (step.undo buf).text = before := by
  unfold undo
  generalize step.edits = edits at leads ⊢
  generalize after : buf.text = text at leads
  induction leads generalizing buf with
  | nil plain => exact after
  | cons earlier turns plain ih =>
      subst after
      exact ih (turns.inverse.text_apply plain)

theorem text_redo {after : List Char} (leads : Leads step.edits buf.text after) :
    (step.redo buf).text = after := by
  unfold redo
  generalize step.edits = edits at leads ⊢
  generalize before : buf.text = text at leads
  induction leads with
  | nil plain => exact before
  | cons earlier turns plain ih =>
      rw [List.reverse_cons, List.foldl_append]
      have middle := ih before
      rw [← middle] at turns
      exact turns.text_apply (by rw [middle]; exact earlier.plain_after)

end Transaction

namespace History

open Transaction (Leads)

/-- The steps done, the newest first, lead from the first text to the present one.  `texts` has the text
at which every step was committed, by the number of the step, and the first text under zero. -/
inductive Done (texts : Nat → List Char) : List Transaction → List Char → Prop where
  | nil (plain : Plain (texts 0)) : Done texts [] (texts 0)
  | cons {step : Transaction} {rest : List Transaction} {before : List Char}
      (earlier : Done texts rest before) (leads : Leads step.edits before (texts step.id)) :
      Done texts (step :: rest) (texts step.id)

/-- The steps undone, the next one to redo first, lead on from the present text. -/
inductive Undone (texts : Nat → List Char) : List Transaction → List Char → Prop where
  | nil {text : List Char} : Undone texts [] text
  | cons {step : Transaction} {rest : List Transaction} {text : List Char}
      (leads : Leads step.edits text (texts step.id)) (later : Undone texts rest (texts step.id)) :
      Undone texts (step :: rest) text

/-- A history tracks a text that started from `base` when the step under way did. -/
structure Tracks (texts : Nat → List Char) (history : History) (base text : List Char) : Prop where
  done : Done texts history.done base
  undone : Undone texts history.undone base
  closed : history.current = none → base = text
  underWay : ∀ step, history.current = some step → Leads step.edits base text
  numbered : ∀ step ∈ history.done ++ history.undone, step.id ≤ history.lastId
  /-- From the oldest step to the newest, no number comes twice. -/
  ascending : (0 :: (history.done.reverse ++ history.undone).map Transaction.id).Pairwise (· < ·)

variable {texts : Nat → List Char} {history : History} {base text : List Char}

theorem Done.plain {done : List Transaction} (tracked : Done texts done text) : Plain text := by
  cases tracked with
  | nil plain => exact plain
  | cons earlier leads => exact leads.plain_after

/-- The number of the newest step names the text. -/
theorem Done.eq_texts_stateId (tracked : Done texts history.done text) :
    text = texts history.stateId := by
  unfold stateId
  generalize history.done = done at tracked ⊢
  cases tracked <;> rfl

theorem Done.congr {done : List Transaction} {other : Nat → List Char}
    (tracked : Done texts done text) (first : other 0 = texts 0)
    (same : ∀ step ∈ done, other step.id = texts step.id) : Done other done text := by
  induction tracked with
  | nil plain => exact first ▸ .nil (first ▸ plain)
  | cons earlier leads ih =>
      have newest := same _ List.mem_cons_self
      rw [← newest] at leads ⊢
      exact .cons (ih fun step mem => same step (List.mem_cons_of_mem _ mem)) leads

/-- The texts known once a step has been committed, if that gave out a number. -/
def textsAfter (texts : Nat → List Char) (before after : History) (text : List Char) :
    Nat → List Char :=
  if after.lastId = before.lastId then texts else Function.update texts after.lastId text

namespace Tracks

theorem plain (tracks : Tracks texts history base text) : Plain text := by
  cases current : history.current with
  | none => exact tracks.closed current ▸ tracks.done.plain
  | some step => exact (tracks.underWay step current).plain_after

theorem start (tracks : Tracks texts history base text) (closed : history.current = none)
    (cursor : Position) : Tracks texts (history.start cursor) base text := by
  have baseEq := tracks.closed closed
  simp only [History.start, commit, closed]
  exact
    { done := tracks.done
      undone := tracks.undone
      closed := nofun
      underWay := by
        rintro step ⟨⟩
        exact baseEq ▸ .nil tracks.done.plain
      numbered := tracks.numbered
      ascending := tracks.ascending }

theorem record (tracks : Tracks texts history base text) (isOpen : history.current ≠ none)
    {edit : Edit} {after : List Char} (turns : edit.Turns text after) (plainAfter : Plain after) :
    Tracks texts (history.record edit) base after := by
  unfold History.record
  split
  · rename_i empty
    have same : after = text := by
      rw [List.isEmpty_iff] at empty
      cases turns <;> simp_all [Edit.text]
    exact same ▸ tracks
  · obtain ⟨step, current⟩ := Option.ne_none_iff_exists'.1 isOpen
    exact
      { done := tracks.done
        undone := tracks.undone
        closed := by simp [current]
        underWay := by
          simp only [current, Option.map_some]
          rintro _ ⟨⟩
          exact .cons (tracks.underWay step current) turns plainAfter
        numbered := tracks.numbered
        ascending := tracks.ascending }

theorem dropped (tracks : Tracks texts history base text) {step : Transaction}
    (current : history.current = some step) (empty : step.edits = []) :
    Tracks texts { history with current := none } text text := by
  have leads := tracks.underWay step current
  rw [empty] at leads
  obtain rfl := leads.eq_of_nil
  exact
    { done := tracks.done
      undone := tracks.undone
      closed := fun _ => rfl
      underWay := nofun
      numbered := tracks.numbered
      ascending := tracks.ascending }

/-- A number behind all others may be given to the newest step. -/
theorem ascending_next (tracks : Tracks texts history base text) {step : Transaction}
    (next : step.id = history.lastId + 1) :
    (0 :: ((step :: history.done).reverse ++ []).map Transaction.id).Pairwise (· < ·) := by
  have older := (List.pairwise_append.1
    (List.map_append ▸ tracks.ascending : List.Pairwise _ ((0 :: _) ++ _))).1
  simp only [List.append_nil, List.reverse_cons, List.map_append, List.map_cons, List.map_nil,
    ← List.cons_append]
  refine List.pairwise_append.2 ⟨older, List.pairwise_singleton _ _, ?_⟩
  intro id mem last newest
  obtain rfl := List.mem_singleton.1 newest
  rw [next]
  rcases List.mem_cons.1 mem with rfl | mem
  · exact Nat.succ_pos _
  · obtain ⟨old, done, rfl⟩ := List.mem_map.1 mem
    exact Nat.lt_succ_of_le
      (tracks.numbered old (List.mem_append_left _ (List.mem_reverse.1 done)))

/-- Giving a step the next number and the present text keeps track. -/
theorem pushed (tracks : Tracks texts history base text) {step : Transaction}
    (current : history.current = some step) (cursor : Position) :
    Tracks (Function.update texts (history.lastId + 1) text)
      { done := { step with id := history.lastId + 1, after := cursor } :: history.done
        undone := []
        current := none
        lastId := history.lastId + 1 } text text := by
  have fresh : ∀ id ≤ history.lastId, Function.update texts (history.lastId + 1) text id = texts id :=
    fun id le => Function.update_of_ne (by omega) _ _
  have newest : Function.update texts (history.lastId + 1) text (history.lastId + 1) = text :=
    Function.update_self ..
  have earlier : Done (Function.update texts (history.lastId + 1) text) history.done base :=
    tracks.done.congr (fresh 0 (Nat.zero_le _)) fun step mem =>
      fresh _ (tracks.numbered step (List.mem_append_left _ mem))
  have done : Done (Function.update texts (history.lastId + 1) text)
      ({ step with id := history.lastId + 1, after := cursor } :: history.done)
      (Function.update texts (history.lastId + 1) text (history.lastId + 1)) :=
    .cons earlier (newest.symm ▸ tracks.underWay step current)
  exact
    { done := by simpa only [newest] using done
      undone := .nil
      closed := fun _ => rfl
      underWay := nofun
      numbered := by
        intro step mem
        simp only [List.append_nil, List.mem_cons] at mem
        rcases mem with rfl | mem
        · exact Nat.le_refl _
        · exact Nat.le_succ_of_le (tracks.numbered step (List.mem_append_left _ mem))
      ascending := tracks.ascending_next rfl }

/-- Committing the step under way keeps track; the text is known under the number given out. -/
theorem commit (tracks : Tracks texts history base text) (cursor : Position) :
    Tracks (textsAfter texts history (history.commit cursor).1 text) (history.commit cursor).1
      text text := by
  unfold History.commit textsAfter
  split
  · rename_i current
    simpa [tracks.closed current] using tracks
  · rename_i step current
    split
    · rename_i empty
      rw [if_pos rfl]
      exact tracks.dropped current (List.isEmpty_iff.1 empty)
    · rw [if_neg (Nat.succ_ne_self _)]
      exact tracks.pushed current cursor

variable {buf : Buffer}

theorem undo (tracks : Tracks texts history base buf.text) (closed : history.current = none) :
    Tracks texts (history.undo buf).2.1 (history.undo buf).2.2.text (history.undo buf).2.2.text := by
  obtain rfl := tracks.closed closed
  simp only [History.undo, closed]
  cases newest : history.done with
  | nil => exact tracks
  | cons step rest =>
      have done := tracks.done
      have numbered := tracks.numbered
      rw [newest] at done numbered
      generalize textEq : buf.text = text at done
      cases done with
      | cons earlier leads =>
          have taken : (step.undo buf).text = _ := Transaction.text_undo (textEq ▸ leads)
          simp only [taken]
          have undone := tracks.undone
          rw [textEq] at undone
          exact
            { done := earlier
              undone := .cons leads undone
              closed := fun _ => rfl
              underWay := nofun
              numbered := fun step mem => numbered step (List.perm_middle.mem_iff.1 mem)
              ascending := by simpa [newest] using tracks.ascending }

theorem redo (tracks : Tracks texts history base buf.text) (closed : history.current = none) :
    Tracks texts (history.redo buf).2.1 (history.redo buf).2.2.text (history.redo buf).2.2.text := by
  obtain rfl := tracks.closed closed
  simp only [History.redo]
  cases next : history.undone with
  | nil => exact tracks
  | cons step rest =>
      have undone := tracks.undone
      have numbered := tracks.numbered
      rw [next] at undone numbered
      cases undone with
      | cons leads later =>
          have made : (step.redo buf).text = texts step.id := Transaction.text_redo leads
          simp only [made]
          exact
            { done := .cons tracks.done leads
              undone := later
              closed := fun _ => rfl
              underWay := by simp [closed]
              numbered := fun step mem => numbered step (List.perm_middle.mem_iff.2 mem)
              ascending := by simpa [next] using tracks.ascending }

end Tracks

end History

end ModalPanes
