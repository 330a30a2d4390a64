import ModalPanes.Proofs.Regex.Advancing

/-!
# Matches that are found

The places of a text are its columns.  A search takes the leftmost match, and goes on behind it; so a match at a
column is found, unless one that starts further to the left reaches over it.
-/

namespace ModalPanes.Regex

variable {text : List Char} {col from_ : Nat} {place stop : Place}

namespace Place

def ofColumn (text : List Char) (col : Nat) : Place := ⟨col, (text.take col).getLast?, text.drop col⟩

theorem ofColumn_zero (text : List Char) : ofColumn text 0 = start text := rfl

theorem ofColumn_succ (inside : col < text.length) :
    ofColumn text (col + 1) = ⟨col + 1, some text[col], text.drop (col + 1)⟩ := by
  have taken : text.take (col + 1) = text.take col ++ [text[col]] := by simp
  unfold ofColumn
  rw [taken, List.getLast?_concat]

theorem next?_ofColumn (inside : col < text.length) :
    (ofColumn text col).next? = some (ofColumn text (col + 1)) := by
  rw [ofColumn_succ inside]
  unfold ofColumn next?
  rw [List.drop_eq_getElem_cons inside]

theorem Onward.eq_ofColumn (onward : (ofColumn text col).Onward stop) (inside : col ≤ text.length) :
    stop = ofColumn text stop.index ∧ stop.index ≤ text.length := by
  generalize start : ofColumn text col = place at onward
  induction onward generalizing col with
  | here place => exact start ▸ ⟨rfl, inside⟩
  | @step place next stop passes further ih =>
      subst start
      have more : col < text.length := by
        rcases Nat.lt_or_ge col text.length with more | ends
        · exact more
        · have none : (ofColumn text col).next? = none := by
            unfold next? ofColumn
            rw [List.drop_of_length_le ends]
          rw [none] at passes
          contradiction
      rw [next?_ofColumn more] at passes
      exact ih more (Option.some.inj passes)

theorem onward_ofColumn (inside : col ≤ text.length) : (start text).Onward (ofColumn text col) := by
  induction col with
  | zero => exact .here _
  | succ col ih => exact (ih (Nat.le_of_succ_le inside)).trans (.step (next?_ofColumn inside) (.here _))

theorem Onward.eq_column (onward : (start text).Onward stop) :
    stop = ofColumn text stop.index ∧ stop.index ≤ text.length := by
  rw [← ofColumn_zero] at onward
  exact onward.eq_ofColumn (Nat.zero_le _)

end Place

open Place

namespace Expr

variable {expr : Expr} {found first : Match} {lastStop : Option Nat} {fuel : Nat}

/-- A search tries one place after the other. -/
theorem find?_eq (expr : Expr) (place : Place) :
    expr.find? place = (expr.matchAt? place).or (place.next?.bind expr.find?) := by
  obtain ⟨index, previous, rest⟩ := place
  cases rest with
  | nil =>
      unfold find? findFrom? next?
      simp
  | cons c rest =>
      change expr.findFrom? index previous (c :: rest) = _
      rw [findFrom?]
      split <;> rename_i here <;> rw [here] <;> rfl

theorem exists_find? (matched : expr.matchAt? (ofColumn text col) = some found) (le : from_ ≤ col)
    (inside : col ≤ text.length) :
    ∃ first, expr.find? (ofColumn text from_) = some first ∧ first.start.index ≤ col := by
  obtain ⟨gap, rfl⟩ := Nat.exists_eq_add_of_le le
  induction gap generalizing from_ with
  | zero =>
      obtain ⟨start, -⟩ := matchAt?_matches matched
      refine ⟨found, ?_, start ▸ Nat.le_refl _⟩
      rw [find?_eq, show ofColumn text from_ = ofColumn text (from_ + 0) from rfl, matched, Option.some_or]
  | succ gap ih =>
      have shift : from_ + (gap + 1) = from_ + 1 + gap := by omega
      rw [shift] at matched inside ⊢
      obtain ⟨later, finds, before⟩ := ih matched (by omega) inside
      rw [find?_eq, next?_ofColumn (by omega), Option.bind_some, finds]
      cases here : expr.matchAt? (ofColumn text from_) with
      | none => exact ⟨later, rfl, before⟩
      | some first =>
          obtain ⟨start, -⟩ := matchAt?_matches here
          refine ⟨first, rfl, ?_⟩
          rw [start]
          show from_ ≤ _
          omega

section Apart

variable (filled : ∀ {found}, (Place.start text).Onward found.start → Matches expr found →
    found.start.index < found.stop.index)
  (apart : ∀ {found}, (Place.start text).Onward found.start → Matches expr found → found.start.index < col →
    found.stop.index ≤ col)
include filled apart

theorem mem_findAllFrom (matched : expr.matchAt? (ofColumn text col) = some found) (inside : col ≤ text.length)
    (le : from_ ≤ col) (enough : col - from_ < fuel) :
    found ∈ expr.findAllFrom fuel (ofColumn text from_) lastStop := by
  induction fuel generalizing from_ lastStop with
  | zero => contradiction
  | succ fuel ih =>
      obtain ⟨first, finds, before⟩ := exists_find? matched le inside
      obtain ⟨further, matches_⟩ := findFrom?_matches finds
      have onward := (onward_ofColumn (Nat.le_trans le inside)).trans further
      have passes := filled onward matches_
      have next : expr.findNext? (ofColumn text from_) lastStop = some first := by
        unfold findNext?
        rw [finds]
        dsimp only
        rw [if_neg (by omega)]
      unfold findAllFrom
      rw [next]
      obtain ⟨start, -⟩ := onward.eq_column
      rcases Nat.lt_or_eq_of_le before with lt | here
      · have stops := apart onward matches_ lt
        obtain ⟨stop, -⟩ := (onward.trans matches_.onward).eq_column
        have least : from_ ≤ first.start.index := further.index_le
        have rest : found ∈ expr.findAllFrom fuel (ofColumn text first.stop.index) (some first.stop.index) :=
          ih stops (by omega)
        rw [← stop] at rest
        exact List.mem_cons_of_mem _ rest
      · have same := matches_.matched
        rw [start, here, matched] at same
        obtain rfl := Option.some.inj same
        exact List.mem_cons_self

/-- A match that no earlier one reaches over is found. -/
theorem mem_findAll (matched : expr.matchAt? (ofColumn text col) = some found) (inside : col ≤ text.length) :
    found ∈ expr.findAll text :=
  mem_findAllFrom filled apart matched inside (Nat.zero_le col) (by omega)

end Apart

theorem findAll_matches (mem : found ∈ expr.findAll text) :
    Matches expr found ∧ found.start = ofColumn text found.start.index := by
  have onward := findAllFrom_onward found mem
  refine ⟨?_, onward.1.eq_column.1⟩
  have all : ∀ (fuel : Nat) (place : Place) (lastStop : Option Nat),
      ∀ found ∈ expr.findAllFrom fuel place lastStop, Matches expr found := by
    intro fuel
    induction fuel with
    | zero => exact fun _ _ _ mem => absurd mem List.not_mem_nil
    | succ fuel ih =>
        intro place lastStop found mem
        unfold findAllFrom at mem
        split at mem
        · contradiction
        · rename_i first here
          rcases List.mem_cons.1 mem with rfl | mem
          · exact (findNext?_matches here).2
          · exact ih _ _ found mem
  exact all _ _ _ found mem

end Expr

end ModalPanes.Regex
