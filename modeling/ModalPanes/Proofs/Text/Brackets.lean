import ModalPanes.Text.Object
import Mathlib.Data.List.Induction
import Mathlib.Data.Nat.Init

/-!
# Brackets that belong together

Read from the start of a text, an opening bracket waits on a stack, and a closing one is matched with the last
that waits.  The searches of the editor count depths instead, back from a place and forward from it: the depth of
a bracket is its place on the stack there.
-/

namespace ModalPanes

namespace Bracket

/-- The opening brackets that wait for their partners, the last one first, and the pairs that were matched. -/
structure Reading where
  waiting : List Nat := []
  matched : List (Nat × Nat) := []
deriving DecidableEq

/-- Read a character with its index. -/
def Reading.next (left right : Char) (reading : Reading) (entry : Char × Nat) : Reading :=
  if entry.1 = left then { reading with waiting := entry.2 :: reading.waiting }
  else if entry.1 = right then
    match reading.waiting with
    | [] => reading
    | first :: waiting => ⟨waiting, (first, entry.2) :: reading.matched⟩
  else reading

/-- Read a text from its start. -/
def read (left right : Char) (text : List Char) : Reading := text.zipIdx.foldl (Reading.next left right) {}

variable {left right : Char} {text front back : List Char} {c : Char} {o k : Nat}

abbrev waiting (left right : Char) (text : List Char) : List Nat := (read left right text).waiting

/-- The pairs of brackets of a text that are matched, as indices. -/
abbrev matched (left right : Char) (text : List Char) : List (Nat × Nat) := (read left right text).matched

theorem read_concat : read left right (text ++ [c]) = (read left right text).next left right (c, text.length) := by
  simp [read, List.zipIdx_append]

theorem waiting_concat :
    waiting left right (text ++ [c]) =
      if c = left then text.length :: waiting left right text
      else if c = right then (waiting left right text).tail
      else waiting left right text := by
  unfold waiting
  rw [read_concat, Reading.next]
  split_ifs
  · rfl
  · cases waits : (read left right text).waiting <;> simp [waits]
  · rfl

theorem waiting_concat_left : waiting left right (text ++ [left]) = text.length :: waiting left right text := by
  rw [waiting_concat, if_pos rfl]

theorem waiting_concat_right (ne : left ≠ right) :
    waiting left right (text ++ [right]) = (waiting left right text).tail := by
  rw [waiting_concat, if_neg (Ne.symm ne), if_pos rfl]

theorem getElem?_of_mem_waiting (mem : o ∈ waiting left right text) : text[o]? = some left := by
  induction text using List.reverseRecOn with
  | nil => cases mem
  | append_singleton text c ih =>
      have earlier : text[o]? = some left → (text ++ [c])[o]? = some left := fun found => by
        rw [List.getElem?_append_left (List.getElem?_eq_some_iff.1 found).1, found]
      rw [waiting_concat] at mem
      split_ifs at mem with opens closes
      · rcases List.mem_cons.1 mem with rfl | mem
        · simp [opens]
        · exact earlier (ih mem)
      · exact earlier (ih (List.mem_of_mem_tail mem))
      · exact earlier (ih mem)

theorem lt_length_of_mem_waiting (mem : o ∈ waiting left right text) : o < text.length :=
  (List.getElem?_eq_some_iff.1 (getElem?_of_mem_waiting mem)).1

theorem waiting_sorted (left right : Char) (text : List Char) : (waiting left right text).Pairwise (· > ·) := by
  induction text using List.reverseRecOn with
  | nil => exact .nil
  | append_singleton text c ih =>
      rw [waiting_concat]
      split_ifs
      · exact List.pairwise_cons.2 ⟨fun o mem => lt_length_of_mem_waiting mem, ih⟩
      · exact ih.tail
      · exact ih

theorem le_of_head {last : Nat} (head : (waiting left right text).head? = some last)
    (mem : o ∈ waiting left right text) : o ≤ last := by
  have sorted := waiting_sorted left right text
  obtain ⟨later, eq⟩ := List.head?_eq_some_iff.1 head
  rw [eq] at mem sorted
  rcases List.mem_cons.1 mem with rfl | mem
  · exact Nat.le_refl o
  · exact Nat.le_of_lt ((List.pairwise_cons.1 sorted).1 o mem)

/-- What waits at the end of a text waited already in front of a part of it, or is a bracket of that part. -/
theorem mem_waiting_append (mem : o ∈ waiting left right (front ++ back)) :
    o ∈ waiting left right front ∨ front.length ≤ o := by
  induction back using List.reverseRecOn with
  | nil => exact .inl (by simpa using mem)
  | append_singleton back c ih =>
      rw [← List.append_assoc, waiting_concat] at mem
      split_ifs at mem
      · rcases List.mem_cons.1 mem with rfl | mem
        · exact .inr (by simp)
        · exact ih mem
      · exact ih (List.mem_of_mem_tail mem)
      · exact ih mem

theorem mem_matched_concat :
    (o, k) ∈ matched left right (text ++ [c]) ↔
      (o, k) ∈ matched left right text ∨
        k = text.length ∧ c = right ∧ left ≠ right ∧ (waiting left right text).head? = some o := by
  unfold matched waiting
  rw [read_concat, Reading.next]
  dsimp only
  split_ifs with opens closes
  · have other : c = right → left = right := fun closes => opens ▸ closes
    grind
  · subst closes
    cases waits : (read left c text).waiting with
    | nil => simp
    | cons first waiting => simp [Ne.symm opens, eq_comm, and_comm, or_comm]
  · simp [closes]

/-- Two brackets are matched where the second closes the last that waits in front of it. -/
theorem mem_matched_iff :
    (o, k) ∈ matched left right text ↔
      text[k]? = some right ∧ left ≠ right ∧ (waiting left right (text.take k)).head? = some o := by
  induction text using List.reverseRecOn with
  | nil => simp [matched, read]
  | append_singleton text c ih =>
      rw [mem_matched_concat, ih]
      rcases Nat.lt_trichotomy k text.length with inside | rfl | behind
      · rw [List.getElem?_append_left inside, List.take_append_of_le_length (Nat.le_of_lt inside)]
        have other : k ≠ text.length := Nat.ne_of_lt inside
        simp [other]
      · simp
      · have other : k ≠ text.length := Nat.ne_of_gt behind
        rw [List.getElem?_eq_none (Nat.le_of_lt behind), List.getElem?_eq_none (by simp; omega)]
        simp [other]

theorem getElem?_of_matched (mem : (o, k) ∈ matched left right text) :
    text[o]? = some left ∧ text[k]? = some right ∧ o < k := by
  obtain ⟨closes, -, head⟩ := mem_matched_iff.1 mem
  have waits := List.mem_of_head? head
  have opens := getElem?_of_mem_waiting waits
  have lt := lt_length_of_mem_waiting waits
  rw [List.length_take] at lt
  have lt : o < k := by omega
  rw [List.getElem?_take_of_lt lt] at opens
  exact ⟨opens, closes, lt⟩

theorem mem_waiting_of_matched {j : Nat} (mem : (o, k) ∈ matched left right text) (behind : o < j)
    (le : j ≤ k) : o ∈ waiting left right (text.take j) := by
  obtain ⟨closes, -, head⟩ := mem_matched_iff.1 mem
  have inside : k < text.length := (List.getElem?_eq_some_iff.1 closes).1
  have parts : text.take k = text.take j ++ (text.drop j).take (k - j) := by
    rw [← List.take_add, Nat.add_sub_cancel' le]
  rcases mem_waiting_append (parts ▸ List.mem_of_head? head) with waits | late
  · exact waits
  · rw [List.length_take] at late
    omega

/-- While it waits, a bracket is not closed. -/
theorem le_of_matched_of_waiting {j : Nat} (mem : (o, k) ∈ matched left right text)
    (waits : o ∈ waiting left right (text.take j)) : j ≤ k := by
  obtain ⟨closes, ne, head⟩ := mem_matched_iff.1 mem
  obtain ⟨inside, here⟩ := List.getElem?_eq_some_iff.1 closes
  by_contra lt
  have parts : text.take j = text.take k ++ [right] ++ (text.drop (k + 1)).take (j - (k + 1)) := by
    rw [← here, List.take_append_getElem, ← List.take_add, Nat.add_sub_cancel' (by omega)]
  obtain ⟨later, eq⟩ := List.head?_eq_some_iff.1 head
  have sorted := waiting_sorted left right (text.take k)
  rcases mem_waiting_append (parts ▸ waits) with waits | late
  · rw [waiting_concat_right ne, eq, List.tail_cons] at waits
    rw [eq] at sorted
    exact Nat.lt_irrefl o ((List.pairwise_cons.1 sorted).1 o waits)
  · have lt := (getElem?_of_matched mem).2.2
    simp at late
    omega

theorem matched_unique {j : Nat} (mem : (o, j) ∈ matched left right text)
    (other : (o, k) ∈ matched left right text) : j = k := by
  have first : ∀ {j k}, (o, j) ∈ matched left right text → (o, k) ∈ matched left right text →
      k ≤ j := by
    intro j k mem other
    by_contra lt
    have behind := (getElem?_of_matched mem).2.2
    have waits := mem_waiting_of_matched other (j := j + 1) (by omega) (by omega)
    exact absurd (le_of_matched_of_waiting mem waits) (by omega)
  exact Nat.le_antisymm (first other mem) (first mem other)

/-- What waits at one place and not at a later one is closed in between. -/
theorem exists_matched_of_waiting {j n : Nat} (ne : left ≠ right) (waits : o ∈ waiting left right (text.take j))
    (le : j ≤ n) (gone : o ∉ waiting left right (text.take n)) :
    ∃ k, j ≤ k ∧ k < n ∧ (o, k) ∈ matched left right text := by
  induction n, le using Nat.le_induction with
  | base => exact absurd waits gone
  | succ n le ih =>
      by_cases still : o ∈ waiting left right (text.take n)
      · refine ⟨n, le, Nat.lt_succ_self n, ?_⟩
        rcases Nat.lt_or_ge n text.length with inside | behind
        · rw [← List.take_append_getElem inside, waiting_concat] at gone
          split_ifs at gone with opens closes
          · exact absurd (List.mem_cons_of_mem _ still) gone
          · refine mem_matched_iff.2 ⟨closes ▸ List.getElem?_eq_getElem inside, ne, ?_⟩
            obtain ⟨last, waiting, eq⟩ := List.exists_cons_of_ne_nil (List.ne_nil_of_mem still)
            rw [eq] at still gone ⊢
            obtain rfl := (List.mem_cons.1 still).resolve_right gone
            rfl
          · exact absurd still gone
        · rw [List.take_of_length_le (by omega)] at still gone
          exact absurd still gone
      · obtain ⟨k, after, before, mem⟩ := ih still
        exact ⟨k, after, Nat.lt_succ_of_lt before, mem⟩

/-- Of the pairs around a place, the last bracket that waits there belongs to the innermost one. -/
theorem exists_enclosing {first last j : Nat} (mem : (first, last) ∈ matched left right text)
    (before : first < j) (behind : j ≤ last) :
    ∃ o k, (waiting left right (text.take j)).head? = some o ∧ (o, k) ∈ matched left right text ∧
      first ≤ o ∧ k ≤ last := by
  obtain ⟨-, ne, head⟩ := mem_matched_iff.1 mem
  have waits := mem_waiting_of_matched mem before behind
  obtain ⟨o, top⟩ := Option.isSome_iff_exists.1 (List.isSome_head?.2 (List.ne_nil_of_mem waits))
  rcases Nat.lt_or_eq_of_le (le_of_head top waits) with lt | rfl
  · have gone : o ∉ waiting left right (text.take last) := fun waits => absurd (le_of_head head waits) (by omega)
    obtain ⟨k, -, le, closed⟩ := exists_matched_of_waiting ne (List.mem_of_head? top) behind gone
    exact ⟨o, k, top, closed, Nat.le_of_lt lt, Nat.le_of_lt le⟩
  · exact ⟨first, last, top, mem, Nat.le_refl _, Nat.le_refl _⟩

/-- Back from the end of a text, the depths count the brackets that wait there. -/
theorem opening?_eq (ne : left ≠ right) (depth : Nat) (before : List Char) :
    opening? left right depth before = (waiting left right before.reverse)[depth]? := by
  induction before generalizing depth with
  | nil => rfl
  | cons c rest ih =>
      rw [List.reverse_cons, waiting_concat]
      unfold opening?
      by_cases closes : c = right
      · rw [if_pos closes, if_neg (closes ▸ Ne.symm ne), if_pos closes, ih, List.getElem?_tail]
      · by_cases opens : c = left
        · rw [if_neg closes, if_pos opens, if_pos opens]
          cases depth with
          | zero => simp
          | succ inner => simpa using ih inner
        · rw [if_neg closes, if_neg opens, if_neg opens, if_neg closes, ih]

section Closing

variable {depth : Nat} {rest : List Char}

theorem closing?_left :
    closing? left right depth (left :: rest) = (closing? left right (depth + 1) rest).map (· + 1) := by
  simp [closing?]

theorem closing?_right_zero (ne : left ≠ right) : closing? left right 0 (right :: rest) = some 0 := by
  simp [closing?, Ne.symm ne]

theorem closing?_right_succ (ne : left ≠ right) :
    closing? left right (depth + 1) (right :: rest) = (closing? left right depth rest).map (· + 1) := by
  simp [closing?, Ne.symm ne]

theorem closing?_other (opens : c ≠ left) (closes : c ≠ right) :
    closing? left right depth (c :: rest) = (closing? left right depth rest).map (· + 1) := by
  simp [closing?, opens, closes]

/-- A search forward for the partner of a bracket passes a character behind which the bracket still waits. -/
theorem matched_iff_of_pass {found : Option Nat} {m : Nat} (waits : o ∈ waiting left right (front ++ [c]))
    (later : ∀ m, found = some m ↔
      (o, (front ++ [c]).length + m) ∈ matched left right (front ++ [c] ++ rest)) :
    found.map (· + 1) = some m ↔ (o, front.length + m) ∈ matched left right (front ++ c :: rest) := by
  rw [show front ++ c :: rest = front ++ [c] ++ rest by simp]
  cases m with
  | zero =>
      have still : o ∈ waiting left right ((front ++ [c] ++ rest).take (front.length + 1)) := by
        rwa [List.take_left' (by simp)]
      have unmatched : (o, front.length + 0) ∉ matched left right (front ++ [c] ++ rest) :=
        fun mem => absurd (le_of_matched_of_waiting mem still) (by omega)
      exact iff_of_false (by simp) unmatched
  | succ m =>
      have index : front.length + (m + 1) = (front ++ [c]).length + m := by
        rw [List.length_append, List.length_singleton]
        omega
      rw [index, ← later m]
      simp

/-- Forward from a place, the depths lead to the partner of the bracket that waits there at that depth. -/
theorem closing?_eq_some_iff {m : Nat} (ne : left ≠ right) (waits : (waiting left right front)[depth]? = some o) :
    closing? left right depth back = some m ↔
      (o, front.length + m) ∈ matched left right (front ++ back) := by
  induction back generalizing front depth m with
  | nil =>
      rw [mem_matched_iff]
      simp [closing?]
  | cons c rest ih =>
      by_cases opens : c = left
      · subst opens
        have waits : (waiting c right (front ++ [c]))[depth + 1]? = some o := by
          rwa [waiting_concat_left]
        rw [closing?_left]
        exact matched_iff_of_pass (List.mem_of_getElem? waits) fun m => ih waits
      · by_cases closes : c = right
        · subst closes
          cases depth with
          | succ depth =>
              have waits : (waiting left c (front ++ [c]))[depth]? = some o := by
                rwa [waiting_concat_right ne, List.getElem?_tail]
              rw [closing?_right_succ ne]
              exact matched_iff_of_pass (List.mem_of_getElem? waits) fun m => ih waits
          | zero =>
              have here : (o, front.length) ∈ matched left c (front ++ c :: rest) :=
                mem_matched_iff.2 ⟨by simp, ne, by rw [List.take_left, List.head?_eq_getElem?, waits]⟩
              rw [closing?_right_zero ne, Option.some.injEq]
              constructor
              · rintro rfl
                exact here
              · intro mem
                have same := matched_unique here mem
                omega
        · have waits : (waiting left right (front ++ [c]))[depth]? = some o := by
            rwa [waiting_concat, if_neg opens, if_neg closes]
          rw [closing?_other opens closes]
          exact matched_iff_of_pass (List.mem_of_getElem? waits) fun m => ih waits

end Closing

theorem opening?_same (mark : Char) (depth : Nat) (before : List Char) : opening? mark mark depth before = none := by
  induction before generalizing depth with
  | nil => rfl
  | cons c rest ih =>
      unfold opening?
      by_cases closes : c = mark
      · rw [if_pos closes, ih]
      · rw [if_neg closes, if_neg closes, ih]

theorem closing?_same (mark : Char) (depth : Nat) (after : List Char) : closing? mark mark depth after = none := by
  induction after generalizing depth with
  | nil => rfl
  | cons c rest ih =>
      by_cases closes : c = mark
      · simp [closing?, ih, closes]
      · simp [closing?, ih, closes]

end Bracket

end ModalPanes
