import ModalPanes.GroundTruth
import Mathlib.Data.Char
import Mathlib.Data.List.Lex

/-!
# What a comparison finds

A value matches what is expected if it has everything that is expected of it, at every depth, and a comparison
reports nothing exactly then.  Each difference that it reports names two values that differ.  A value in which no
name stands twice matches itself.
-/

namespace ModalPanes

namespace Named

variable {α : Type} {named : Named α} {entry : List Char × α}

/-- The names ascend, so that none of them stands twice. -/
def Ascends (named : Named α) : Prop := named.Pairwise fun entry other => entry.1 < other.1

theorem eq_or_mem_of_mem_insert {name : List Char} {value : α} (mem : entry ∈ insert name value named) :
    entry = (name, value) ∨ entry ∈ named := by
  induction named with
  | nil => exact .inl (List.mem_singleton.1 mem)
  | cons first rest ih =>
      rw [insert] at mem
      split_ifs at mem with same less
      · exact (List.mem_cons.1 mem).imp_right (List.mem_cons_of_mem _)
      · exact List.mem_cons.1 mem
      · rcases List.mem_cons.1 mem with rfl | later
        · exact .inr List.mem_cons_self
        · exact (ih later).imp_right (List.mem_cons_of_mem _)

theorem Ascends.insert (ascends : named.Ascends) (name : List Char) (value : α) :
    (insert name value named).Ascends := by
  induction named with
  | nil => exact List.pairwise_singleton _ _
  | cons first rest ih =>
      obtain ⟨below, ascends⟩ := List.pairwise_cons.1 ascends
      rw [Named.insert]
      split_ifs with same less
      · subst same
        exact List.pairwise_cons.2 ⟨below, ascends⟩
      · refine List.pairwise_cons.2 ⟨fun entry mem => ?_, List.pairwise_cons.2 ⟨below, ascends⟩⟩
        rcases List.mem_cons.1 mem with rfl | later
        · exact less
        · exact less.trans (below entry later)
      · refine List.pairwise_cons.2 ⟨fun entry mem => ?_, ih ascends⟩
        rcases eq_or_mem_of_mem_insert mem with rfl | later
        · exact (lt_trichotomy first.1 name).resolve_right fun other =>
            other.elim (fun equal => same equal.symm) less
        · exact below entry later

end Named

namespace Json

/-- Neither an array nor an object. -/
def isScalar : Json → Bool
  | array _ | object _ => false
  | _ => true

/-- A value has what is expected: an object has the expected fields, where a missing one counts as null, an array
has as many items as expected, each of which is as expected, and everything else is the same, numbers by value. -/
inductive Matches : Json → Json → Prop where
  | object {wanted found : List (List Char × Json)}
      (fields : ∀ name value, (name, value) ∈ wanted → Matches value ((found.lookup name).getD null)) :
      Matches (object wanted) (object found)
  | array {wanted found : List Json} (length : wanted.length = found.length)
      (items : ∀ (place : Nat) (value other : Json), wanted[place]? = some value → found[place]? = some other →
        Matches value other) :
      Matches (array wanted) (array found)
  | scalar {value other : Json} (simple : value.isScalar = true) (same : value.same other = true) :
      Matches value other

variable {wanted found : List (List Char × Json)} {items others : List Json} {value other : Json}

theorem matches_object_iff :
    Matches (object wanted) (object found) ↔
      ∀ entry ∈ wanted, Matches entry.2 ((found.lookup entry.1).getD null) := by
  constructor
  · rintro (⟨fields⟩ | _ | simple)
    · exact fun entry mem => fields entry.1 entry.2 mem
    · contradiction
  · exact fun fields => .object fun name value mem => fields (name, value) mem

theorem matches_array_iff :
    Matches (array items) (array others) ↔
      items.length = others.length ∧
        ∀ (place : Nat) (value : Json), items[place]? = some value →
          Matches value (others[place]?.getD null) := by
  constructor
  · rintro (_ | ⟨length, each⟩ | simple)
    · refine ⟨length, fun place value at_ => ?_⟩
      obtain ⟨inside, -⟩ := List.getElem?_eq_some_iff.1 at_
      rw [List.getElem?_eq_getElem (length ▸ inside)]
      exact each place value _ at_ (List.getElem?_eq_getElem _)
    · contradiction
  · rintro ⟨length, each⟩
    refine .array length fun place value other wanted found => ?_
    have matched := each place value wanted
    rwa [found] at matched

end Json

namespace GroundTruth

open Json

/-- The values are not both objects and not both arrays, so that they are compared as a whole. -/
def Whole : Json → Json → Prop
  | .object _, .object _ | .array _, .array _ => False
  | _, _ => True

section Whole

variable {expected actual : Json} (whole : Whole expected actual)
include whole

theorem diff_of_whole (path : List Char) :
    diff path expected actual = if expected.same actual then [] else [⟨path, expected, actual⟩] := by
  unfold diff
  split
  · exact whole.elim
  · exact whole.elim
  · rfl

theorem diff_whole_eq_nil_iff (path : List Char) :
    diff path expected actual = [] ↔ expected.Matches actual := by
  have same : diff path expected actual = [] ↔ expected.same actual = true := by
    rw [diff_of_whole whole]
    split <;> simp_all
  rw [same]
  constructor
  · intro same
    refine .scalar ?_ same
    cases expected with
    | array items => cases actual <;> first | exact whole.elim | cases same
    | object fields => cases actual <;> first | exact whole.elim | cases same
    | _ => rfl
  · rintro (_ | _ | ⟨-, same⟩)
    · exact whole.elim
    · exact whole.elim
    · exact same

theorem diff_whole_differ (path : List Char) :
    ∀ mismatch ∈ diff path expected actual, ¬ mismatch.expected.same mismatch.actual := by
  intro mismatch mem
  rw [diff_of_whole whole] at mem
  split at mem
  · contradiction
  · rename_i differ
    obtain rfl := List.mem_singleton.1 mem
    exact differ

end Whole

theorem diff_object (path : List Char) (wanted found : List (List Char × Json)) :
    diff path (.object wanted) (.object found) = diffFields path found wanted := by
  rw [diff]

theorem diff_array (path : List Char) (wanted found : List Json) :
    diff path (.array wanted) (.array found) =
      lengthMismatch path wanted.length found.length ++ diffItems path 0 found wanted := by
  rw [diff]

theorem lengthMismatch_eq_nil_iff (path : List Char) (expected actual : Nat) :
    lengthMismatch path expected actual = [] ↔ expected = actual := by
  unfold lengthMismatch
  split <;> simp_all

theorem lengthMismatch_differ (path : List Char) (expected actual : Nat) :
    ∀ mismatch ∈ lengthMismatch path expected actual, ¬ mismatch.expected.same mismatch.actual := by
  intro mismatch mem
  unfold lengthMismatch at mem
  split at mem
  · contradiction
  · rename_i differ
    obtain rfl := List.mem_singleton.1 mem
    exact fun same => differ (Int.ofNat.inj (eq_of_beq same))

mutual

/-- Nothing differs exactly if the value matches. -/
theorem diff_eq_nil_iff (path : List Char) :
    ∀ expected actual : Json, diff path expected actual = [] ↔ expected.Matches actual
  | .object wanted, actual => by
      cases actual with
      | object found => rw [diff_object, diffFields_eq_nil_iff, matches_object_iff]
      | _ => exact diff_whole_eq_nil_iff (by trivial) path
  | .array wanted, actual => by
      cases actual with
      | array found =>
          rw [diff_array, List.append_eq_nil_iff, lengthMismatch_eq_nil_iff, diffItems_eq_nil_iff,
            matches_array_iff]
      | _ => exact diff_whole_eq_nil_iff (by trivial) path
  | .null, _ | .bool _, _ | .integer _, _ | .float _, _ | .text _, _ =>
      diff_whole_eq_nil_iff (by trivial) path

theorem diffFields_eq_nil_iff (path : List Char) (found : List (List Char × Json)) :
    ∀ wanted : List (List Char × Json), diffFields path found wanted = [] ↔
      ∀ entry ∈ wanted, entry.2.Matches ((found.lookup entry.1).getD .null)
  | [] => by simp [diffFields]
  | (name, value) :: rest => by
      rw [diffFields, List.append_eq_nil_iff, diff_eq_nil_iff, diffFields_eq_nil_iff, List.forall_mem_cons]

theorem diffItems_eq_nil_iff (path : List Char) (place : Nat) (found : List Json) :
    ∀ wanted : List Json, diffItems path place found wanted = [] ↔
      ∀ (offset : Nat) (value : Json), wanted[offset]? = some value →
        value.Matches (found[offset]?.getD .null)
  | [] => by simp [diffItems]
  | value :: rest => by
      rw [diffItems, List.append_eq_nil_iff, diff_eq_nil_iff, diffItems_eq_nil_iff]
      rw [List.head?_eq_getElem?]
      simp only [List.getElem?_tail]
      constructor
      · rintro ⟨first, later⟩ (_ | offset) other wanted
        · obtain rfl := Option.some.inj wanted
          exact first
        · exact later offset other wanted
      · intro each
        exact ⟨each 0 value rfl, fun offset other wanted => each (offset + 1) other wanted⟩

end

mutual

/-- Every difference is one of two values. -/
theorem differ_of_mem_diff (path : List Char) :
    ∀ expected actual : Json, ∀ mismatch ∈ diff path expected actual, ¬ mismatch.expected.same mismatch.actual
  | .object wanted, actual => by
      cases actual with
      | object found =>
          rw [diff_object]
          exact differ_of_mem_diffFields path found wanted
      | _ => exact diff_whole_differ (by trivial) path
  | .array wanted, actual => by
      cases actual with
      | array found =>
          rw [diff_array]
          intro mismatch mem
          rcases List.mem_append.1 mem with lengths | inside
          · exact lengthMismatch_differ path _ _ mismatch lengths
          · exact differ_of_mem_diffItems path 0 found wanted mismatch inside
      | _ => exact diff_whole_differ (by trivial) path
  | .null, _ | .bool _, _ | .integer _, _ | .float _, _ | .text _, _ =>
      diff_whole_differ (by trivial) path

theorem differ_of_mem_diffFields (path : List Char) (found : List (List Char × Json)) :
    ∀ wanted : List (List Char × Json), ∀ mismatch ∈ diffFields path found wanted,
      ¬ mismatch.expected.same mismatch.actual
  | [] => nofun
  | (name, value) :: rest => by
      intro mismatch mem
      rcases List.mem_append.1 mem with first | later
      · exact differ_of_mem_diff _ value _ mismatch first
      · exact differ_of_mem_diffFields path found rest mismatch later

theorem differ_of_mem_diffItems (path : List Char) (place : Nat) (found : List Json) :
    ∀ wanted : List Json, ∀ mismatch ∈ diffItems path place found wanted,
      ¬ mismatch.expected.same mismatch.actual
  | [] => nofun
  | value :: rest => by
      intro mismatch mem
      rcases List.mem_append.1 mem with first | later
      · exact differ_of_mem_diff _ value _ mismatch first
      · exact differ_of_mem_diffItems path (place + 1) found.tail rest mismatch later

end

end GroundTruth

namespace Json

/-- No name stands twice in an object, at any depth. -/
inductive Distinct : Json → Prop where
  | object {fields : List (List Char × Json)} (names : fields.Pairwise fun entry other => entry.1 ≠ other.1)
      (values : ∀ name value, (name, value) ∈ fields → Distinct value) : Distinct (object fields)
  | array {items : List Json} (values : ∀ item ∈ items, Distinct item) : Distinct (array items)
  | scalar {value : Json} (simple : value.isScalar = true) : Distinct value

theorem lookup_of_mem {fields : List (List Char × Json)} {name : List Char} {value : Json}
    (names : fields.Pairwise fun entry other => entry.1 ≠ other.1) (mem : (name, value) ∈ fields) :
    fields.lookup name = some value := by
  induction fields with
  | nil => contradiction
  | cons first rest ih =>
      obtain ⟨apart, names⟩ := List.pairwise_cons.1 names
      rw [← Named.get?, Named.get?_cons]
      rcases List.mem_cons.1 mem with rfl | later
      · exact if_pos rfl
      · rw [if_neg (apart _ later).symm]
        exact ih names later

/-- A value in which no name stands twice has what is expected of it. -/
theorem Distinct.matches_self {value : Json} (distinct : value.Distinct) : value.Matches value := by
  induction distinct with
  | object names values ih =>
      refine .object fun name value mem => ?_
      rw [lookup_of_mem names mem]
      exact ih name value mem
  | array values ih =>
      refine .array rfl fun place value other wanted found => ?_
      obtain rfl := Option.some.inj (wanted.symm.trans found)
      exact ih value (List.mem_of_getElem? wanted)
  | scalar simple => exact .scalar simple (Json.same_refl _)

mutual

/-- In a normal value no name stands twice. -/
theorem distinct_normalize : ∀ value : Json, value.normalize.Distinct
  | array items => by
      rw [normalize]
      exact .array (distinct_normalizeItems items)
  | object fields => by
      rw [normalize]
      obtain ⟨ascends, values⟩ := distinct_normalizeFields fields [] .nil nofun
      exact .object (ascends.imp fun less => ne_of_lt less) fun name value mem => values (name, value) mem
  | null | bool _ | integer _ | float _ | text _ => .scalar rfl

theorem distinct_normalizeItems : ∀ items : List Json, ∀ item ∈ normalizeItems items, item.Distinct
  | [] => nofun
  | item :: rest => by
      rw [normalizeItems, List.forall_mem_cons]
      exact ⟨distinct_normalize item, distinct_normalizeItems rest⟩

-- The fields are inserted one by one, so the induction is on those that are left, over any that are sorted already.
theorem distinct_normalizeFields : ∀ (fields : List (List Char × Json)) (found : Named Json),
    found.Ascends → (∀ entry ∈ found, entry.2.Distinct) →
      (normalizeFields fields found).Ascends ∧ ∀ entry ∈ normalizeFields fields found, entry.2.Distinct
  | [], found, ascends, values => ⟨ascends, values⟩
  | (name, value) :: rest, found, ascends, values => by
      rw [normalizeFields]
      refine distinct_normalizeFields rest _ (ascends.insert name _) fun entry mem => ?_
      rcases Named.eq_or_mem_of_mem_insert mem with rfl | earlier
      · exact distinct_normalize value
      · exact values entry earlier

end

end Json

/-- A comparison reports nothing exactly if the value has what is expected, and reports only values that differ, of any
two values as well as of a record and a snapshot; so a snapshot does not differ from what it is recorded as. -/
theorem GroundTruth.diff_exact (path : List Char) (expected actual : Json) (snapshot : Snapshot) :
    ((diff path expected actual = [] ↔ expected.Matches actual) ∧
      ∀ mismatch ∈ diff path expected actual, ¬ mismatch.expected.same mismatch.actual) ∧
    ((compare expected snapshot = [] ↔ expected.normalize.Matches snapshot.toJson.normalize) ∧
      ∀ mismatch ∈ compare expected snapshot, ¬ mismatch.expected.same mismatch.actual) ∧
    compare snapshot.toJson snapshot = [] :=
  ⟨⟨diff_eq_nil_iff path expected actual, differ_of_mem_diff path expected actual⟩,
    ⟨diff_eq_nil_iff [] _ _, differ_of_mem_diff [] _ _⟩,
    (diff_eq_nil_iff [] _ _).2 (Json.distinct_normalize _).matches_self⟩

/-- Numbers are compared by value, however they are written, and one that is too large is refused. -/
example :
    ((Json.read? "[1.50, 100.0, -0]".toList).bind fun wanted =>
      (Json.read? "[1.5, 1e2, 0.0]".toList).map (GroundTruth.diff [] wanted)).map List.length = some 0 ∧
    (Json.read? "1e400".toList).isNone = true := by
  decide +kernel

end ModalPanes
