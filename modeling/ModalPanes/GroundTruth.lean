import ModalPanes.Json.Reader
import ModalPanes.Json.Writer
import ModalPanes.SnapshotJson

/-!
# Ground truth

Snapshots are compared with recorded ones.  A record need not have all fields; what it has is compared, and
every difference is named by its path.
-/

namespace ModalPanes

/-- A difference: where it is, what was expected there, and what was found. -/
structure Mismatch where
  path : List Char
  expected : Json
  actual : Json
deriving BEq

namespace Mismatch

/-- The difference on one line. -/
def describe (mismatch : Mismatch) : List Char :=
  mismatch.path ++ ": expected ".toList ++ mismatch.expected.normalize.compact ++ ", got ".toList ++
    mismatch.actual.normalize.compact

end Mismatch

namespace GroundTruth

def fieldPath (path name : List Char) : List Char :=
  if path.isEmpty then name else path ++ '.' :: name

def itemPath (path : List Char) (place : Nat) : List Char := path ++ '[' :: decimal place ++ [']']

/-- The difference in length of two arrays. -/
def lengthMismatch (path : List Char) (expected actual : Nat) : List Mismatch :=
  if expected = actual then [] else [⟨path ++ ".len".toList, .ofNat expected, .ofNat actual⟩]

mutual

/-- The differences of a value from what is expected.  Of an object only the expected fields count; what is
missing counts as null. -/
def diff (path : List Char) (expected actual : Json) : List Mismatch :=
  match expected, actual with
  | .object wanted, .object found => diffFields path found wanted
  | .array wanted, .array found =>
      lengthMismatch path wanted.length found.length ++ diffItems path 0 found wanted
  | expected, actual => if expected.same actual then [] else [⟨path, expected, actual⟩]

def diffFields (path : List Char) (found : List (List Char × Json)) :
    List (List Char × Json) → List Mismatch
  | [] => []
  | (name, value) :: rest =>
      diff (fieldPath path name) value ((found.lookup name).getD .null) ++ diffFields path found rest

/-- The differences in the expected items, the first of which has the given place. -/
def diffItems (path : List Char) (place : Nat) (found : List Json) : List Json → List Mismatch
  | [] => []
  | value :: rest =>
      diff (itemPath path place) value (found.head?.getD .null) ++
        diffItems path (place + 1) found.tail rest

end

/-- The deepest nesting that a file may have. -/
def deepest : Nat := 127

def read? (text : List Char) : Option (Named Json) := do
  let value ← Json.read? text
  guard (value.depth ≤ deepest)
  value.normalize.fields?

def compare (expected : Json) (actual : Snapshot) : List Mismatch :=
  diff [] expected.normalize actual.toJson.normalize

end GroundTruth

/-- What a comparison came to; a snapshot without a record is not compared. -/
inductive Verdict where
  | pass
  | fail (mismatches : List Mismatch)
  | missing
deriving BEq

/-- The verdicts on some snapshots. -/
abbrev Report := Named Verdict

namespace Report

def judge (expected : Option Json) (actual : Snapshot) : Verdict :=
  match expected with
  | none => .missing
  | some expected =>
      match GroundTruth.compare expected actual with
      | [] => .pass
      | mismatches => .fail mismatches

def record (report : Report) (name : List Char) (expected : Option Json) (actual : Snapshot) : Report :=
  Named.insert name (judge expected actual) report

def count (report : Report) (kind : Verdict → Bool) : Nat := report.countP fun entry => kind entry.2

/-- The number of snapshots that differ from their records. -/
def failures (report : Report) : Nat :=
  report.count fun verdict =>
    match verdict with
    | .fail _ => true
    | _ => false

/-- The lines about one snapshot. -/
def describeEntry (entry : List Char × Verdict) : List Char :=
  match entry.2 with
  | .pass => "ok       ".toList ++ entry.1 ++ ['\n']
  | .missing => "skipped  ".toList ++ entry.1 ++ " (no ground truth)\n".toList
  | .fail mismatches =>
      "FAILED   ".toList ++ entry.1 ++ '\n' ::
        mismatches.flatMap fun mismatch => "    ".toList ++ mismatch.describe ++ ['\n']

def describe (report : Report) : List Char :=
  report.flatMap describeEntry ++ decimal (report.count (· == .pass)) ++ " passed, ".toList ++
    decimal report.failures ++ " failed, ".toList ++ decimal (report.count (· == .missing)) ++
    " skipped".toList

end Report

end ModalPanes
