import ModalPanes.Double
import ModalPanes.Named

/-!
# JSON values

An object is a list of fields, as written.  `Json.normalize` brings the fields into the order of their
names and leaves one for every name.
-/

namespace ModalPanes

/-- A JSON value.  A number is an integer of a machine word, or else one of double precision. -/
inductive Json where
  | null
  | bool (value : Bool)
  | integer (value : Int)
  | float (number : Double)
  | text (value : List Char)
  | array (items : List Json)
  | object (fields : List (List Char × Json))
deriving Inhabited

namespace Json

mutual

/-- Whether two values are the same.  Integers and other numbers differ; zero is the same with either
sign. -/
def same : Json → Json → Bool
  | null, null => true
  | bool a, bool b => a == b
  | integer a, integer b => a == b
  | float a, float b => a.value == b.value
  | text a, text b => a == b
  | array a, array b => sameItems a b
  | object a, object b => sameFields a b
  | _, _ => false

def sameItems : List Json → List Json → Bool
  | [], [] => true
  | a :: as, b :: bs => same a b && sameItems as bs
  | _, _ => false

def sameFields : List (List Char × Json) → List (List Char × Json) → Bool
  | [], [] => true
  | (name, a) :: as, (other, b) :: bs => name == other && same a b && sameFields as bs
  | _, _ => false

end

instance : BEq Json := ⟨same⟩

mutual

theorem same_refl : ∀ a : Json, same a a = true
  | null => rfl
  | bool _ | integer _ | float _ | text _ => by simp [same]
  | array items => sameItems_refl items
  | object fields => sameFields_refl fields

theorem sameItems_refl : ∀ items : List Json, sameItems items items = true
  | [] => rfl
  | a :: rest => by rw [sameItems, same_refl a, sameItems_refl rest, Bool.and_self]

theorem sameFields_refl : ∀ fields : List (List Char × Json), sameFields fields fields = true
  | [] => rfl
  | (name, a) :: rest => by simp [sameFields, same_refl a, sameFields_refl rest]

end

def fields? : Json → Option (List (List Char × Json))
  | object fields => some fields
  | _ => none

def text? : Json → Option (List Char)
  | text value => some value
  | _ => none

def items? : Json → Option (List Json)
  | array items => some items
  | _ => none

def texts? (value : Json) : Option (List (List Char)) := value.items?.bind (·.mapM text?)

def valuesOf (name : String) (fields : List (List Char × Json)) : List Json :=
  (fields.filter fun field => field.1 = name.toList).map Prod.snd

/-- What an optional field holds: a default if the field is missing, and nothing if it cannot be read or is
there twice. -/
def readField {α : Type} (fields : List (List Char × Json)) (name : String) (default : α)
    (read? : Json → Option α) : Option α :=
  match valuesOf name fields with
  | [] => some default
  | [value] => read? value
  | _ => none

/-- What an optional item of an array holds: a default if the array is too short. -/
def readItem {α : Type} (items : List Json) (place : Nat) (default : α) (read? : Json → Option α) :
    Option α :=
  match items[place]? with
  | some value => read? value
  | none => some default

/-- A value that may be null, which stands for none. -/
def orNull {α : Type} (read? : Json → Option α) : Json → Option (Option α)
  | null => some none
  | value => (read? value).map some

def natUpTo? (bound : Nat) : Json → Option Nat
  | integer (.ofNat n) => if n ≤ bound then some n else none
  | _ => none

mutual

/-- The same value with the fields of every object in the order of their names, one for a name; the last
one counts. -/
def normalize : Json → Json
  | array items => array (normalizeItems items)
  | object fields => object (normalizeFields fields [])
  | value => value

def normalizeItems : List Json → List Json
  | [] => []
  | item :: rest => normalize item :: normalizeItems rest

/-- Put the normal values of fields under their names. -/
def normalizeFields : List (List Char × Json) → Named Json → Named Json
  | [], found => found
  | (name, value) :: rest, found => normalizeFields rest (found.insert name (normalize value))

end

mutual

/-- How deep arrays and objects are nested. -/
def depth : Json → Nat
  | array items => depthOfItems items + 1
  | object fields => depthOfFields fields + 1
  | _ => 0

def depthOfItems : List Json → Nat
  | [] => 0
  | item :: rest => max (depth item) (depthOfItems rest)

def depthOfFields : List (List Char × Json) → Nat
  | [] => 0
  | (_, value) :: rest => max (depth value) (depthOfFields rest)

end

end Json

end ModalPanes
