/-!
# Named values

Values under names, in the order of the names.  Every name stands for one value.
-/

namespace ModalPanes

abbrev Named (α : Type) := List (List Char × α)

namespace Named

variable {α : Type}

/-- Put a value under a name; a value that was there before is replaced. -/
def insert (name : List Char) (value : α) : Named α → Named α
  | [] => [(name, value)]
  | entry :: rest =>
      if name = entry.1 then (name, value) :: rest
      else if name < entry.1 then (name, value) :: entry :: rest
      else entry :: insert name value rest

/-- The values of a list of entries; of several under one name the last one counts. -/
def ofList (entries : List (List Char × α)) : Named α :=
  entries.foldl (fun named entry => insert entry.1 entry.2 named) []

def get? (named : Named α) (name : List Char) : Option α := named.lookup name

@[simp] theorem get?_nil (name : List Char) : get? ([] : Named α) name = none := rfl

theorem get?_cons (name : List Char) (entry : List Char × α) (rest : Named α) :
    get? (entry :: rest) name = if name = entry.1 then some entry.2 else get? rest name := by
  obtain ⟨key, value⟩ := entry
  by_cases h : name = key
  · subst h
    simp [get?]
  · show (match name == key with | true => some value | false => get? rest name) = _
    simp [beq_false_of_ne h, h]

end Named

end ModalPanes
