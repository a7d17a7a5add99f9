/-!
# Parley.Value.Fields

Named fields in the order of their names. `put` keeps the order, so that equal contents have one
form; looking up what was put needs no order at all.
-/

namespace Parley

/-- Fields by name. -/
abbrev Fields (α : Type) := List (String × α)

namespace Fields

variable {α : Type}

def get? (name : String) : Fields α → Option α
  | [] => none
  | (key, value) :: rest => if key = name then some value else get? name rest

def put (name : String) (value : α) : Fields α → Fields α
  | [] => [(name, value)]
  | (key, old) :: rest =>
    if key = name then (name, value) :: rest
    else if name < key then (name, value) :: (key, old) :: rest
    else (key, old) :: put name value rest

def remove (name : String) (fields : Fields α) : Fields α :=
  fields.filter fun field => field.1 ≠ name

def contains (name : String) (fields : Fields α) : Bool := (fields.get? name).isSome

/-- All pairs, a later one replacing an earlier one of its name. -/
def ofPairs (pairs : List (String × α)) : Fields α :=
  pairs.foldl (fun fields pair => put pair.1 pair.2 fields) []

@[simp] theorem get?_nil (name : String) : get? name ([] : Fields α) = none := rfl

theorem get?_put_self (name : String) (value : α) (fields : Fields α) :
    get? name (put name value fields) = some value := by
  induction fields with
  | nil => simp [put, get?]
  | cons field rest ih =>
    obtain ⟨key, old⟩ := field
    rw [put]
    split
    · simp [get?]
    · split
      · simp [get?]
      · rename_i h _
        rw [get?, if_neg h, ih]

theorem get?_put_of_ne {name other : String} (h : other ≠ name) (value : α) (fields : Fields α) :
    get? other (put name value fields) = get? other fields := by
  induction fields with
  | nil => simp [put, get?, h.symm]
  | cons field rest ih =>
    obtain ⟨key, old⟩ := field
    rw [put]
    split
    · rename_i e
      subst e
      simp [get?, h.symm]
    · split
      · simp [get?, h.symm]
      · simp [get?, ih]

theorem get?_remove_self (name : String) (fields : Fields α) :
    get? name (remove name fields) = none := by
  induction fields with
  | nil => rfl
  | cons field rest ih =>
    obtain ⟨key, value⟩ := field
    by_cases h : key = name
    · simpa [remove, h] using ih
    · simp only [remove, List.filter_cons, h, ne_eq, not_false_eq_true, decide_true, if_true, get?,
        if_false]
      exact ih

end Fields

end Parley
