/-!
# Parley.Table

Entries by key, in the order in which the keys first came. `put` replaces the entry of a key where
it stands; only a key that is new goes to the end.
-/

namespace Parley

abbrev Table (κ α : Type) := List (κ × α)

namespace Table

variable {κ α : Type} [DecidableEq κ]

def get? (key : κ) : Table κ α → Option α
  | [] => none
  | (other, value) :: rest => if other = key then some value else get? key rest

def put (key : κ) (value : α) : Table κ α → Table κ α
  | [] => [(key, value)]
  | (other, old) :: rest =>
    if other = key then (key, value) :: rest else (other, old) :: put key value rest

def erase (key : κ) (t : Table κ α) : Table κ α := t.filter fun entry => entry.1 ≠ key

def contains (key : κ) (t : Table κ α) : Bool := (t.get? key).isSome

def keys (t : Table κ α) : List κ := t.map Prod.fst

@[simp] theorem get?_nil (key : κ) : get? key ([] : Table κ α) = none := rfl

@[simp] theorem get?_put_self (key : κ) (value : α) (t : Table κ α) :
    get? key (put key value t) = some value := by
  induction t with
  | nil => simp [put, get?]
  | cons entry rest ih =>
    obtain ⟨other, old⟩ := entry
    rw [put]
    split
    · simp [get?]
    · rename_i h
      rw [get?, if_neg h, ih]

theorem get?_put_of_ne {key other : κ} (h : other ≠ key) (value : α) (t : Table κ α) :
    get? other (put key value t) = get? other t := by
  induction t with
  | nil => simp [put, get?, h.symm]
  | cons entry rest ih =>
    obtain ⟨k, old⟩ := entry
    rw [put]
    split
    · rename_i e
      subst e
      simp [get?, h.symm]
    · simp [get?, ih]

@[simp] theorem get?_erase_self (key : κ) (t : Table κ α) : get? key (erase key t) = none := by
  induction t with
  | nil => rfl
  | cons entry rest ih =>
    obtain ⟨k, v⟩ := entry
    by_cases h : k = key
    · simpa [erase, h] using ih
    · simpa [erase, h, get?] using ih

theorem get?_erase_of_ne {key other : κ} (h : other ≠ key) (t : Table κ α) :
    get? other (erase key t) = get? other t := by
  induction t with
  | nil => rfl
  | cons entry rest ih =>
    obtain ⟨k, v⟩ := entry
    rw [erase] at ih
    by_cases hk : k = key
    · subst hk
      simpa [erase, get?, h.symm] using ih
    · by_cases ho : k = other
      · simp [erase, get?, ho, h]
      · simpa [erase, List.filter_cons, get?, hk, ho] using ih

theorem get?_filter_of_forall {key : κ} {p : κ × α → Bool} (h : ∀ value, p (key, value) = true)
    (t : Table κ α) : get? key (t.filter p) = get? key t := by
  induction t with
  | nil => rfl
  | cons entry rest ih =>
    obtain ⟨k, v⟩ := entry
    by_cases hk : k = key
    · subst hk
      simp [get?, h]
    · by_cases hp : p (k, v) = true
      · simpa [List.filter_cons, hp, get?, hk] using ih
      · simpa [List.filter_cons, hp, get?, hk] using ih

theorem length_put_le (key : κ) (value : α) (t : Table κ α) :
    (put key value t).length ≤ t.length + 1 := by
  induction t with
  | nil => simp [put]
  | cons entry rest ih =>
    rw [put]
    split
    · simp
    · simpa using ih

/-! ## Distinct keys -/

theorem mem_keys_put {key other : κ} {value : α} {t : Table κ α} :
    other ∈ (put key value t).keys ↔ other = key ∨ other ∈ t.keys := by
  induction t with
  | nil => simp [put, keys]
  | cons entry rest ih =>
    obtain ⟨k, old⟩ := entry
    rw [put]
    split
    · rename_i e
      simp [keys, e]
    · simp only [keys, List.map_cons, List.mem_cons] at ih ⊢
      rw [ih, or_left_comm]

theorem nodup_keys_put {key : κ} {value : α} {t : Table κ α} (h : t.keys.Nodup) :
    (put key value t).keys.Nodup := by
  induction t with
  | nil => simp [put, keys]
  | cons entry rest ih =>
    obtain ⟨k, old⟩ := entry
    obtain ⟨new, distinct⟩ := List.nodup_cons.mp h
    rw [put]
    split
    · rename_i e
      rw [← e]
      exact h
    · rename_i ne
      refine List.nodup_cons.mpr ⟨fun mem => ?_, ih distinct⟩
      rcases mem_keys_put.mp mem with e | mem
      · exact ne e
      · exact new mem

omit [DecidableEq κ] in
theorem nodup_keys_filter {p : κ × α → Bool} {t : Table κ α} (h : t.keys.Nodup) :
    (keys (t.filter p)).Nodup := h.sublist (List.filter_sublist.map Prod.fst)

theorem get?_eq_none {key : κ} {t : Table κ α} (h : key ∉ t.keys) : t.get? key = none := by
  induction t with
  | nil => rfl
  | cons entry rest ih =>
    obtain ⟨k, v⟩ := entry
    simp only [keys, List.map_cons, List.mem_cons, not_or] at h
    rw [get?, if_neg (Ne.symm h.1)]
    exact ih h.2

/-- With distinct keys an entry that is filtered out uncovers no other one. -/
theorem get?_filter {key : κ} {p : κ × α → Bool} {t : Table κ α} (h : t.keys.Nodup) :
    get? key (t.filter p) = (t.get? key).filter fun value => p (key, value) := by
  induction t with
  | nil => rfl
  | cons entry rest ih =>
    obtain ⟨k, v⟩ := entry
    obtain ⟨new, distinct⟩ := List.nodup_cons.mp h
    by_cases e : k = key
    · subst e
      have gone : get? k (rest.filter p) = none := by
        rw [ih distinct, get?_eq_none new]
        rfl
      cases kept : p (k, v) <;> simp [kept, get?, gone, Option.filter]
    · cases kept : p (k, v) <;> simpa [kept, get?, e] using ih distinct

theorem get?_eq_some_iff {key : κ} {value : α} {t : Table κ α} (h : t.keys.Nodup) :
    t.get? key = some value ↔ (key, value) ∈ t := by
  induction t with
  | nil => simp
  | cons entry rest ih =>
    obtain ⟨k, v⟩ := entry
    obtain ⟨new, distinct⟩ := List.nodup_cons.mp h
    rw [get?, List.mem_cons]
    split
    · rename_i e
      subst e
      have absent : (k, value) ∉ rest := fun mem => new (List.mem_map.mpr ⟨_, mem, rfl⟩)
      simp [absent, eq_comm]
    · rename_i ne
      rw [ih distinct]
      simp [Ne.symm ne]

/-- One entry is gone, as no other has its key. -/
theorem length_erase {key : κ} {value : α} {t : Table κ α} (h : t.keys.Nodup)
    (found : t.get? key = some value) : (erase key t).length + 1 = t.length := by
  induction t with
  | nil => cases found
  | cons entry rest ih =>
    obtain ⟨k, v⟩ := entry
    obtain ⟨new, distinct⟩ := List.nodup_cons.mp h
    rw [get?] at found
    split at found
    · rename_i e
      subst e
      have others : rest.filter (fun entry => entry.1 ≠ k) = rest := by
        refine List.filter_eq_self.mpr fun entry mem => ?_
        have ne : entry.1 ≠ k := fun same => new (List.mem_map.mpr ⟨entry, mem, same⟩)
        simpa using ne
      rw [erase, List.filter_cons, if_neg (by simp), others, List.length_cons]
    · rename_i ne
      have rest := ih distinct found
      simpa [erase, ne] using rest

end Table

end Parley
