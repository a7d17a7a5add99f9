import Parley.Repository.Fault

/-!
# Parley.Repository.Lock

The lock of a conversation. Its owner may take it again and again, and gives it up as many times.
Nobody waits here: an attempt that the owner would have to give way to fails at once.
-/

namespace Parley

structure Lock where
  conversation : String
  owner : Option String
  holds : Nat
  /-- Nobody holds a lock without an owner, and an owner holds it at least once. -/
  holds_eq_zero_iff : holds = 0 ↔ owner = none
deriving DecidableEq

namespace Lock

def free (conversation : String) : Lock := ⟨conversation, none, 0, by simp⟩

def isLocked (l : Lock) : Bool := l.owner.isSome

/-- The lock with one more hold. -/
def acquire (owner : String) (l : Lock) : Except RepositoryError Lock :=
  match l.owner with
  | none => .ok ⟨l.conversation, some owner, 1, by simp⟩
  | some holder =>
    if holder = owner then .ok ⟨l.conversation, some owner, l.holds + 1, by simp⟩
    else .error (.lockTimeout l.conversation holder)

/-- The lock with one hold less; with the last one it is free. -/
def release (owner : String) (l : Lock) : Except RepositoryError Lock :=
  match l.owner with
  | none => .error (.lockNotHeld l.conversation)
  | some holder =>
    if holder = owner then
      if last : l.holds ≤ 1 then .ok (free l.conversation)
      else .ok ⟨l.conversation, some owner, l.holds - 1, by simp; omega⟩
    else .error (.invalidLockOwner holder owner)

/-- A hold given up by its guard, who does not mind if it was lost already. -/
def drop (owner : String) (l : Lock) : Lock :=
  match l.release owner with
  | .ok released => released
  | .error _ => l

end Lock

end Parley
