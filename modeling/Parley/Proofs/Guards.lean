import Parley.Proofs.Store

/-!
# Parley.Proofs.Guards

One lock and all who use it. Whoever takes it gets a guard, and every guard gives up one hold when
it is dropped, in whatever order. A lock can also be given up past its guards; then a guard may find
that its hold is lost, or that somebody else has the lock by now, and leaves it alone.

* `Lock.acquire_ok`, `Lock.release_ok`: what taking and giving up do when they succeed.
* `LockGuards.holds_run`: each use is accounted for in the holds. `LockGuards.Loyal.run`: as long
  as only guards give up, the guards are the holds.
* `lock_counts_holds`: so it is in any course of uses, and nobody gets past the owner.
-/

namespace Parley

namespace Lock

variable {l l' : Lock} {owner : String}

theorem acquire_ok (h : l.acquire owner = .ok l') :
    (l.owner = none ∨ l.owner = some owner) ∧ l'.owner = some owner ∧ l'.holds = l.holds + 1 ∧
      l'.conversation = l.conversation := by
  unfold acquire at h
  split at h
  · rename_i free
    cases h
    have none : l.holds = 0 := l.holds_eq_zero_iff.mpr free
    exact ⟨.inl free, rfl, by rw [none], rfl⟩
  · rename_i holder held
    split at h
    · rename_i same
      cases h
      exact ⟨.inr (same ▸ held), rfl, rfl, rfl⟩
    · cases h

theorem acquire_cases (l : Lock) (owner : String) :
    (∃ l', l.acquire owner = .ok l') ∨
      ∃ holder, l.owner = some holder ∧ holder ≠ owner ∧
        l.acquire owner = .error (.lockTimeout l.conversation holder) := by
  cases held : l.owner with
  | none =>
    have taken : l.acquire owner = .ok ⟨l.conversation, some owner, 1, by simp⟩ := by
      simp only [acquire, held]
    exact .inl ⟨_, taken⟩
  | some holder =>
    by_cases same : holder = owner
    · have again : l.acquire owner = .ok ⟨l.conversation, some owner, l.holds + 1, by simp⟩ := by
        simp only [acquire, held, if_pos same]
      exact .inl ⟨_, again⟩
    · exact .inr ⟨holder, rfl, same, acquire_refused held same⟩

theorem release_ok (h : l.release owner = .ok l') :
    l.owner = some owner ∧ l'.holds + 1 = l.holds ∧ l'.conversation = l.conversation ∧
      (0 < l'.holds → l'.owner = some owner) := by
  unfold release at h
  split at h
  · cases h
  · rename_i holder held
    split at h
    · rename_i same
      have some : l.holds ≠ 0 := fun zero => by simp [l.holds_eq_zero_iff.mp zero] at held
      split at h <;> cases h
      · rename_i last
        exact ⟨same ▸ held, by simp [free]; omega, rfl, by simp [free]⟩
      · rename_i more
        exact ⟨same ▸ held, by simp; omega, rfl, fun _ => rfl⟩
    · cases h

/-- What whoever is not the owner is told. -/
def refusal (owner : String) (l : Lock) : RepositoryError :=
  match l.owner with
  | none => .lockNotHeld l.conversation
  | some holder => .invalidLockOwner holder owner

theorem release_cases (l : Lock) (owner : String) :
    (∃ l', l.release owner = .ok l') ∨
      l.owner ≠ some owner ∧ l.release owner = .error (l.refusal owner) := by
  cases held : l.owner with
  | none => exact .inr ⟨nofun, by simp only [release, refusal, held]⟩
  | some holder =>
    by_cases same : holder = owner
    · by_cases last : l.holds ≤ 1
      · have freed : l.release owner = .ok (free l.conversation) := by
          simp only [release, held, if_pos same, dif_pos last]
        exact .inl ⟨_, freed⟩
      · have less : l.release owner =
            .ok ⟨l.conversation, some owner, l.holds - 1, by simp; omega⟩ := by
          simp only [release, held, if_pos same, dif_neg last]
        exact .inl ⟨_, less⟩
    · refine .inr ⟨by simpa using same, ?_⟩
      rw [release_refused held same]
      simp only [refusal, held]

theorem eq_free (vacant : l.owner = none) : l = free l.conversation := by
  obtain ⟨conversation, holder, holds, zero⟩ := l
  obtain rfl : holder = none := vacant
  obtain rfl : holds = 0 := zero.mpr rfl
  rfl

end Lock

/-! ## Uses -/

/-- A lock and the owners of the guards that are alive, in the order in which they were given
out. -/
structure LockGuards where
  lock : Lock
  guards : List String

namespace LockGuards

/-- Somebody takes the lock, one of the guards is dropped, or the lock is given up past the guards.
A guard is known by its place among those that are alive. -/
inductive Use where
  | take (owner : String)
  | drop (guard : Nat)
  | giveUp (owner : String)

/-- A lock that nobody has. -/
def start (conversation : String) : LockGuards := ⟨.free conversation, []⟩

/-- What a use comes to, if there is the guard that it is about. A guard does not tell. -/
def result? (g : LockGuards) : Use → Option (Except RepositoryError Lock)
  | .take owner => some (g.lock.acquire owner)
  | .drop guard => g.guards[guard]?.map fun owner => g.lock.release owner
  | .giveUp owner => some (g.lock.release owner)

def run (g : LockGuards) : Use → LockGuards
  | .take owner =>
    match g.lock.acquire owner with
    | .ok lock => ⟨lock, g.guards ++ [owner]⟩
    | .error _ => g
  | .drop guard =>
    match g.guards[guard]? with
    | some owner => ⟨g.lock.drop owner, g.guards.eraseIdx guard⟩
    | none => g
  | .giveUp owner =>
    match g.lock.release owner with
    | .ok lock => ⟨lock, g.guards⟩
    | .error _ => g

def runAll (uses : List Use) (g : LockGuards) : LockGuards := uses.foldl run g

def succeeds (g : LockGuards) (u : Use) : Bool := (g.result? u).any Except.isOk

def Use.isTake : Use → Bool
  | take _ => true
  | _ => false

/-- The use adds a hold. -/
def takes (g : LockGuards) (u : Use) : Bool := u.isTake && g.succeeds u

/-- The use ends a hold. -/
def givesUp (g : LockGuards) (u : Use) : Bool := !u.isTake && g.succeeds u

/-- How many of the uses are such when their turn comes. -/
def count (such : LockGuards → Use → Bool) : List Use → LockGuards → Nat
  | [], _ => 0
  | u :: rest, g => (such g u).toNat + count such rest (g.run u)

variable {g : LockGuards} {u : Use} {uses : List Use} {l : Lock} {owner : String}

/-! ## The lock -/

/-- A use leaves the lock that it comes to, or else the lock that it found. -/
theorem lock_run (g : LockGuards) (u : Use) :
    (g.run u).lock = match g.result? u with
      | some (.ok lock) => lock
      | _ => g.lock := by
  cases u with
  | take owner =>
    rw [run, result?]
    cases g.lock.acquire owner <;> rfl
  | drop guard =>
    rw [run, result?]
    cases g.guards[guard]? with
    | none => rfl
    | some owner =>
      dsimp only [Option.map_some, Lock.drop]
      cases g.lock.release owner <;> rfl
  | giveUp owner =>
    rw [run, result?]
    cases g.lock.release owner <;> rfl

theorem result?_ok (h : g.result? u = some (.ok l)) :
    l.conversation = g.lock.conversation ∧
      if u.isTake then l.holds = g.lock.holds + 1 else l.holds + 1 = g.lock.holds := by
  cases u with
  | take owner =>
    obtain ⟨-, -, more, same⟩ := Lock.acquire_ok (Option.some.inj h)
    exact ⟨same, more⟩
  | drop guard =>
    obtain ⟨owner, -, given⟩ := Option.map_eq_some_iff.mp h
    obtain ⟨-, less, same, -⟩ := Lock.release_ok given
    exact ⟨same, less⟩
  | giveUp owner =>
    obtain ⟨-, less, same, -⟩ := Lock.release_ok (Option.some.inj h)
    exact ⟨same, less⟩

theorem conversation_run (g : LockGuards) (u : Use) :
    (g.run u).lock.conversation = g.lock.conversation := by
  rw [lock_run]
  split
  · rename_i l found
    exact (result?_ok found).1
  · rfl

theorem holds_run (g : LockGuards) (u : Use) :
    (g.run u).lock.holds + (g.givesUp u).toNat = g.lock.holds + (g.takes u).toNat := by
  rw [lock_run, givesUp, takes, succeeds]
  rcases result : g.result? u with _ | _ | l
  · simp
  · simp [Except.isOk, Except.toBool]
  · have moved := (result?_ok result).2
    cases taking : u.isTake <;> simp_all [Except.isOk, Except.toBool]

/-- Each use that succeeds counts once, by induction on the uses. -/
theorem holds_runAll (uses : List Use) (g : LockGuards) :
    (runAll uses g).lock.holds + count givesUp uses g = g.lock.holds + count takes uses g := by
  induction uses generalizing g with
  | nil => rfl
  | cons u rest ih =>
    have first := holds_run g u
    have later := ih (g.run u)
    simp only [runAll, List.foldl_cons, count] at later ⊢
    omega

theorem conversation_runAll (uses : List Use) (g : LockGuards) :
    (runAll uses g).lock.conversation = g.lock.conversation := by
  induction uses generalizing g with
  | nil => rfl
  | cons u rest ih => exact (ih (g.run u)).trans (conversation_run g u)

/-! ## The guards -/

/-- The guards are the holds, and all of them are the owner's. -/
structure Loyal (g : LockGuards) : Prop where
  count : g.lock.holds = g.guards.length
  owned : ∀ owner ∈ g.guards, g.lock.owner = some owner

theorem Loyal.start (conversation : String) : (start conversation).Loyal := ⟨rfl, nofun⟩

theorem Loyal.take (h : g.Loyal) (taken : g.lock.acquire owner = .ok l) :
    Loyal ⟨l, g.guards ++ [owner]⟩ := by
  obtain ⟨before, after, more, -⟩ := Lock.acquire_ok taken
  refine ⟨by simp [more, h.count], fun other mem => ?_⟩
  rcases List.mem_append.mp mem with old | new
  · have held := h.owned other old
    rcases before with vacant | mine
    · rw [vacant] at held
      cases held
    · exact after.trans (mine.symm.trans held)
  · rw [List.mem_singleton.mp new]
    exact after

theorem Loyal.drop {guard : Nat} (h : g.Loyal) (alive : g.guards[guard]? = some owner) :
    Loyal ⟨g.lock.drop owner, g.guards.eraseIdx guard⟩ := by
  have mine : g.lock.owner = some owner := h.owned owner (List.mem_of_getElem? alive)
  obtain ⟨l, given⟩ | ⟨other, -⟩ := g.lock.release_cases owner
  · obtain ⟨-, less, -, still⟩ := Lock.release_ok given
    have one : guard < g.guards.length := (List.getElem?_eq_some_iff.mp alive).1
    have fewer : l.holds = (g.guards.eraseIdx guard).length := by
      rw [List.length_eraseIdx_of_lt one, ← h.count]
      omega
    rw [Lock.drop, given]
    refine ⟨fewer, fun other mem => ?_⟩
    have held : g.lock.owner = some other := h.owned other (List.mem_of_mem_eraseIdx mem)
    have rest : 0 < l.holds := fewer ▸ List.length_pos_of_mem mem
    exact (still rest).trans (mine.symm.trans held)
  · exact absurd mine other

theorem Loyal.run (h : g.Loyal) (guarded : ∀ owner, u ≠ .giveUp owner) : (g.run u).Loyal := by
  cases u with
  | take owner =>
    rw [LockGuards.run]
    split
    · rename_i taken
      exact h.take taken
    · exact h
  | drop guard =>
    rw [LockGuards.run]
    split
    · rename_i alive
      exact h.drop alive
    · exact h
  | giveUp owner => exact absurd rfl (guarded owner)

theorem Loyal.runAll (h : g.Loyal) (guarded : ∀ owner, .giveUp owner ∉ uses) :
    (runAll uses g).Loyal := by
  induction uses generalizing g with
  | nil => exact h
  | cons u rest ih =>
    have first : ∀ owner, u ≠ .giveUp owner := fun owner e =>
      guarded owner (e ▸ List.mem_cons_self)
    exact ih (h.run first) fun owner mem => guarded owner (List.mem_cons_of_mem u mem)

/-- Whose guards are alive has the lock. -/
theorem Loyal.owner_iff (h : g.Loyal) : g.lock.owner = some owner ↔ owner ∈ g.guards := by
  refine ⟨fun held => ?_, h.owned owner⟩
  have some : g.lock.holds ≠ 0 := fun zero => by simp [g.lock.holds_eq_zero_iff.mp zero] at held
  obtain ⟨other, mem⟩ := List.exists_mem_of_length_pos (by rw [← h.count]; omega)
  obtain rfl : owner = other := Option.some.inj (held.symm.trans (h.owned other mem))
  exact mem

/-! ## The owner -/

/-- The lock is its owner's as long as there are holds, and nobody else's: others can neither take
it nor give it up, and trying changes nothing about it. -/
structure Exclusive (g : LockGuards) : Prop where
  held : g.lock.owner.isSome ↔ 0 < g.lock.holds
  taking : ∀ owner, g.succeeds (.take owner) = true ↔
    g.lock.owner = none ∨ g.lock.owner = some owner
  timeout : ∀ holder owner, g.lock.owner = some holder → holder ≠ owner →
    g.result? (.take owner) = some (.error (.lockTimeout g.lock.conversation holder)) ∧
      g.run (.take owner) = g
  givingUp : ∀ owner, g.succeeds (.giveUp owner) = true ↔ g.lock.owner = some owner
  refused : ∀ owner, g.lock.owner ≠ some owner →
    g.result? (.giveUp owner) = some (.error (g.lock.refusal owner)) ∧
      g.run (.giveUp owner) = g
  heedless : ∀ guard owner, g.guards[guard]? = some owner → g.lock.owner ≠ some owner →
    g.result? (.drop guard) = some (.error (g.lock.refusal owner)) ∧
      (g.run (.drop guard)).lock = g.lock

theorem release_refused (other : g.lock.owner ≠ some owner) :
    g.lock.release owner = .error (g.lock.refusal owner) := by
  rcases g.lock.release_cases owner with ⟨l, given⟩ | ⟨-, refused⟩
  · exact absurd (Lock.release_ok given).1 other
  · exact refused

theorem exclusive (g : LockGuards) : g.Exclusive where
  held := by
    have zero := g.lock.holds_eq_zero_iff
    rw [Option.isSome_iff_ne_none, ne_eq, ← zero, Nat.pos_iff_ne_zero]
  taking owner := by
    rcases g.lock.acquire_cases owner with ⟨l, taken⟩ | ⟨holder, held, other, refused⟩
    · simp [succeeds, result?, taken, Except.isOk, Except.toBool, (Lock.acquire_ok taken).1]
    · simp [succeeds, result?, refused, Except.isOk, Except.toBool, held, other]
  timeout holder owner held other := by
    have refused := Lock.acquire_refused held other
    exact ⟨congrArg some refused, by simp only [run, refused]⟩
  givingUp owner := by
    rcases g.lock.release_cases owner with ⟨l, given⟩ | ⟨other, refused⟩
    · simp [succeeds, result?, given, Except.isOk, Except.toBool, (Lock.release_ok given).1]
    · simp [succeeds, result?, refused, Except.isOk, Except.toBool, other]
  refused owner other := by
    have refused := release_refused other
    exact ⟨congrArg some refused, by simp only [run, refused]⟩
  heedless guard owner alive other := by
    have refused : g.result? (.drop guard) = some (.error (g.lock.refusal owner)) := by
      rw [result?, alive, Option.map_some, release_refused other]
    exact ⟨refused, by rw [lock_run, refused]⟩

end LockGuards

/-- **A lock counts its holds and has one owner.** After any uses of a lock that was free, its holds
are as many as it was taken with success less as it was given up with success, and nobody gets past
its owner. If it is never given up but by its guards, all guards that are alive are the owner's, the
lock has an owner exactly as long as there are any, and is free when there are none. -/
theorem lock_counts_holds (conversation : String) (uses : List LockGuards.Use) :
    let free := LockGuards.start conversation
    let g := LockGuards.runAll uses free
    g.lock.holds + LockGuards.count LockGuards.givesUp uses free =
        LockGuards.count LockGuards.takes uses free ∧
      g.lock.conversation = conversation ∧ g.Exclusive ∧
      ((∀ owner, .giveUp owner ∉ uses) →
        (∀ a ∈ g.guards, ∀ b ∈ g.guards, a = b) ∧
          (∀ owner, g.lock.owner = some owner ↔ owner ∈ g.guards) ∧
          (g.guards = [] → g.lock = .free conversation)) := by
  intro free g
  have named : g.lock.conversation = conversation := LockGuards.conversation_runAll uses free
  have counted : g.lock.holds + LockGuards.count LockGuards.givesUp uses free =
      LockGuards.count LockGuards.takes uses free := by
    rw [LockGuards.holds_runAll]
    exact Nat.zero_add _
  refine ⟨counted, named, g.exclusive, fun guarded => ?_⟩
  have loyal : g.Loyal := (LockGuards.Loyal.start conversation).runAll guarded
  refine ⟨fun a ha b hb => ?_, fun owner => loyal.owner_iff, fun none => ?_⟩
  · exact Option.some.inj ((loyal.owned a ha).symm.trans (loyal.owned b hb))
  · have vacant : g.lock.owner = Option.none := by
      refine g.lock.holds_eq_zero_iff.mp ?_
      rw [loyal.count, none]
      rfl
    rw [Lock.eq_free vacant, named]

/-- Guards that are dropped out of their order, with an attempt of somebody else in between. -/
theorem crossed_guards_free_lock :
    let uses : List LockGuards.Use := [.take "a", .take "a", .drop 0, .take "b", .drop 0]
    (LockGuards.runAll uses (LockGuards.start "c")).lock = .free "c" := by
  intro uses
  have guarded : ∀ owner, .giveUp owner ∉ uses := by simp [uses]
  obtain ⟨-, -, -, loyal⟩ := lock_counts_holds "c" uses
  exact (loyal guarded).2.2 rfl

end Parley
