import Parley.Proofs.Store

/-!
# Parley.Proofs.Custody

What becomes of a conversation whose lock is held, under all that anybody does with the store in the
meantime. Making room spares it (`conversation?_makeRoom`): expired or not, old or not, a locked
conversation is neither purged nor evicted. Looking it up does not spare it: whoever asks for its
lock or for one of its snapshots after its idle time has run out drops it, held or not.

* `isSome_conversation?_run`: whether an operation leaves the conversation there.
* `store_succeeds_iff_undisturbed`: the request that holds the lock and has loaded an execution can
  store it if and only if nobody has dropped the conversation in that way, or removed it outright,
  in between.
* `late_lookup_defeats_holder`: a lookup that does drop it.
-/

namespace Parley

namespace Store

variable {s : Store} {id : ConversationId}

/-! ## Making room -/

theorem older_cases (a b : ConversationId × Conversation) : older a b = a ∨ older a b = b := by
  unfold older
  split
  · exact .inr rfl
  · exact .inl rfl

theorem foldl_older_mem (first : ConversationId × Conversation)
    (rest : List (ConversationId × Conversation)) : rest.foldl older first ∈ first :: rest := by
  induction rest generalizing first with
  | nil => exact List.mem_singleton.mpr rfl
  | cons second rest ih =>
    have found := ih (older first second)
    rw [List.foldl_cons]
    rcases older_cases first second with e | e <;> rw [e] at found ⊢
    · exact List.cons_subset_cons first (List.subset_cons_self second rest) found
    · exact List.mem_cons_of_mem first found

theorem oldest?_mem {t : Table ConversationId Conversation} {entry : ConversationId × Conversation}
    (h : oldest? t = some entry) : entry ∈ t := by
  cases t with
  | nil => cases h
  | cons first rest =>
    cases h
    exact foldl_older_mem first rest

theorem not_isLocked_of_evictable? (h : s.evictable? = some id) : s.isLocked id = false := by
  obtain ⟨entry, found, rfl⟩ := Option.map_eq_some_iff.mp h
  simpa using (List.mem_filter.mp (oldest?_mem found)).2

theorem conversation?_purgeExpired (now : Time) (locked : s.isLocked id = true) :
    (s.purgeExpired now).conversation? id = s.conversation? id :=
  Table.get?_filter_of_forall (by simp [locked]) s.conversations

/-- A locked conversation is never the one to go, whichever goes in each of the rounds. -/
theorem conversation?_evict (rounds : Nat) (locked : s.isLocked id = true) :
    (evict rounds s).conversation? id = s.conversation? id := by
  induction rounds generalizing s with
  | zero => rfl
  | succ rounds ih =>
    rw [evict]
    split
    · rfl
    · split
      · rfl
      · rename_i gone found
        -- The one that goes is not locked, and dropping it leaves the locks for the next round.
        have free := not_isLocked_of_evictable? found
        have ne : id ≠ gone := by
          rintro rfl
          rw [locked] at free
          cases free
        rw [ih (s := s.drop gone) locked, conversation?_drop_of_ne ne]

theorem conversation?_makeRoom (now : Time) (locked : s.isLocked id = true) :
    (s.makeRoom now).conversation? id = s.conversation? id := by
  have kept : (s.purgeExpired now).isLocked id = true := locked
  unfold makeRoom
  dsimp only
  rw [conversation?_evict _ kept, conversation?_purgeExpired now locked]

@[simp] theorem lock_evict (rounds : Nat) (s : Store) : (evict rounds s).lock id = s.lock id := by
  induction rounds generalizing s with
  | zero => rfl
  | succ rounds ih =>
    rw [evict]
    split
    · rfl
    · split
      · rfl
      · rw [ih, lock_drop]

@[simp] theorem lock_makeRoom (now : Time) (s : Store) : (s.makeRoom now).lock id = s.lock id := by
  unfold makeRoom
  dsimp only
  rw [lock_evict]
  rfl

end Store

/-! ## Operations -/

/-- What a request can ask of the store, with all that it brings: keys, what to store, the time, and
the id for a new conversation. -/
inductive Operation where
  | getLock (now : Time) (key : Key)
  | acquire (id : ConversationId) (owner : String)
  | release (id : ConversationId) (owner : String)
  | get (directory : Directory) (listeners : List Listener) (now : Time) (key : Key)
  | put (now : Time) (fresh : ConversationId) (x : Execution)
  | remove (x : Execution)

/-- The store has the conversation, and its idle time has run out. -/
def Store.isStale (now : Time) (id : ConversationId) (s : Store) : Bool :=
  (s.conversation? id).any (Conversation.isExpired s.settings now)

namespace Operation

/-- The store after an operation, whatever that came to. -/
def run : Operation → Store → Store
  | getLock now key, s => (s.getLock now key).2
  | acquire id owner, s => (s.acquire id owner).2
  | release id owner, s => (s.release id owner).2
  | get directory listeners now key, s => (s.get directory listeners now key).2
  | put now fresh x, s => (s.put now fresh x).2
  | remove x, s => (s.remove x).2

/-- The operation takes the conversation out of the store: it looks up its lock or one of its
snapshots too late, or removes it. -/
def pulls (id : ConversationId) (s : Store) : Operation → Bool
  | getLock now key => key.conversation = id && s.isStale now id
  | get _ _ now key => key.conversation = id && s.isStale now id
  | remove x => x.key.any fun key => key.conversation = id
  | _ => false

/-- An id for a new conversation is not one that is in use. -/
def Avoids (id : ConversationId) : Operation → Prop
  | put _ fresh x => x.key = none → fresh ≠ id
  | _ => True

/-- The holder's lock is not given up. -/
def Keeps (id : ConversationId) (holder : String) : Operation → Prop
  | release other owner => other = id → owner ≠ holder
  | _ => True

end Operation

def runAll (ops : List Operation) (s : Store) : Store := ops.foldl (fun s op => op.run s) s

/-- The holder has the lock all along, before each operation and after the last. -/
def HeldOver (id : ConversationId) (holder : String) : List Operation → Store → Prop
  | [], s => (s.lock id).owner = some holder
  | op :: rest, s => (s.lock id).owner = some holder ∧ HeldOver id holder rest (op.run s)

/-- None of the operations takes the conversation out of the store. -/
def undisturbed (id : ConversationId) : List Operation → Store → Bool
  | [], _ => true
  | op :: rest, s => !op.pulls id s && undisturbed id rest (op.run s)

namespace Store

variable {s : Store} {id : ConversationId} {now : Time} {key : Key}

theorem isSome_conversation?_checkLive (now : Time) (key : Key) (s : Store) :
    ((s.checkLive now key).2.conversation? id).isSome =
      ((s.conversation? id).isSome && !(decide (key.conversation = id) && s.isStale now id)) := by
  by_cases e : key.conversation = id
  · subst e
    cases found : s.conversation? key.conversation with
    | none => simp [checkLive, found]
    | some c =>
      cases expired : c.isExpired s.settings now <;> simp [checkLive, isStale, found, expired]
  · rw [checkLive]
    split
    · simp [e]
    · split
      · simp [e, conversation?_drop_of_ne (Ne.symm e)]
      · simp [e]

theorem getLock_store (now : Time) (key : Key) (s : Store) :
    (s.getLock now key).2 = (s.checkLive now key).2 := by
  rcases check : s.checkLive now key with ⟨_ | c, s'⟩ <;> simp [getLock, check]

theorem isSome_conversation?_write {c d : Conversation} {other : ConversationId}
    (h : s.conversation? other = some c) :
    ((s.write other d).conversation? id).isSome = (s.conversation? id).isSome := by
  by_cases e : id = other
  · subst e
    simp [h]
  · rw [conversation?_write_of_ne e]

theorem isSome_conversation?_get (directory : Directory) (listeners : List Listener) (now : Time)
    (key : Key) (s : Store) :
    ((s.get directory listeners now key).2.conversation? id).isSome =
      ((s.checkLive now key).2.conversation? id).isSome := by
  rcases check : s.checkLive now key with ⟨_ | c, s'⟩
  · simp [get, find, check]
  · obtain ⟨found, -, rfl⟩ := checkLive_ok check
    cases stored : c.snapshot? key.snapshot with
    | none => simp [get, find, check, stored]
    | some kept =>
      simp only [get, find, check, stored]
      exact isSome_conversation?_write found

/-- What an operation leaves of a locked conversation: all or nothing. -/
theorem isSome_conversation?_run {op : Operation} (locked : s.isLocked id = true)
    (avoids : op.Avoids id) :
    ((op.run s).conversation? id).isSome = ((s.conversation? id).isSome && !op.pulls id s) := by
  cases op with
  | getLock now key =>
    rw [Operation.run, getLock_store, isSome_conversation?_checkLive]
    rfl
  | acquire other owner =>
    rcases acquire_cases other owner s with ⟨l, -, e⟩ | ⟨_, -, -, e⟩ <;>
      simp [Operation.run, Operation.pulls, e]
  | release other owner =>
    have same : ((s.release other owner).2.conversation? id) = s.conversation? id :=
      conversation?_dropGuard
    simp [Operation.run, Operation.pulls, same]
  | get directory listeners now key =>
    rw [Operation.run, isSome_conversation?_get, isSome_conversation?_checkLive]
    rfl
  | put now fresh x =>
    cases given : x.key with
    | none =>
      have ne : id ≠ fresh := (avoids given).symm
      have kept := conversation?_makeRoom now locked
      simp [Operation.run, Operation.pulls, put, given, insert, conversation?_write_of_ne ne, kept]
    | some key =>
      cases found : s.conversation? key.conversation with
      | none => simp [Operation.run, Operation.pulls, put, given, found]
      | some c =>
        simp [Operation.run, Operation.pulls, put, given, found, isSome_conversation?_write found]
  | remove x =>
    cases given : x.key with
    | none => simp [Operation.run, Operation.pulls, remove, given]
    | some key =>
      by_cases e : key.conversation = id
      · subst e
        cases found : s.conversation? key.conversation <;>
          simp [Operation.run, Operation.pulls, remove, given, found]
      · cases found : s.conversation? key.conversation <;>
          simp [Operation.run, Operation.pulls, remove, given, found, e,
            conversation?_drop_of_ne (Ne.symm e)]

theorem isSome_conversation?_runAll {holder : String} {ops : List Operation}
    (held : HeldOver id holder ops s) (avoids : ∀ op ∈ ops, op.Avoids id) :
    ((runAll ops s).conversation? id).isSome =
      ((s.conversation? id).isSome && undisturbed id ops s) := by
  induction ops generalizing s with
  | nil => simp [runAll, undisturbed]
  | cons op rest ih =>
    obtain ⟨now, later⟩ := held
    -- Held now is locked for this operation, and what it leaves is what the rest begins with.
    have locked : s.isLocked id = true := by simp [isLocked, Lock.isLocked, now]
    have step := isSome_conversation?_run locked (avoids op List.mem_cons_self)
    have run := ih later fun op h => avoids op (List.mem_cons_of_mem _ h)
    rw [step] at run
    rw [undisturbed, ← Bool.and_assoc, ← run]
    rfl

theorem put_isOk {fresh : ConversationId} {x : Execution} (given : x.key = some key) :
    (∃ stored, (s.put now fresh x).1 = .ok stored) ↔ (s.conversation? key.conversation).isSome := by
  cases found : s.conversation? key.conversation <;> simp [put, given, found]

/-! ## The hold

Nobody but the holder gives a lock up: taking it fails for others, and so does giving it up. -/

theorem owner_run {op : Operation} {holder : String} (held : (s.lock id).owner = some holder)
    (avoids : op.Avoids id) (keeps : op.Keeps id holder) :
    ((op.run s).lock id).owner = some holder := by
  cases op with
  | getLock now key =>
    rw [Operation.run, lock_getLock, held]
  | acquire other owner =>
    rcases acquire_cases other owner s with ⟨l, taken, e⟩ | ⟨_, -, -, e⟩
    · by_cases same : id = other
      · subst same
        rw [Operation.run, e, lock_setLock_self, Lock.owner_of_acquire taken]
        by_cases mine : holder = owner
        · rw [mine]
        · rw [Lock.acquire_refused held mine] at taken
          cases taken
      · rw [Operation.run, e, lock_setLock_of_ne same, held]
    · rw [Operation.run, e, held]
  | release other owner =>
    by_cases same : id = other
    · subst same
      have refused := Lock.release_refused held (keeps rfl).symm
      rw [Operation.run, Store.release, refused, held]
    · exact (congrArg Lock.owner (lock_dropGuard_of_ne same)).trans held
  | get directory listeners now key =>
    rw [Operation.run, lock_get, held]
  | put now fresh x =>
    cases given : x.key with
    | none =>
      have ne : id ≠ fresh := (avoids given).symm
      simp [Operation.run, put, given, insert, lock_setLock_of_ne ne, held]
    | some key =>
      cases found : s.conversation? key.conversation <;>
        simp [Operation.run, put, given, found, held]
  | remove x =>
    rw [Operation.run, lock_remove, held]

theorem heldOver_of_keeps {holder : String} {ops : List Operation}
    (held : (s.lock id).owner = some holder)
    (others : ∀ op ∈ ops, op.Avoids id ∧ op.Keeps id holder) : HeldOver id holder ops s := by
  induction ops generalizing s with
  | nil => exact held
  | cons op rest ih =>
    obtain ⟨avoids, keeps⟩ := others op List.mem_cons_self
    exact ⟨held, ih (owner_run held avoids keeps) fun op h => others op (List.mem_cons_of_mem _ h)⟩

end Store

/-- **A conversation in use is pulled away by late lookups alone.** Somebody has loaded an execution
of the conversation and holds its lock, whatever is done with the store meanwhile. The execution can
be stored exactly if nobody removes the conversation and nobody looks up its lock or a snapshot of
it when its idle time has run out. -/
theorem store_succeeds_iff_undisturbed {directory : Directory} {listeners : List Listener}
    {start now : Time} {key : Key} {s₀ s : Store} {x₀ x : Execution} {holder : String}
    {ops : List Operation} {fresh : ConversationId}
    (loaded : s₀.get directory listeners start key = (.ok x₀, s))
    (held : HeldOver key.conversation holder ops s)
    (avoids : ∀ op ∈ ops, op.Avoids key.conversation)
    (sameKey : x.key = x₀.key) :
    (∃ stored, ((runAll ops s).put now fresh x).1 = .ok stored) ↔
      undisturbed key.conversation ops s = true := by
  obtain ⟨c, -, -, restored, rfl⟩ := Store.get_ok loaded
  have given : x.key = some key := sameKey.trans (Conversation.execution?_ok restored).1
  rw [Store.put_isOk given, Store.isSome_conversation?_runAll held avoids]
  simp

/-! ## One conversation at a time -/

/-- A store for a single conversation that keeps it for a second, with the flow launched and the
lock of its conversation taken. -/
def crowded : Store :=
  (((Executor.only silent).launch 0 1 "silent" .empty caller
    (.empty ⟨1, 30, 30000, 1⟩)).store.acquire 1 "holder").2

/-- What others ask of it: the lock in time, and room for another conversation much later. -/
def passing : List Operation :=
  [.getLock 9 ⟨1, 1⟩, .acquire 1 "other", .put 5000000 2 (.create silent [])]

theorem crowded_store_succeeds :
    ∃ x s stored, crowded.get (Executor.only silent).directory [] 0 ⟨1, 1⟩ = (.ok x, s) ∧
      ((runAll passing s).put 6000000 3 x).1 = .ok stored := by
  obtain ⟨x, s, loaded⟩ :
    ∃ x s, crowded.get (Executor.only silent).directory [] 0 ⟨1, 1⟩ = (.ok x, s) := ⟨_, _, rfl⟩
  have same : (crowded.get (Executor.only silent).directory [] 0 ⟨1, 1⟩).2 = s :=
    congrArg Prod.snd loaded
  have others : ∀ op ∈ passing, op.Avoids 1 ∧ op.Keeps 1 "holder" := by
    simp [passing, Operation.Avoids, Operation.Keeps]
  have held : HeldOver 1 "holder" passing s :=
    Store.heldOver_of_keeps (by rw [← same]; rfl) others
  have avoids : ∀ op ∈ passing, op.Avoids 1 := fun op h => (others op h).1
  have quiet : undisturbed 1 passing s = true := by rw [← same]; rfl
  obtain ⟨stored, success⟩ := (store_succeeds_iff_undisturbed loaded held avoids rfl).mpr quiet
  exact ⟨x, s, stored, loaded, success⟩

/-- The holder still has the lock, but the conversation is gone. -/
theorem late_lookup_defeats_holder :
    ∃ x s, crowded.get (Executor.only silent).directory [] 0 ⟨1, 1⟩ = (.ok x, s) ∧
      HeldOver 1 "holder" [.getLock 2000000 ⟨1, 1⟩] s ∧
      ((runAll [.getLock 2000000 ⟨1, 1⟩] s).put 2000000 3 x).1 =
        .error (.noSuchFlowExecution ⟨1, 1⟩) :=
  ⟨_, _, rfl, ⟨rfl, rfl⟩, rfl⟩

end Parley
