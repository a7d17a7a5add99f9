import Parley.Executor
import Parley.Proofs.Change

/-!
# Parley.Proofs.Store

What the operations on stored executions leave of locks and conversations. A conversation is
compared by its record: all of it but the time of its last use, which loading alone changes.

* `Lock.acquire_release`: giving a lock up undoes taking it.
* `Spared`: what a failure leaves of a store. Looking a lock up and loading leave it so when they
  fail (`getLock_error`, `get_error`).
* `get_ok`, `Executor.finish_ok`, `Executor.resumeKey_ok`: what loading, concluding and a request as
  a whole do when they succeed.
-/

namespace Parley

namespace Lock

variable {l l' : Lock} {holder owner : String}

theorem owner_of_acquire (h : l.acquire owner = .ok l') : l'.owner = some owner := by
  simp only [acquire] at h
  split at h
  · cases h
    rfl
  · split at h
    · cases h
      rfl
    · cases h

theorem acquire_refused (held : l.owner = some holder) (other : holder ≠ owner) :
    l.acquire owner = .error (.lockTimeout l.conversation holder) := by
  simp only [acquire, held, if_neg other]

theorem release_refused (held : l.owner = some holder) (other : holder ≠ owner) :
    l.release owner = .error (.invalidLockOwner holder owner) := by
  simp only [release, held, if_neg other]

theorem acquire_release (h : l.acquire owner = .ok l') : l'.release owner = .ok l := by
  obtain ⟨conversation, holder, holds, free_iff⟩ := l
  cases holder with
  | none =>
    obtain rfl : holds = 0 := free_iff.mpr rfl
    cases h
    simp [release, free]
  | some holder =>
    have : holds ≠ 0 := fun zero => by simpa using free_iff.mp zero
    simp only [acquire] at h
    split at h
    · rename_i same
      cases h
      simp [release, this, same]
    · cases h

end Lock

namespace Conversation

/-- The conversation without the time of its last use. -/
def timeless (c : Conversation) : Conversation := { c with lastAccessed := 0 }

/-- What a snapshot of the conversation comes to, if there is such a snapshot. -/
def execution? (directory : Directory) (listeners : List Listener) (key : Key) (c : Conversation) :
    Option (Except RepositoryError Execution) :=
  (c.snapshot? key.snapshot).map fun kept =>
    Execution.revive directory listeners kept c.scope key

end Conversation

namespace Execution

variable {directory : Directory} {listeners : List Listener} {snapshot : Snapshot}
  {scope : Attributes} {key : Key} {x : Execution}

theorem restore_eq (h : restore directory listeners snapshot scope key = .ok x) :
    ∃ root sessions, directory snapshot.flow = .ok root ∧
      restoreSessions directory root snapshot.sessions = .ok sessions ∧
      x = { create root listeners with
        status := snapshot.status, sessions := sessions, conversation := scope,
        flash := snapshot.flash, key := some key } := by
  unfold restore at h
  split at h
  · cases h
  · rename_i root had
    split at h
    · cases h
    · rename_i sessions restored
      cases h
      exact ⟨root, sessions, had, restored, rfl⟩

/-- Flows apart, sessions come back as they were stored. -/
theorem restoreSessions_bare {root : Flow} {stored : List (Session String)}
    {sessions : List (Session Flow)} (ok : restoreSessions directory root stored = .ok sessions) :
    sessions.map (Session.map fun _ => ()) = stored.map (Session.map fun _ => ()) := by
  induction stored generalizing sessions with
  | nil =>
    cases ok
    rfl
  | cons s rest ih =>
    rw [restoreSessions] at ok
    split at ok
    · cases ok
    · rename_i outer restored
      split at ok
      · cases ok
      · rename_i inner here
        cases ok
        have bare : inner.map (fun _ => ()) = s.map (fun _ => ()) := by
          unfold restoreSession at here
          split at here
          · cases here
            rfl
          · split at here <;> cases here
            rfl
        rw [List.map_cons, List.map_cons, bare, ih restored]

theorem restore_ok (h : restore directory listeners snapshot scope key = .ok x) :
    x.key = some key ∧ x.conversation = scope := by
  obtain ⟨root, sessions, -, -, rfl⟩ := restore_eq h
  exact ⟨rfl, rfl⟩

end Execution

/-- What is read back is the snapshot with its numbers reread. -/
theorem Snapshot.readBack_ok {kept snapshot : Snapshot} (h : kept.readBack = .ok snapshot) :
    snapshot = kept.reread := by
  unfold readBack at h
  split at h <;> cases h
  rfl

namespace Execution

variable {directory : Directory} {listeners : List Listener} {kept : Snapshot} {scope : Attributes}
  {key : Key} {x : Execution}

theorem revive_ok (h : revive directory listeners kept scope key = .ok x) :
    restore directory listeners kept.reread scope key = .ok x := by
  unfold revive at h
  split at h
  · cases h
  · rename_i snapshot read
    rw [Snapshot.readBack_ok read] at h
    split at h
    · cases h
    · rename_i restored
      cases h
      exact restored

/-- A snapshot that is found comes to nothing if it cannot be read, or its flows cannot be had. -/
theorem revive_error {e : RepositoryError}
    (h : revive directory listeners kept scope key = .error e) :
    (∃ refusal, e = .snapshot key refusal) ∨ ∃ cause, e = .flowDefinition cause := by
  unfold revive at h
  split at h
  · cases h
    exact .inl ⟨_, rfl⟩
  · split at h <;> cases h
    exact .inr ⟨_, rfl⟩

end Execution

theorem Conversation.execution?_ok {directory : Directory} {listeners : List Listener} {key : Key}
    {c : Conversation} {x : Execution} (h : c.execution? directory listeners key = some (.ok x)) :
    x.key = some key ∧ x.conversation = c.scope := by
  obtain ⟨kept, -, revived⟩ := Option.map_eq_some_iff.mp h
  exact Execution.restore_ok (Execution.revive_ok revived)

namespace Store

variable {s : Store} {id other : ConversationId} {key : Key} {now : Time} {owner : String}

/-- What is kept of a conversation, apart from when it was last used. -/
def record? (s : Store) (id : ConversationId) : Option Conversation :=
  (s.conversation? id).map Conversation.timeless

theorem record?_touch {c : Conversation} (h : s.conversation? id = some c) :
    (s.write id { c with lastAccessed := now }).record? other = s.record? other := by
  by_cases e : other = id
  · subst e
    simp [record?, h, Conversation.timeless]
  · simp [record?, conversation?_write_of_ne e]

theorem record?_drop :
    (s.drop id).record? other = if id = other then none else s.record? other := by
  split
  · rename_i e
    subst e
    simp [record?]
  · rename_i e
    simp [record?, conversation?_drop_of_ne (Ne.symm e)]

/-! ## Guards -/

theorem lock_dropGuard_self {l : Lock} (h : (s.lock id).release owner = .ok l) :
    (s.dropGuard id owner).lock id = l := by
  simp [dropGuard, release, h]

theorem lock_dropGuard_of_ne (h : other ≠ id) :
    (s.dropGuard id owner).lock other = s.lock other := by
  simp only [dropGuard, release]
  split
  · rfl
  · exact lock_setLock_of_ne h

@[simp] theorem conversation?_dropGuard :
    (s.dropGuard id owner).conversation? other = s.conversation? other := by
  simp only [dropGuard, release]
  split <;> rfl

@[simp] theorem record?_dropGuard : (s.dropGuard id owner).record? other = s.record? other := by
  simp [record?]

@[simp] theorem settings_dropGuard (s : Store) (id : ConversationId) (owner : String) :
    (s.dropGuard id owner).settings = s.settings := by
  simp only [dropGuard, release]
  split <;> rfl


theorem acquire_cases (id : ConversationId) (owner : String) (s : Store) :
    (∃ l, (s.lock id).acquire owner = .ok l ∧ s.acquire id owner = (.ok (), s.setLock id l)) ∨
    ∃ holder, (s.lock id).owner = some holder ∧ holder ≠ owner ∧
      s.acquire id owner = (.error (.lockTimeout (s.lock id).conversation holder), s) := by
  unfold Store.acquire Lock.acquire
  cases held : (s.lock id).owner with
  | none => exact .inl ⟨_, rfl, rfl⟩
  | some holder =>
    by_cases same : holder = owner
    · simp only [same, if_true]
      exact .inl ⟨_, rfl, rfl⟩
    · simp only [same, if_false]
      exact .inr ⟨holder, rfl, same, rfl⟩

/-- A guard dropped where the lock is as its acquisition left it. -/
theorem lock_dropGuard_acquired {t : Store} {l : Lock} (h : (s.lock id).acquire owner = .ok l)
    (kept : ∀ other, t.lock other = (s.setLock id l).lock other) (other : ConversationId) :
    (t.dropGuard id owner).lock other = s.lock other := by
  by_cases e : other = id
  · subst e
    exact lock_dropGuard_self (by rw [kept, lock_setLock_self]; exact Lock.acquire_release h)
  · rw [lock_dropGuard_of_ne e, kept, lock_setLock_of_ne e]

/-! ## Looking up, loading and concluding -/

/-- Settings, locks and records are as before, but for a conversation that was dropped. -/
structure Spared (dropped : Option ConversationId) (s s' : Store) : Prop where
  settings : s'.settings = s.settings
  lock : ∀ id, s'.lock id = s.lock id
  record : ∀ id, s'.record? id = if dropped = some id then none else s.record? id

theorem Spared.refl (s : Store) : Spared none s s := ⟨rfl, fun _ => rfl, fun _ => by simp⟩

theorem Spared.record_eq (h : Spared none s s') : s'.record? id = s.record? id := by
  simpa using h.record id

theorem Spared.drop (id : ConversationId) (s : Store) : Spared (some id) s (s.drop id) :=
  ⟨rfl, fun _ => lock_drop, fun _ => by simp [record?_drop]⟩

theorem Spared.touch {c : Conversation} (h : s.conversation? id = some c) (now : Time) :
    Spared none s (s.write id { c with lastAccessed := now }) :=
  ⟨rfl, fun _ => lock_write, fun _ => by simp [record?_touch h]⟩

end Store

/-- The conversation that an error reports as expired. -/
def RepositoryError.expired? : RepositoryError → Option ConversationId
  | .flowExecutionExpired key => some key.conversation
  | _ => none

namespace Store

variable {s s' : Store} {key : Key} {now : Time} {directory : Directory} {listeners : List Listener}

theorem checkLive_error {e : RepositoryError} (h : s.checkLive now key = (.error e, s')) :
    Spared e.expired? s s' := by
  simp only [checkLive] at h
  split at h
  · cases h
    exact .refl s
  · split at h
    · cases h
      exact .drop _ s
    · cases h

theorem checkLive_ok {c : Conversation} (h : s.checkLive now key = (.ok c, s')) :
    s.conversation? key.conversation = some c ∧ c.isExpired s.settings now = false ∧ s' = s := by
  simp only [checkLive] at h
  split at h
  · cases h
  · rename_i c' found
    split at h
    · cases h
    · rename_i live
      cases h
      exact ⟨found, by simpa using live, rfl⟩

theorem getLock_error {e : RepositoryError} (h : s.getLock now key = (.error e, s')) :
    Spared e.expired? s s' := by
  simp only [getLock] at h
  split at h
  · rename_i check
    cases h
    exact checkLive_error check
  · cases h

theorem getLock_ok {l : Lock} (h : s.getLock now key = (.ok l, s')) :
    (∃ c, s.conversation? key.conversation = some c ∧ c.isExpired s.settings now = false) ∧
      s' = s := by
  simp only [getLock] at h
  split at h
  · cases h
  · rename_i check
    cases h
    obtain ⟨found, live, same⟩ := checkLive_ok check
    exact ⟨⟨_, found, live⟩, same⟩

theorem find_error {e : RepositoryError} (h : s.find now key = (.error e, s')) :
    Spared e.expired? s s' := by
  simp only [find] at h
  split at h
  · rename_i check
    cases h
    exact checkLive_error check
  · rename_i check
    obtain ⟨-, -, rfl⟩ := checkLive_ok check
    split at h
    · cases h
      exact .refl _
    · cases h

theorem find_ok {snapshot : Snapshot} {scope : Attributes}
    (h : s.find now key = (.ok (snapshot, scope), s')) :
    ∃ c, s.conversation? key.conversation = some c ∧ c.isExpired s.settings now = false ∧
      c.snapshot? key.snapshot = some snapshot ∧ c.scope = scope ∧
      s' = s.write key.conversation { c with lastAccessed := now } := by
  simp only [find] at h
  split at h
  · cases h
  · rename_i c _ check
    obtain ⟨found, live, rfl⟩ := checkLive_ok check
    split at h
    · cases h
    · rename_i stored
      cases h
      exact ⟨c, found, live, stored, rfl, rfl⟩

theorem get_error {e : RepositoryError}
    (h : s.get directory listeners now key = (.error e, s')) : Spared e.expired? s s' := by
  simp only [get] at h
  split at h
  · rename_i missed
    cases h
    exact find_error missed
  · rename_i held
    obtain ⟨failed, rfl⟩ := Prod.mk.inj h
    obtain ⟨c, found, -, -, -, rfl⟩ := find_ok held
    -- The conversation was touched before anything could fail, and its record is the same.
    obtain ⟨_, rfl⟩ | ⟨_, rfl⟩ := Execution.revive_error failed <;> exact .touch found now

theorem get_ok {x : Execution} (h : s.get directory listeners now key = (.ok x, s')) :
    ∃ c, s.conversation? key.conversation = some c ∧ c.isExpired s.settings now = false ∧
      c.execution? directory listeners key = some (.ok x) ∧
      s' = s.write key.conversation { c with lastAccessed := now } := by
  simp only [get] at h
  split at h
  · cases h
  · rename_i held
    obtain ⟨revived, rfl⟩ := Prod.mk.inj h
    obtain ⟨c, found, live, kept, rfl, rfl⟩ := find_ok held
    exact ⟨c, found, live, by rw [Conversation.execution?, kept, Option.map_some, revived], rfl⟩

/-! ## Locks that stay as they are -/

@[simp] theorem lock_getLock (now : Time) (key : Key) (s : Store) (id : ConversationId) :
    (s.getLock now key).2.lock id = s.lock id := by
  rcases looked : s.getLock now key with ⟨_ | _, s'⟩
  · exact (getLock_error looked).lock id
  · obtain ⟨-, rfl⟩ := getLock_ok looked
    rfl

@[simp] theorem lock_get (directory : Directory) (listeners : List Listener) (now : Time)
    (key : Key) (s : Store) (id : ConversationId) :
    (s.get directory listeners now key).2.lock id = s.lock id := by
  rcases loaded : s.get directory listeners now key with ⟨_ | _, s'⟩
  · exact (get_error loaded).lock id
  · obtain ⟨c, -, -, -, rfl⟩ := get_ok loaded
    exact lock_write

@[simp] theorem lock_remove (x : Execution) (s : Store) (id : ConversationId) :
    (s.remove x).2.lock id = s.lock id := by
  unfold remove
  split
  · rfl
  · split <;> rfl

section

variable {x : Execution} {fresh : ConversationId} {c : Conversation}

theorem put_new (new : x.key = none) :
    s.put now fresh x = (.ok ⟨fresh, 1⟩, (s.makeRoom now).insert now fresh x) := by
  simp [put, new]

theorem put_gone (given : x.key = some key) (gone : s.conversation? key.conversation = none) :
    s.put now fresh x = (.error (.noSuchFlowExecution key), s) := by
  simp [put, given, gone]

theorem put_found (given : x.key = some key) (found : s.conversation? key.conversation = some c) :
    s.put now fresh x = (.ok ⟨key.conversation, c.next⟩,
      s.write key.conversation (c.extend s.settings now key.snapshot x)) := by
  simp [put, given, found]

theorem remove_new (new : x.key = none) : s.remove x = (.ok (), s) := by
  simp [remove, new]

theorem remove_gone (given : x.key = some key) (gone : s.conversation? key.conversation = none) :
    s.remove x = (.error (.noSuchFlowExecution key), s) := by
  simp [remove, given, gone]

theorem remove_found (given : x.key = some key)
    (found : s.conversation? key.conversation = some c) :
    s.remove x = (.ok (), s.drop key.conversation) := by
  simp [remove, given, found]

end

end Store

namespace Executor

variable {e : Executor} {s s' : Store} {x : Execution} {now : Time} {fresh : ConversationId}
  {clock : Clock} {key : Key} {event : Option Event} {external : External}
  {result : ExecutionResult}

/-- A stored execution, concluded: its conversation is dropped or has one more snapshot. -/
theorem finish_ok (h : finish now fresh x s = (.ok result, s')) (given : x.key = some key) :
    ∃ c, s.conversation? key.conversation = some c ∧
      (x.hasEnded = true ∧ result.key? = none ∧ s' = s.drop key.conversation ∨
        x.hasEnded = false ∧ result.key? = some ⟨key.conversation, c.next⟩ ∧
          s' = s.write key.conversation (c.extend s.settings now key.snapshot x)) := by
  unfold finish at h
  cases found : s.conversation? key.conversation with
  | none =>
    simp [Store.remove_gone given found, Store.put_gone given found] at h
  | some c =>
    refine ⟨c, rfl, ?_⟩
    split at h
    · rename_i ended
      simp only [Store.remove_found given found] at h
      split at h
      · cases h
        exact .inl ⟨ended, rfl, rfl⟩
      · cases h
    · rename_i waits
      simp only [Store.put_found given found] at h
      cases h
      exact .inr ⟨by simpa using waits, rfl, rfl⟩

/-- A request on a key fails at the store, or it concludes the answer of the execution that it finds
there. Then its guard is dropped. -/
theorem resumeKey_cases (e : Executor) (clock : Clock) (fresh : ConversationId) (key : Key)
    (event : Option Event) (external : External) (s : Store) :
    (∃ cause, (e.resumeKey clock fresh key event external s).result = .error (.repository cause)) ∨
      ∃ c x s', s.conversation? key.conversation = some c ∧
        c.execution? e.directory e.listeners key = some (.ok x) ∧ s'.settings = s.settings ∧
        s'.conversation? key.conversation = some { c with lastAccessed := clock.load } ∧
        let reply := conclude clock.store fresh (x.resume event external e.directory) s'
        e.resumeKey clock fresh key event external s = { reply with
          store := reply.store.dropGuard key.conversation external.requestId } := by
  unfold resumeKey
  rcases looked : s.getLock clock.lookup key with ⟨cause | _, s₁⟩ <;> dsimp only
  · exact .inl ⟨cause, rfl⟩
  obtain ⟨-, rfl⟩ := Store.getLock_ok looked
  rcases Store.acquire_cases key.conversation external.requestId s₁ with
    ⟨l, -, acquired⟩ | ⟨_, -, -, refused⟩
  · simp only [acquired]
    unfold resumeLocked
    rcases loaded : (s₁.setLock key.conversation l).get e.directory e.listeners clock.load key with
      ⟨cause | x, s₂⟩ <;> dsimp only
    · exact .inl ⟨cause, rfl⟩
    · obtain ⟨c, found, -, restored, rfl⟩ := Store.get_ok loaded
      let touched : Conversation := { c with lastAccessed := clock.load }
      exact .inr ⟨c, x, (s₁.setLock key.conversation l).write key.conversation touched, found,
        restored, rfl, Store.conversation?_write_self, rfl⟩
  · simp only [refused]
    exact .inl ⟨_, rfl⟩

/-- A request that succeeds found its execution, ran it to a good end, and concluded it: the
conversation is gone if the execution has ended, and has one more snapshot if it waits. -/
theorem resumeKey_ok (h : (e.resumeKey clock fresh key event external s).result = .ok result) :
    ∃ c x, s.conversation? key.conversation = some c ∧
      c.execution? e.directory e.listeners key = some (.ok x) ∧
      (x.resume event external e.directory).result = .ok () ∧
      (result.key? = none ∧
          (e.resumeKey clock fresh key event external s).store.conversation? key.conversation =
            none ∨
        result.key? = some ⟨key.conversation, c.next⟩ ∧
          (e.resumeKey clock fresh key event external s).store.conversation? key.conversation =
            some (({ c with lastAccessed := clock.load } : Conversation).extend s.settings
              clock.store key.snapshot (x.resume event external e.directory).execution)) := by
  rcases e.resumeKey_cases clock fresh key event external s with
    ⟨cause, failed⟩ | ⟨c, x, s₂, found, restored, settings, touched, concluded⟩
  · rw [failed] at h
    cases h
  have given : x.key = some key := (Conversation.execution?_ok restored).1
  rw [concluded] at h ⊢
  unfold conclude at h ⊢
  rcases served : (x.resume event external e.directory).result with _ | _ <;>
    simp only [served] at h ⊢
  · cases h
  rcases finished :
    finish clock.store fresh (x.resume event external e.directory).execution s₂ with ⟨_, s₃⟩
  simp only [finished] at h ⊢
  subst h
  refine ⟨c, x, found, restored, served, ?_⟩
  obtain ⟨c', found', outcome⟩ :=
    finish_ok finished ((Execution.resume_key x event external e.directory).trans given)
  -- Loading has touched the conversation, and concluding has found it so.
  rw [touched] at found'
  cases found'
  rw [Store.conversation?_dropGuard]
  rcases outcome with ⟨-, ended, rfl⟩ | ⟨-, waits, rfl⟩
  · exact .inl ⟨ended, Store.conversation?_drop_self⟩
  · rw [settings]
    exact .inr ⟨waits, Store.conversation?_write_self⟩

end Executor

/-! ## A flow that waits -/

/-- A view state in which nothing is done. -/
def State.waiting (id : String) (transitions : List Transition) : State :=
  ⟨id, [], [], [], .empty, .view ⟨fun _ => .ok ⟨id, .null⟩, [], [], false, false⟩ transitions⟩

/-- A flow that waits in its only state and answers no event. -/
def silent : Flow :=
  { Flow.blank "silent" .empty with start := some "wait", states := [.waiting "wait" []] }

/-- Every id stands for the one flow, and nobody listens. -/
def Executor.only (flow : Flow) : Executor := ⟨fun _ => .ok flow, []⟩

def caller : External := ⟨"caller", .empty⟩

/-! ## A number that drifts -/

/-- A number that is read as the one before it. -/
def drifting : Value := .number (.float ⟨false, 7803815713648836, -55, by decide⟩)

theorem reread_drifting : Json.rereadValue drifting ≠ drifting := by
  have other : Json.reread (.float ⟨false, 7803815713648836, -55, by decide⟩) ≠
      .float ⟨false, 7803815713648836, -55, by decide⟩ := by
    decide +kernel
  simpa [drifting, Json.rereadValue] using other

end Parley
