import Parley.Proofs.Custody

/-!
# Parley.Proofs.Fate

What one operation makes of one conversation. Most operations leave its record as it is or take it
out of the store; only storing writes one, and storing under a new id begins one. What holds of a
conversation over any run of operations follows from this by induction on the run.

* `Store.Fate`: what can become of a record. `Store.run_fate`: every operation does one of these.
* `Executor.launch_run`, `Executor.resumeKey_run`: what a request from outside does to the store is
  a run of operations, and what it stores is the execution of its answer.
-/

namespace Parley

namespace Store

/-- No conversation is in the store twice. -/
def Proper (s : Store) : Prop := s.conversations.keys.Nodup

variable {s : Store} {id : ConversationId}

theorem empty_proper (settings : StoreSettings) : (empty settings).Proper := List.nodup_nil

theorem Proper.write (h : s.Proper) (id : ConversationId) (c : Conversation) :
    (s.write id c).Proper := Table.nodup_keys_put h

theorem Proper.drop (h : s.Proper) (id : ConversationId) : (s.drop id).Proper :=
  Table.nodup_keys_filter h

theorem Proper.evict (rounds : Nat) (h : s.Proper) : (Store.evict rounds s).Proper := by
  induction rounds generalizing s with
  | zero => exact h
  | succ rounds ih =>
    rw [Store.evict]
    split
    · exact h
    · split
      · exact h
      · exact ih (h.drop _)

theorem Proper.makeRoom (h : s.Proper) (now : Time) : (s.makeRoom now).Proper := by
  have purged : (s.purgeExpired now).Proper := Table.nodup_keys_filter h
  exact purged.evict _

theorem evict_cases (rounds : Nat) (s : Store) (id : ConversationId) :
    (evict rounds s).conversation? id = none ∨
      (evict rounds s).conversation? id = s.conversation? id := by
  induction rounds generalizing s with
  | zero => exact .inr rfl
  | succ rounds ih =>
    rw [evict]
    split
    · exact .inr rfl
    · split
      · exact .inr rfl
      · rename_i gone _
        rcases ih (s.drop gone) with dropped | kept
        · exact .inl dropped
        · by_cases e : id = gone
          · subst e
            rw [conversation?_drop_self] at kept
            exact .inl kept
          · rw [conversation?_drop_of_ne e] at kept
            exact .inr kept

theorem makeRoom_cases (h : s.Proper) (now : Time) (id : ConversationId) :
    (s.makeRoom now).conversation? id = none ∨
      (s.makeRoom now).conversation? id = s.conversation? id := by
  have purged : (s.purgeExpired now).conversation? id = none ∨
      (s.purgeExpired now).conversation? id = s.conversation? id := by
    have filtered : (s.purgeExpired now).conversation? id = (s.conversation? id).filter _ :=
      Table.get?_filter h
    rw [filtered]
    cases s.conversation? id with
    | none => exact .inl rfl
    | some c =>
      rw [Option.filter]
      split
      · exact .inr rfl
      · exact .inl rfl
  rcases evict_cases (s.purgeExpired now).conversations.length (s.purgeExpired now) id with
    dropped | kept
  · exact .inl dropped
  · rcases purged with gone | same
    · exact .inl (kept.trans gone)
    · exact .inr (kept.trans same)

end Store

namespace Operation

/-- The key under which the operation stores an execution, and the execution, if it does. -/
def stored? (s : Store) : Operation → Option (Key × Execution)
  | put now fresh x => (s.put now fresh x).1.toOption.map fun key => (key, x)
  | _ => none

/-- The operation stores nothing. -/
def Idle : Operation → Prop
  | put .. => False
  | _ => True

/-- The id under which the operation begins a conversation, if it does. -/
def fresh? : Operation → Option ConversationId
  | put _ fresh x => if x.key.isNone then some fresh else none
  | _ => none

end Operation

theorem runAll_append (ops more : List Operation) (s : Store) :
    runAll (ops ++ more) s = runAll more (runAll ops s) := List.foldl_append

namespace Store

/-- What can become of the record of a conversation: nothing new, unless something is stored in it;
and then it is extended by a snapshot under its next number, or it has only now begun. -/
inductive Fate (settings : StoreSettings) (id : ConversationId)
    (stored : Option (Key × Execution)) : Option Conversation → Option Conversation → Prop where
  | kept {r : Option Conversation}
      (elsewhere : ∀ key x, stored = some (key, x) → key.conversation ≠ id) :
      Fate settings id stored r r
  | dropped {r : Option Conversation}
      (elsewhere : ∀ key x, stored = some (key, x) → key.conversation ≠ id) :
      Fate settings id stored r none
  | extended {r : Conversation} {x : Execution} {number : BitVec 32}
      (given : x.key = some ⟨id, number⟩) (here : stored = some (⟨id, r.next⟩, x)) :
      Fate settings id stored (some r) (some (r.extend settings 0 number x))
  | begun {r : Option Conversation} {x : Execution} {now : Time} (new : x.key = none)
      (here : stored = some (⟨id, 1⟩, x)) :
      Fate settings id stored r (some (Conversation.begin now x).timeless)

variable {s s' : Store} {id : ConversationId} {settings : StoreSettings} {now : Time}
  {fresh : ConversationId} {x : Execution}

theorem Fate.stays (same : s'.conversation? id = s.conversation? id) :
    Fate settings id none (s.record? id) (s'.record? id) := by
  rw [record?, record?, same]
  exact .kept fun _ _ stored => by cases stored

theorem Fate.of_spared {dropped : Option ConversationId} (h : Spared dropped s s') :
    Fate settings id none (s.record? id) (s'.record? id) := by
  rw [h.record id]
  split
  · exact .dropped fun _ _ stored => by cases stored
  · exact .kept fun _ _ stored => by cases stored

theorem put_new_fate (h : s.Proper) (new : x.key = none) :
    Fate s.settings id (some (⟨fresh, 1⟩, x)) (s.record? id)
      (((s.makeRoom now).insert now fresh x).record? id) := by
  by_cases e : id = fresh
  · subst e
    have begun : ((s.makeRoom now).insert now id x).conversation? id = some (.begin now x) := by
      simp [insert]
    rw [record?, record?, begun]
    exact .begun new rfl
  · have elsewhere : ∀ key y, some ((⟨fresh, 1⟩ : Key), x) = some (key, y) →
        key.conversation ≠ id := by
      intro key y same
      cases same
      exact Ne.symm e
    have same : ((s.makeRoom now).insert now fresh x).conversation? id =
        (s.makeRoom now).conversation? id := by simp [insert, conversation?_write_of_ne e]
    rw [record?, record?, same]
    rcases makeRoom_cases h now id with gone | kept
    · rw [gone]
      exact .dropped elsewhere
    · rw [kept]
      exact .kept elsewhere

theorem put_again_fate {key : Key} {c : Conversation} (given : x.key = some key)
    (found : s.conversation? key.conversation = some c) :
    Fate s.settings id (some (⟨key.conversation, c.next⟩, x)) (s.record? id)
      ((s.write key.conversation (c.extend s.settings now key.snapshot x)).record? id) := by
  by_cases e : id = key.conversation
  · subst e
    have extended : (s.write key.conversation (c.extend s.settings now key.snapshot x)).record?
        key.conversation = some (c.timeless.extend s.settings 0 key.snapshot x) := by
      rw [record?, conversation?_write_self]
      rfl
    rw [extended, record?, found]
    exact .extended given rfl
  · rw [record?, record?, conversation?_write_of_ne e]
    refine .kept fun key y same => ?_
    cases same
    exact Ne.symm e

theorem put_fate (h : s.Proper) :
    Fate s.settings id (Operation.stored? s (.put now fresh x)) (s.record? id)
      ((s.put now fresh x).2.record? id) := by
  change Fate _ _ ((s.put now fresh x).1.toOption.map fun key => (key, x)) _ _
  cases given : x.key with
  | none =>
    rw [put_new given]
    exact put_new_fate h given
  | some key =>
    cases found : s.conversation? key.conversation with
    | none =>
      rw [put_gone given found]
      exact .stays rfl
    | some c =>
      rw [put_found given found]
      exact put_again_fate given found

theorem remove_fate :
    Fate settings id none (s.record? id) ((s.remove x).2.record? id) := by
  cases given : x.key with
  | none =>
    rw [remove_new given]
    exact .stays rfl
  | some key =>
    cases found : s.conversation? key.conversation with
    | none =>
      rw [remove_gone given found]
      exact .stays rfl
    | some c =>
      rw [remove_found given found]
      exact .of_spared (.drop _ s)

/-- Every operation does one of these to every conversation. -/
theorem run_fate (h : s.Proper) (op : Operation) (id : ConversationId) :
    Fate s.settings id (op.stored? s) (s.record? id) ((op.run s).record? id) := by
  cases op with
  | getLock now key =>
    change Fate _ _ none _ ((s.getLock now key).2.record? id)
    rcases looked : s.getLock now key with ⟨_ | _, s'⟩
    · exact .of_spared (getLock_error looked)
    · obtain ⟨-, rfl⟩ := getLock_ok looked
      exact .stays rfl
  | get directory listeners now key =>
    change Fate _ _ none _ ((s.get directory listeners now key).2.record? id)
    rcases loaded : s.get directory listeners now key with ⟨_ | _, s'⟩
    · exact .of_spared (get_error loaded)
    · obtain ⟨c, found, -, -, rfl⟩ := get_ok loaded
      exact .of_spared (.touch found now)
  | acquire other owner =>
    change Fate _ _ none _ ((s.acquire other owner).2.record? id)
    have same : (s.acquire other owner).2.conversation? id = s.conversation? id := by
      rcases acquire_cases other owner s with ⟨l, -, e⟩ | ⟨_, -, -, e⟩ <;> rw [e]
      exact conversation?_setLock
    exact .stays same
  | release other owner => exact Fate.stays conversation?_dropGuard
  | put now fresh x => exact put_fate h
  | remove x => exact remove_fate

theorem Proper.checkLive (h : s.Proper) (now : Time) (key : Key) :
    (s.checkLive now key).2.Proper := by
  unfold Store.checkLive
  split
  · exact h
  · split
    · exact h.drop _
    · exact h

theorem Proper.find (h : s.Proper) (now : Time) (key : Key) : (s.find now key).2.Proper := by
  have live := h.checkLive now key
  unfold Store.find
  rcases check : s.checkLive now key with ⟨_ | c, s'⟩ <;> rw [check] at live
  · exact live
  · dsimp only
    split
    · exact live
    · exact live.write _ _

theorem get_store {directory : Directory} {listeners : List Listener} {key : Key} :
    (s.get directory listeners now key).2 = (s.find now key).2 := by
  unfold get
  rcases s.find now key with ⟨_ | ⟨kept, scope⟩, s'⟩ <;> rfl

theorem Proper.put (h : s.Proper) (now : Time) (fresh : ConversationId) (x : Execution) :
    (s.put now fresh x).2.Proper := by
  unfold Store.put
  split
  · exact (h.makeRoom now).write _ _
  · split
    · exact h
    · exact h.write _ _

theorem Proper.remove (h : s.Proper) (x : Execution) : (s.remove x).2.Proper := by
  unfold Store.remove
  split
  · exact h
  · split
    · exact h
    · exact h.drop _

theorem Proper.run (h : s.Proper) (op : Operation) : (op.run s).Proper := by
  cases op with
  | getLock now key =>
    rw [Operation.run, getLock_store]
    exact h.checkLive now key
  | acquire other owner =>
    have same : (s.acquire other owner).2.conversations = s.conversations := by
      rcases acquire_cases other owner s with ⟨l, -, e⟩ | ⟨_, -, -, e⟩ <;> rw [e]
      rfl
    rw [Operation.run, Proper, same]
    exact h
  | release other owner =>
    have same : (s.release other owner).2.conversations = s.conversations := by
      unfold Store.release
      split <;> rfl
    rw [Operation.run, Proper, same]
    exact h
  | get directory listeners now key =>
    rw [Operation.run, get_store]
    exact h.find now key
  | put now fresh x => exact h.put now fresh x
  | remove x => exact h.remove x

@[simp] theorem settings_evict (rounds : Nat) (s : Store) :
    (evict rounds s).settings = s.settings := by
  induction rounds generalizing s with
  | zero => rfl
  | succ rounds ih =>
    rw [evict]
    split
    · rfl
    · split
      · rfl
      · exact ih _

@[simp] theorem settings_run (op : Operation) (s : Store) : (op.run s).settings = s.settings := by
  cases op with
  | getLock now key =>
    rcases looked : s.getLock now key with ⟨_ | _, s'⟩ <;> rw [Operation.run, looked]
    · exact (getLock_error looked).settings
    · obtain ⟨-, rfl⟩ := getLock_ok looked
      rfl
  | get directory listeners now key =>
    rcases loaded : s.get directory listeners now key with ⟨_ | _, s'⟩ <;>
      rw [Operation.run, loaded]
    · exact (get_error loaded).settings
    · obtain ⟨c, -, -, -, rfl⟩ := get_ok loaded
      rfl
  | acquire other owner =>
    rcases acquire_cases other owner s with ⟨l, -, e⟩ | ⟨_, -, -, e⟩ <;> rw [Operation.run, e]
    rfl
  | release other owner => exact settings_dropGuard s other owner
  | put now fresh x =>
    change (s.put now fresh x).2.settings = s.settings
    unfold Store.put
    split
    · exact settings_evict _ _
    · split <;> rfl
  | remove x =>
    change (s.remove x).2.settings = s.settings
    unfold Store.remove
    split
    · rfl
    · split <;> rfl

/-! ## Absence -/

theorem fresh?_of_idle {op : Operation} (h : op.Idle) : op.fresh? = none := by
  cases op with
  | put => cases h
  | _ => rfl

theorem fresh?_of_stored? {op : Operation} {key : Key} (h : op.stored? s = some (key, x))
    (new : x.key = none) : op.fresh? = some key.conversation := by
  cases op with
  | put now fresh y =>
    obtain ⟨k, ok, same⟩ := Option.map_eq_some_iff.mp h
    cases same
    rw [put_new new] at ok
    cases ok
    simp [Operation.fresh?, new]
  | _ => cases h

theorem record?_eq_none_iff : s.record? id = none ↔ s.conversation? id = none :=
  Option.map_eq_none_iff

/-- A conversation that is not there does not come back, unless one begins under its id. -/
theorem absent_run {op : Operation} (h : s.Proper) (gone : s.conversation? id = none)
    (other : op.fresh? ≠ some id) : (op.run s).conversation? id = none := by
  have fate := run_fate h op id
  rw [record?_eq_none_iff.mpr gone] at fate
  rw [← record?_eq_none_iff]
  generalize (op.run s).record? id = after at fate
  cases fate with
  | kept | dropped => rfl
  | begun new here => exact absurd (fresh?_of_stored? here new) other

theorem Proper.runAll (ops : List Operation) (h : s.Proper) : (Parley.runAll ops s).Proper := by
  induction ops generalizing s with
  | nil => exact h
  | cons op rest ih => exact ih (h.run op)

@[simp] theorem settings_runAll (ops : List Operation) (s : Store) :
    (runAll ops s).settings = s.settings := by
  induction ops generalizing s with
  | nil => rfl
  | cons op rest ih => exact (ih (op.run s)).trans (settings_run op s)

theorem absent_runAll {ops : List Operation} (h : s.Proper) (gone : s.conversation? id = none)
    (other : ∀ op ∈ ops, op.fresh? ≠ some id) : (runAll ops s).conversation? id = none := by
  induction ops generalizing s with
  | nil => exact gone
  | cons op rest ih =>
    have here : op.fresh? ≠ some id := other op List.mem_cons_self
    have later : ∀ op ∈ rest, op.fresh? ≠ some id := fun op mem =>
      other op (List.mem_cons_of_mem _ mem)
    exact ih (h.run op) (absent_run h gone here) later

end Store

/-! ## Requests from outside -/

namespace Executor

variable {e : Executor} {s : Store} {now : Time} {fresh : ConversationId} {external : External}

/-- The operation with which the answer of an execution is concluded. -/
def concluding (now : Time) (fresh : ConversationId) (a : Answer) : List Operation :=
  match a.result with
  | .error _ => []
  | .ok _ => [if a.execution.hasEnded then .remove a.execution else .put now fresh a.execution]

theorem conclude_run (a : Answer) :
    (conclude now fresh a s).store = runAll (concluding now fresh a) s := by
  unfold conclude concluding
  cases a.result with
  | error stop => rfl
  | ok done =>
    cases ended : a.execution.hasEnded with
    | true =>
      rcases removed : s.remove a.execution with ⟨_ | _, s'⟩
      · simp [finish, ended, removed, runAll, Operation.run]
      · cases told : a.execution.outcome <;>
          simp [finish, ended, removed, told, runAll, Operation.run]
    | false =>
      rcases put : s.put now fresh a.execution with ⟨_ | _, s'⟩ <;>
        simp [finish, ended, put, runAll, Operation.run]

theorem mem_concluding {a : Answer} {op : Operation} (h : op ∈ concluding now fresh a) :
    op.Idle ∨ a.result = .ok () ∧ a.execution.hasEnded = false ∧
      op = .put now fresh a.execution := by
  unfold concluding at h
  cases came : a.result with
  | error stop =>
    rw [came] at h
    cases h
  | ok done =>
    rw [came] at h
    have same := List.mem_singleton.mp h
    cases ended : a.execution.hasEnded with
    | true =>
      rw [same, ended]
      exact .inl trivial
    | false =>
      rw [same, ended]
      exact .inr ⟨rfl, rfl, rfl⟩

theorem launch_run (e : Executor) (s : Store) (now : Time) (fresh : ConversationId) (flow : String)
    (input : Attributes) (external : External) :
    ∃ ops, (e.launch now fresh flow input external s).store = runAll ops s ∧
      ∀ op ∈ ops, ∃ f, e.directory flow = .ok f ∧ op ∈ concluding now fresh
        ((Execution.create f e.listeners).start input external e.directory) := by
  unfold launch
  cases had : e.directory flow with
  | error cause => exact ⟨[], rfl, by simp⟩
  | ok f => exact ⟨_, conclude_run _, fun op mem => ⟨f, rfl, mem⟩⟩

/-- The operation stores nothing but what the request on the key makes of the execution that the
store has under it. -/
def Serves (e : Executor) (clock : Clock) (fresh : ConversationId) (key : Key)
    (event : Option Event) (external : External) (s : Store) (op : Operation) : Prop :=
  op.Idle ∨ ∃ c x, s.conversation? key.conversation = some c ∧
    c.execution? e.directory e.listeners key = some (.ok x) ∧
    op ∈ concluding clock.store fresh (x.resume event external e.directory)

theorem resumeLocked_run (e : Executor) (s : Store) (clock : Clock) (fresh : ConversationId)
    (key : Key) (event : Option Event) (external : External) :
    ∃ ops, (e.resumeLocked clock fresh key event external s).store = runAll ops s ∧
      ∀ op ∈ ops, e.Serves clock fresh key event external s op := by
  have idle : (Operation.get e.directory e.listeners clock.load key).Idle := trivial
  have load : (s.get e.directory e.listeners clock.load key).2 =
    runAll [.get e.directory e.listeners clock.load key] s := rfl
  unfold resumeLocked
  rcases loaded : s.get e.directory e.listeners clock.load key with ⟨cause | x, s'⟩ <;>
    simp only [loaded] at load ⊢
  · refine ⟨_, load, fun op mem => ?_⟩
    rw [List.mem_singleton.mp mem]
    exact .inl idle
  · obtain ⟨c, found, -, restored, -⟩ := Store.get_ok loaded
    refine ⟨[.get e.directory e.listeners clock.load key] ++
      concluding clock.store fresh (x.resume event external e.directory), ?_, fun op mem => ?_⟩
    · rw [conclude_run, runAll_append, load]
    · rcases List.mem_append.mp mem with mem | mem
      · rw [List.mem_singleton.mp mem]
        exact .inl idle
      · exact .inr ⟨c, x, found, restored, mem⟩

/-- What a request on a key does to the store is a run of such operations. -/
theorem resumeKey_run (e : Executor) (s : Store) (clock : Clock) (fresh : ConversationId)
    (key : Key) (event : Option Event) (external : External) :
    ∃ ops, (e.resumeKey clock fresh key event external s).store = runAll ops s ∧
      ∀ op ∈ ops, e.Serves clock fresh key event external s op := by
  unfold resumeKey
  rcases looked : s.getLock clock.lookup key with ⟨cause | l, s₁⟩
  · have run : s₁ = runAll [.getLock clock.lookup key] s := (congrArg Prod.snd looked).symm
    refine ⟨_, run, fun op mem => ?_⟩
    rw [List.mem_singleton.mp mem]
    exact .inl trivial
  obtain ⟨-, rfl⟩ := Store.getLock_ok looked
  rcases Store.acquire_cases key.conversation external.requestId s₁ with
    ⟨l, -, acquired⟩ | ⟨_, -, -, refused⟩
  · simp only [acquired]
    -- Taking the lock leaves the conversations, so what serves after it serves before it.
    obtain ⟨ops, run, serves⟩ :=
      resumeLocked_run e (s₁.setLock key.conversation l) clock fresh key event external
    have taken : s₁.setLock key.conversation l =
        runAll [.acquire key.conversation external.requestId] s₁ :=
      (congrArg Prod.snd acquired).symm
    refine ⟨[.acquire key.conversation external.requestId] ++ ops ++
      [.release key.conversation external.requestId], ?_, fun op mem => ?_⟩
    · rw [runAll_append, runAll_append, ← taken, ← run]
      rfl
    · simp only [List.mem_append, List.mem_singleton] at mem
      rcases mem with (rfl | mem) | rfl
      · exact .inl trivial
      · exact serves op mem
      · exact .inl trivial
  · simp only [refused]
    exact ⟨[], rfl, by simp⟩

end Executor

/-- A request from outside, with the clock and the id that it would be given for a new
conversation. -/
inductive Visit where
  | launch (now : Time) (fresh : ConversationId) (flow : String) (input : Attributes)
      (external : External)
  | resume (clock : Clock) (fresh : ConversationId) (key : String) (event : Option Event)
      (external : External)

namespace Visit

def reply (e : Executor) (s : Store) : Visit → Reply
  | launch now fresh flow input external => e.launch now fresh flow input external s
  | resume clock fresh key event external => e.resume clock fresh key event external s

/-- The id under which the visit begins a conversation, if it does. -/
def fresh? : Visit → Option ConversationId
  | launch _ fresh .. => some fresh
  | resume .. => none

/-- What a visit does to the store is a run of operations that begin conversations under no other
id. -/
theorem reply_run (e : Executor) (s : Store) (v : Visit) :
    ∃ ops, (v.reply e s).store = runAll ops s ∧
      ∀ op ∈ ops, op.fresh? = none ∨ op.fresh? = v.fresh? := by
  cases v with
  | launch now fresh flow input external =>
    obtain ⟨ops, run, concludes⟩ := e.launch_run s now fresh flow input external
    refine ⟨ops, run, fun op mem => ?_⟩
    obtain ⟨f, -, mem⟩ := concludes op mem
    rcases Executor.mem_concluding mem with idle | ⟨-, -, rfl⟩
    · exact .inl (Store.fresh?_of_idle idle)
    · unfold Operation.fresh?
      dsimp only
      split
      · exact .inr rfl
      · exact .inl rfl
  | resume clock fresh text event external =>
    unfold reply
    dsimp only
    unfold Executor.resume
    cases Key.ofText text with
    | error fault => exact ⟨[], rfl, by simp⟩
    | ok key =>
      obtain ⟨ops, run, serves⟩ := e.resumeKey_run s clock fresh key event external
      refine ⟨ops, run, fun op mem => .inl ?_⟩
      rcases serves op mem with idle | ⟨c, x, -, restored, mem⟩
      · exact Store.fresh?_of_idle idle
      · rcases Executor.mem_concluding mem with idle | ⟨-, -, rfl⟩
        · exact Store.fresh?_of_idle idle
        · have given : x.key = some key := (Conversation.execution?_ok restored).1
          simp [Operation.fresh?, Execution.resume_key, given]

end Visit

end Parley
