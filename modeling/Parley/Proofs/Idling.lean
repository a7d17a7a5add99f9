import Parley.Proofs.Eviction
import Parley.Proofs.Serial

/-!
# Parley.Proofs.Idling

When conversations expire. A conversation is used when something is stored in it and when one of its
snapshots is found; whatever else is done with the store leaves it as it is or takes it out. So the
time of its last use can be read off the operations and their answers, and looking it up fails for
its age exactly when that time is too long ago.

* `Operation.usedAt?`, `lastUse?`: uses, as whoever asked for the operations knows of them.
* `Store.use_run`, `Store.lastUse_runAll`: what is in the store remembers its last use.
* `Store.absent_run_iff`: the four ways in which a conversation leaves the store.
* `idle_expiry_exact`: lookups of a conversation that has not left.
-/

namespace Parley

/-! ## What operations answer -/

/-- The error among the answers of the store. -/
def faultOf {α : Type} : Except RepositoryError α → Option RepositoryError
  | .ok _ => none
  | .error e => some e

namespace Operation

/-- The key that the operation comes with. Whoever takes a lock or gives it up has it already. -/
def key? : Operation → Option Key
  | getLock _ key => some key
  | get _ _ _ key => some key
  | put _ _ x => x.key
  | remove x => x.key
  | acquire .. | release .. => none

/-- The error that the operation answers, if it fails. -/
def fault? (s : Store) : Operation → Option RepositoryError
  | getLock now key => faultOf (s.getLock now key).1
  | acquire id owner => faultOf (s.acquire id owner).1
  | release id owner => faultOf (s.release id owner).1
  | get directory listeners now key => faultOf (s.get directory listeners now key).1
  | put now fresh x => faultOf (s.put now fresh x).1
  | remove x => faultOf (s.remove x).1

/-- The operation looks something up under the key at the time: the lock or a snapshot. -/
inductive LooksUp (now : Time) (key : Key) : Operation → Prop where
  | lock : LooksUp now key (.getLock now key)
  | snapshot (directory : Directory) (listeners : List Listener) :
      LooksUp now key (.get directory listeners now key)

/-- The time at which the operation uses the conversation, if it does: it has stored something
there, or found a snapshot there, whether an execution could be made of that or not. -/
def usedAt? (id : ConversationId) (s : Store) : Operation → Option Time
  | put now fresh x =>
    match (s.put now fresh x).1 with
    | .ok key => if key.conversation = id then some now else none
    | .error _ => none
  | get directory listeners now key =>
    match (s.get directory listeners now key).1 with
    | .error (.noSuchFlowExecution _) | .error (.flowExecutionExpired _) => none
    | _ => if key.conversation = id then some now else none
  | _ => none

end Operation

/-- The time of the last use that a course of operations makes of a conversation. -/
def lastUse? (id : ConversationId) : List Operation → Store → Option Time
  | [], _ => none
  | op :: rest, s => lastUse? id rest (op.run s) <|> op.usedAt? id s

/-- No conversation survives so much idle time. -/
def StoreSettings.Exceeded (settings : StoreSettings) (idle : Time) : Prop :=
  ∃ seconds, settings.expiry? = some seconds ∧ (seconds : Int) * 1000000 < idle

theorem Conversation.isExpired_iff {settings : StoreSettings} {now : Time} {c : Conversation} :
    c.isExpired settings now = true ↔ settings.Exceeded (now - c.lastAccessed) := by
  unfold isExpired StoreSettings.Exceeded
  cases settings.expiry? with
  | none => simp
  | some seconds => simp

namespace Store

variable {s : Store} {id : ConversationId} {key : Key} {now : Time} {c : Conversation}
  {directory : Directory} {listeners : List Listener} {op : Operation}

/-! ## Lookups -/

theorem checkLive_expired (found : s.conversation? key.conversation = some c)
    (expired : c.isExpired s.settings now = true) :
    s.checkLive now key = (.error (.flowExecutionExpired key), s.drop key.conversation) := by
  simp [checkLive, found, expired]

theorem checkLive_live (found : s.conversation? key.conversation = some c)
    (live : c.isExpired s.settings now = false) : s.checkLive now key = (.ok c, s) := by
  simp [checkLive, found, live]

theorem get_expired (found : s.conversation? key.conversation = some c)
    (expired : c.isExpired s.settings now = true) :
    s.get directory listeners now key =
      (.error (.flowExecutionExpired key), s.drop key.conversation) := by
  simp [get, find, checkLive_expired found expired]

theorem get_missing (found : s.conversation? key.conversation = some c)
    (live : c.isExpired s.settings now = false) (missing : c.snapshot? key.snapshot = none) :
    s.get directory listeners now key = (.error (.noSuchFlowExecution key), s) := by
  simp [get, find, checkLive_live found live, missing]

/-- A snapshot that is found is a use, also where an execution cannot be made of it. -/
theorem get_held (directory : Directory) (listeners : List Listener) {snapshot : Snapshot}
    (found : s.conversation? key.conversation = some c)
    (live : c.isExpired s.settings now = false) (held : c.snapshot? key.snapshot = some snapshot) :
    (s.get directory listeners now key).2 =
        s.write key.conversation { c with lastAccessed := now } ∧
      (Operation.get directory listeners now key).usedAt? key.conversation s = some now := by
  simp only [Operation.usedAt?, get, find, checkLive_live found live, held]
  rcases revived : Execution.revive directory listeners snapshot c.scope key with e | x
  · obtain ⟨_, rfl⟩ | ⟨_, rfl⟩ := Execution.revive_error revived <;> simp
  · simp

/-- A lookup answers that the conversation has expired if it is there and its time is over, and then
the conversation is dropped. -/
theorem lookup_expired (asks : op.LooksUp now key)
    (found : s.conversation? key.conversation = some c)
    (expired : c.isExpired s.settings now = true) :
    op.fault? s = some (.flowExecutionExpired key) ∧ op.run s = s.drop key.conversation := by
  cases asks with
  | lock =>
    simp [Operation.fault?, Operation.run, getLock, checkLive_expired found expired, faultOf]
  | snapshot => simp [Operation.fault?, Operation.run, get_expired found expired, faultOf]

/-- Any other lookup answers something else. -/
theorem lookup_not_expired (asks : op.LooksUp now key)
    (live : ∀ c, s.conversation? key.conversation = some c → c.isExpired s.settings now = false) :
    op.fault? s ≠ some (.flowExecutionExpired key) := by
  cases found : s.conversation? key.conversation with
  | none =>
    cases asks with
    | lock => simp [Operation.fault?, getLock, checkLive_of_none found, faultOf]
    | snapshot => simp [Operation.fault?, get_of_none found, faultOf]
  | some c =>
    have young := live c found
    cases asks with
    | lock => simp [Operation.fault?, getLock, checkLive_live found young, faultOf]
    | snapshot directory listeners =>
      simp only [Operation.fault?, get, find, checkLive_live found young]
      cases c.snapshot? key.snapshot with
      | none => simp [faultOf]
      | some kept =>
        dsimp only
        rcases revived : Execution.revive directory listeners kept c.scope key with e | x
        · obtain ⟨_, rfl⟩ | ⟨_, rfl⟩ := Execution.revive_error revived <;> simp [faultOf]
        · simp [faultOf]

/-- A lookup of the lock, or of a snapshot that is not there, leaves all as it is. -/
theorem lookup_futile (asks : op.LooksUp now key)
    (found : s.conversation? key.conversation = some c)
    (live : c.isExpired s.settings now = false)
    (futile : op = .getLock now key ∨ op.fault? s = some (.noSuchFlowExecution key)) :
    op.run s = s := by
  cases asks with
  | lock => simp [Operation.run, getLock, checkLive_live found live]
  | snapshot directory listeners =>
    rcases futile with other | fault
    · cases other
    · cases held : c.snapshot? key.snapshot with
      | none => rw [Operation.run, get_missing found live held]
      | some kept =>
        simp only [Operation.fault?, get, find, checkLive_live found live, held] at fault
        rcases revived : Execution.revive directory listeners kept c.scope key with e | x
        · obtain ⟨_, rfl⟩ | ⟨_, rfl⟩ := Execution.revive_error revived <;>
            simp [revived, faultOf] at fault
        · simp [revived, faultOf] at fault

theorem lookup_expired_iff (asks : op.LooksUp now key) :
    op.fault? s = some (.flowExecutionExpired key) ↔
      ∃ c, s.conversation? key.conversation = some c ∧ c.isExpired s.settings now = true := by
  constructor
  · intro fault
    by_contra young
    refine lookup_not_expired asks (fun c found => ?_) fault
    cases expired : c.isExpired s.settings now with
    | false => rfl
    | true => exact absurd ⟨c, found, expired⟩ young
  · rintro ⟨c, found, expired⟩
    exact (lookup_expired asks found expired).1

/-- Where the conversation is not, no operation with a key of it comes to anything. -/
theorem fault?_of_absent (gone : s.conversation? key.conversation = none)
    (given : op.key? = some key) : op.fault? s = some (.noSuchFlowExecution key) := by
  cases op with
  | getLock now other =>
    cases given
    simp [Operation.fault?, getLock, checkLive_of_none gone, faultOf]
  | get directory listeners now other =>
    cases given
    simp [Operation.fault?, get_of_none gone, faultOf]
  | put now fresh x => simp [Operation.fault?, put_gone given gone, faultOf]
  | remove x => simp [Operation.fault?, remove_gone given gone, faultOf]
  | acquire | release => cases given

/-! ## Uses -/

theorem conversation?_of_drop {other : ConversationId}
    (h : (s.drop other).conversation? id = some c) : s.conversation? id = some c := by
  by_cases e : id = other
  · subst e
    rw [conversation?_drop_self] at h
    cases h
  · rwa [conversation?_drop_of_ne e] at h

/-- The operation has not used the conversation, which is as it was before. -/
structure Unused (op : Operation) (id : ConversationId) (c : Conversation) (s : Store) : Prop where
  unused : op.usedAt? id s = none
  same : s.conversation? id = some c

theorem use_get (h : ((s.get directory listeners now key).2).conversation? id = some c) :
    (Operation.get directory listeners now key).usedAt? id s = some c.lastAccessed ∨
      Unused (.get directory listeners now key) id c s := by
  cases found : s.conversation? key.conversation with
  | none =>
    rw [get_of_none found] at h
    exact .inr ⟨by simp [Operation.usedAt?, get_of_none found], h⟩
  | some d =>
    cases expired : d.isExpired s.settings now with
    | true =>
      rw [get_expired found expired] at h
      exact .inr ⟨by simp [Operation.usedAt?, get_expired found expired], conversation?_of_drop h⟩
    | false =>
      cases held : d.snapshot? key.snapshot with
      | none =>
        rw [get_missing found expired held] at h
        exact .inr ⟨by simp [Operation.usedAt?, get_missing found expired held], h⟩
      | some snapshot =>
        obtain ⟨touched, used⟩ := get_held directory listeners found expired held
        rw [touched] at h
        by_cases e : id = key.conversation
        · subst e
          rw [conversation?_write_self] at h
          cases h
          exact .inl used
        · rw [conversation?_write_of_ne e] at h
          refine .inr ⟨?_, h⟩
          simp only [Operation.usedAt?, if_neg (Ne.symm e)]
          split <;> rfl

theorem use_put {fresh : ConversationId} {x : Execution} (proper : s.Proper)
    (h : ((s.put now fresh x).2).conversation? id = some c) :
    (Operation.put now fresh x).usedAt? id s = some c.lastAccessed ∨
      Unused (.put now fresh x) id c s := by
  cases given : x.key with
  | none =>
    have stored : s.put now fresh x = _ := put_new given
    rw [stored] at h
    by_cases e : id = fresh
    · subst e
      have begun : some (Conversation.begin now x) = some c := by simpa [insert] using h
      cases begun
      exact .inl (by simp [Operation.usedAt?, stored, Conversation.begin])
    · have kept : (s.makeRoom now).conversation? id = some c := by
        simpa [insert, conversation?_write_of_ne e] using h
      refine .inr ⟨by simp [Operation.usedAt?, stored, Ne.symm e], ?_⟩
      rcases makeRoom_cases proper now id with gone | same
      · rw [gone] at kept
        cases kept
      · rw [← same, kept]
  | some key =>
    cases found : s.conversation? key.conversation with
    | none =>
      have refused : s.put now fresh x = _ := put_gone given found
      rw [refused] at h
      exact .inr ⟨by simp [Operation.usedAt?, refused], h⟩
    | some d =>
      have stored : s.put now fresh x = _ := put_found given found
      rw [stored] at h
      by_cases e : id = key.conversation
      · subst e
        rw [conversation?_write_self] at h
        cases h
        exact .inl (by simp [Operation.usedAt?, stored, Conversation.extend])
      · rw [conversation?_write_of_ne e] at h
        exact .inr ⟨by simp [Operation.usedAt?, stored, Ne.symm e], h⟩

/-- A conversation that is there after an operation was last used by it, or is as it was. -/
theorem use_run (proper : s.Proper) (op : Operation) (h : (op.run s).conversation? id = some c) :
    op.usedAt? id s = some c.lastAccessed ∨ Unused op id c s := by
  cases op with
  | getLock now key =>
    refine .inr ⟨rfl, ?_⟩
    rw [Operation.run, getLock_store, checkLive] at h
    split at h
    · exact h
    · split at h
      · exact conversation?_of_drop h
      · exact h
  | acquire other owner =>
    refine .inr ⟨rfl, ?_⟩
    rcases acquire_cases other owner s with ⟨l, -, e⟩ | ⟨_, -, -, e⟩ <;> rw [Operation.run, e] at h
    · exact h
    · exact h
  | release other owner => exact .inr ⟨rfl, conversation?_dropGuard.symm.trans h⟩
  | get directory listeners now key => exact use_get h
  | put now fresh x => exact use_put proper h
  | remove x =>
    refine .inr ⟨rfl, ?_⟩
    rw [Operation.run, remove] at h
    split at h
    · exact h
    · split at h
      · exact h
      · exact conversation?_of_drop h

/-- However many operations, by induction on them. -/
theorem use_runAll {ops : List Operation} (proper : s.Proper)
    (h : (runAll ops s).conversation? id = some c) :
    lastUse? id ops s = some c.lastAccessed ∨
      lastUse? id ops s = none ∧ s.conversation? id = some c := by
  induction ops generalizing s with
  | nil => exact .inr ⟨rfl, h⟩
  | cons op rest ih =>
    rcases ih (proper.run op) h with later | ⟨unused, before⟩
    · exact .inl (by simp [lastUse?, later])
    · rcases use_run proper op before with now | same
      · exact .inl (by simp [lastUse?, unused, now])
      · exact .inr ⟨by simp [lastUse?, unused, same.unused], same.same⟩

/-- A conversation in a store that began empty remembers when it was last used. -/
theorem lastUse_runAll {settings : StoreSettings} {ops : List Operation}
    (h : (runAll ops (.empty settings)).conversation? id = some c) :
    lastUse? id ops (.empty settings) = some c.lastAccessed := by
  rcases use_runAll (empty_proper settings) h with used | ⟨-, never⟩
  · exact used
  · cases never

end Store

/-! ## Leaving the store -/

/-- The operation takes the conversation out of the store: its execution is removed, it is reported
as expired, or it has to make room for another one, expired or among the oldest. Locked ones never
have to make room. -/
inductive Operation.Takes (s : Store) (id : ConversationId) : Operation → Prop where
  | ended {x : Execution} {key : Key} (given : x.key = some key) (here : key.conversation = id) :
      Takes s id (.remove x)
  | reported {op : Operation} {now : Time} {key : Key} (asks : op.LooksUp now key)
      (here : key.conversation = id) (fault : op.fault? s = some (.flowExecutionExpired key)) :
      Takes s id op
  | purged {now : Time} {fresh : ConversationId} {x : Execution} {c : Conversation}
      (new : x.key = none) (found : s.conversation? id = some c) (free : s.isLocked id = false)
      (expired : c.isExpired s.settings now = true) : Takes s id (.put now fresh x)
  | evicted {now : Time} {fresh : ConversationId} {x : Execution} {gone : List ConversationId}
      (new : x.key = none) (among : id ∈ gone)
      (evicts : Store.Evicts s.settings.maxConversations (s.purgeExpired now) gone
        (s.makeRoom now)) : Takes s id (.put now fresh x)

namespace Store

variable {s : Store} {id : ConversationId} {now : Time} {c : Conversation}

theorem makeRoom_evicts (proper : s.Proper) (now : Time) :
    ∃ gone, Evicts s.settings.maxConversations (s.purgeExpired now) gone (s.makeRoom now) := by
  have still : (s.purgeExpired now).Proper := Table.nodup_keys_filter proper
  obtain ⟨gone, evicts, -, -⟩ := evicts_evict still (Nat.le_refl _)
  exact ⟨gone, evicts⟩

theorem purgeExpired_takes (proper : s.Proper) (found : s.conversation? id = some c)
    (gone : (s.purgeExpired now).conversation? id = none) :
    s.isLocked id = false ∧ c.isExpired s.settings now = true := by
  have stays (spared : s.isLocked id = true ∨ c.isExpired s.settings now = false) :
      (s.purgeExpired now).conversation? id = some c :=
    (conversation?_purgeExpired_iff proper).mpr ⟨found, spared⟩
  rw [gone] at stays
  constructor
  · cases locked : s.isLocked id with
    | false => rfl
    | true => cases stays (.inl locked)
  · cases expired : c.isExpired s.settings now with
    | true => rfl
    | false => cases stays (.inr expired)

/-- What has to make room is purged first, or else evicted. -/
theorem makeRoom_takes {fresh : ConversationId} {x : Execution} (proper : s.Proper)
    (new : x.key = none) (found : s.conversation? id = some c)
    (gone : (s.makeRoom now).conversation? id = none) :
    Operation.Takes s id (.put now fresh x) := by
  obtain ⟨out, evicts⟩ := makeRoom_evicts proper now
  by_cases among : id ∈ out
  · exact .evicted new among evicts
  · rw [evicts.conversation? id, if_neg among] at gone
    obtain ⟨free, expired⟩ := purgeExpired_takes proper found gone
    exact .purged new found free expired

theorem takes_of_lookup {op : Operation} {key : Key} (asks : op.LooksUp now key)
    (found : s.conversation? id = some c)
    (gone : ((s.checkLive now key).2.conversation? id).isSome = false) : op.Takes s id := by
  rw [isSome_conversation?_checkLive, found] at gone
  have pulled : key.conversation = id ∧ s.isStale now id = true := by simpa using gone
  obtain ⟨rfl, stale⟩ := pulled
  have expired : c.isExpired s.settings now = true := by simpa [isStale, found] using stale
  exact .reported asks rfl (lookup_expired asks found expired).1

theorem takes_of_put {fresh : ConversationId} {x : Execution} (proper : s.Proper)
    (found : s.conversation? id = some c)
    (gone : (s.put now fresh x).2.conversation? id = none) :
    Operation.Takes s id (.put now fresh x) := by
  cases given : x.key with
  | none =>
    rw [put_new given] at gone
    by_cases e : id = fresh
    · subst e
      simp [insert] at gone
    · have dropped : (s.makeRoom now).conversation? id = none := by
        simpa [insert, conversation?_write_of_ne e] using gone
      exact makeRoom_takes proper given found dropped
  | some key =>
    -- What is stored in a conversation takes none out.
    cases stored : s.conversation? key.conversation with
    | none =>
      rw [put_gone given stored, found] at gone
      cases gone
    | some d =>
      rw [put_found given stored] at gone
      have written : ((s.write key.conversation
          (d.extend s.settings now key.snapshot x)).conversation? id).isSome =
            (s.conversation? id).isSome := isSome_conversation?_write stored
      rw [gone, found] at written
      cases written

theorem takes_of_remove {x : Execution} (found : s.conversation? id = some c)
    (gone : (s.remove x).2.conversation? id = none) : Operation.Takes s id (.remove x) := by
  cases given : x.key with
  | none =>
    rw [remove_new given, found] at gone
    cases gone
  | some key =>
    by_cases e : key.conversation = id
    · exact .ended given e
    · cases stored : s.conversation? key.conversation with
      | none =>
        rw [remove_gone given stored, found] at gone
        cases gone
      | some d =>
        rw [remove_found given stored, conversation?_drop_of_ne (Ne.symm e), found] at gone
        cases gone

theorem taken_of_absent {op : Operation} (proper : s.Proper) (found : s.conversation? id = some c)
    (gone : (op.run s).conversation? id = none) : op.Takes s id := by
  have absent : ((op.run s).conversation? id).isSome = false := by
    rw [gone]
    rfl
  cases op with
  | getLock now key =>
    rw [Operation.run, getLock_store] at absent
    exact takes_of_lookup .lock found absent
  | get directory listeners now key =>
    rw [Operation.run, isSome_conversation?_get] at absent
    exact takes_of_lookup (.snapshot directory listeners) found absent
  | acquire other owner =>
    have same : (s.acquire other owner).2.conversation? id = s.conversation? id := by
      rcases acquire_cases other owner s with ⟨l, -, e⟩ | ⟨_, -, -, e⟩ <;> rw [e]
      exact conversation?_setLock
    rw [Operation.run, same, found] at gone
    cases gone
  | release other owner =>
    have same : (s.release other owner).2.conversation? id = s.conversation? id :=
      conversation?_dropGuard
    rw [Operation.run, same, found] at gone
    cases gone
  | put now fresh x => exact takes_of_put proper found gone
  | remove x => exact takes_of_remove found gone

theorem absent_of_taken {op : Operation} (proper : s.Proper) (takes : op.Takes s id)
    (other : op.fresh? ≠ some id) : (op.run s).conversation? id = none := by
  have begun {now : Time} {fresh : ConversationId} {x : Execution} (new : x.key = none)
      (other : (Operation.put now fresh x).fresh? ≠ some id)
      (gone : (s.makeRoom now).conversation? id = none) :
      ((Operation.put now fresh x).run s).conversation? id = none := by
    have ne : id ≠ fresh := by
      rintro rfl
      exact other (by simp [Operation.fresh?, new])
    rw [Operation.run, put_new new]
    simpa [insert, conversation?_write_of_ne ne] using gone
  cases takes with
  | @ended x key given here =>
    subst here
    cases stored : s.conversation? key.conversation with
    | none => rwa [Operation.run, remove_gone given stored]
    | some d => rw [Operation.run, remove_found given stored, conversation?_drop_self]
  | reported asks here fault =>
    subst here
    obtain ⟨d, found, expired⟩ := (lookup_expired_iff asks).mp fault
    rw [(lookup_expired asks found expired).2, conversation?_drop_self]
  | @purged now fresh x d new found free expired =>
    refine begun new other ?_
    have purged : (s.purgeExpired now).conversation? id = none := by
      by_contra there
      obtain ⟨e, still⟩ := Option.ne_none_iff_exists'.mp there
      obtain ⟨same, locked | young⟩ := (conversation?_purgeExpired_iff proper).mp still
      · rw [free] at locked
        cases locked
      · cases found.symm.trans same
        rw [expired] at young
        cases young
    obtain ⟨out, evicts⟩ := makeRoom_evicts proper now
    rw [evicts.conversation? id, purged]
    exact ite_self _
  | evicted new among evicts =>
    refine begun new other ?_
    rw [evicts.conversation? id, if_pos among]

/-- A conversation leaves the store in one of those four ways and in no other. -/
theorem absent_run_iff {op : Operation} (proper : s.Proper) (there : (s.conversation? id).isSome)
    (other : op.fresh? ≠ some id) :
    (op.run s).conversation? id = none ↔ op.Takes s id := by
  obtain ⟨c, found⟩ := Option.isSome_iff_exists.mp there
  exact ⟨taken_of_absent proper found, fun takes => absent_of_taken proper takes other⟩

end Store

/-- None of the operations takes the conversation out of the store. -/
def Untaken (id : ConversationId) : List Operation → Store → Prop
  | [], _ => True
  | op :: rest, s => ¬ op.Takes s id ∧ Untaken id rest (op.run s)

theorem Untaken.present {id : ConversationId} {ops : List Operation} {s : Store}
    (h : Untaken id ops s) (proper : s.Proper) (there : (s.conversation? id).isSome) :
    ((runAll ops s).conversation? id).isSome := by
  induction ops generalizing s with
  | nil => exact there
  | cons op rest ih =>
    obtain ⟨stays, later⟩ := h
    obtain ⟨c, found⟩ := Option.isSome_iff_exists.mp there
    refine ih later (proper.run op) ?_
    by_contra absent
    exact stays (Store.taken_of_absent proper found (by simpa using absent))

/-- **A conversation expires exactly when it has been idle for too long.** After any course of
operations in which it began and was not taken out of the store since, a lookup under one of its
keys answers that it has expired if and only if more time has passed since it was last used than the
settings allow, if they set a limit. Lookups of its lock, or of a snapshot that is not there, leave
it as it is. Once it was reported as expired, whatever comes with one of its keys is told that there
is no such execution, whatever is done in between, as long as no other conversation begins under its
id. -/
theorem idle_expiry_exact (settings : StoreSettings) (before after : List Operation) (begun : Time)
    {x : Execution} (new : x.key = none) (id : ConversationId)
    (untaken : Untaken id after
      ((Operation.put begun id x).run (runAll before (.empty settings)))) :
    let ops := before ++ .put begun id x :: after
    let s := runAll ops (.empty settings)
    ∃ last, lastUse? id ops (.empty settings) = some last ∧
      ∀ (now : Time) (key : Key) (op : Operation), key.conversation = id → op.LooksUp now key →
        (op.fault? s = some (.flowExecutionExpired key) ↔ settings.Exceeded (now - last)) ∧
        (op.fault? s ≠ some (.flowExecutionExpired key) →
          op = .getLock now key ∨ op.fault? s = some (.noSuchFlowExecution key) → op.run s = s) ∧
        (op.fault? s = some (.flowExecutionExpired key) →
          ∀ later : List Operation, (∀ d ∈ later, d.fresh? ≠ some id) →
          ∀ (next : Operation) (other : Key), next.key? = some other → other.conversation = id →
            next.fault? (runAll later (op.run s)) = some (.noSuchFlowExecution other)) := by
  intro ops s
  let s₀ := (Operation.put begun id x).run (runAll before (.empty settings))
  have proper₀ : s₀.Proper := ((Store.empty_proper settings).runAll before).run _
  have began : (s₀.conversation? id).isSome := by
    simp [s₀, Operation.run, Store.put_new new, Store.insert]
  have run : s = runAll after s₀ := by simp [s, ops, s₀, runAll]
  have proper : s.Proper := run ▸ proper₀.runAll after
  have there : (s.conversation? id).isSome := run ▸ untaken.present proper₀ began
  obtain ⟨c, found⟩ := Option.isSome_iff_exists.mp there
  refine ⟨c.lastAccessed, Store.lastUse_runAll found, ?_⟩
  rintro now key op rfl asks
  have same : s.settings = settings := Store.settings_runAll ops _
  have exact_age : op.fault? s = some (.flowExecutionExpired key) ↔
      c.isExpired s.settings now = true := by
    rw [Store.lookup_expired_iff asks]
    constructor
    · rintro ⟨d, found', expired⟩
      cases found.symm.trans found'
      exact expired
    · intro expired
      exact ⟨c, found, expired⟩
  refine ⟨?_, ?_, ?_⟩
  · rw [exact_age, Conversation.isExpired_iff, same]
  · intro young futile
    have live : c.isExpired s.settings now = false := by
      cases expired : c.isExpired s.settings now with
      | false => rfl
      | true => exact absurd (exact_age.mpr expired) young
    exact Store.lookup_futile asks found live futile
  · intro fault later others next other given here
    have fresh : op.fresh? ≠ some key.conversation := by cases asks <;> simp [Operation.fresh?]
    have gone := Store.absent_of_taken proper (.reported asks rfl fault) fresh
    have away := Store.absent_runAll (proper.run op) gone others
    rw [← here] at away
    exact Store.fault?_of_absent away given

/-! ## A second's rest -/

/-- A snapshot is found, then one is missed and the lock is looked up. -/
def glances : List Operation :=
  [.get (Executor.only silent).directory [] 600000 ⟨1, 1⟩,
    .get (Executor.only silent).directory [] 1200000 ⟨1, 9⟩, .getLock 1500000 ⟨1, 1⟩]

/-- Where conversations last for a second, it is counted from the snapshot that was found. -/
theorem rest_counts_from_find :
    let s := runAll (.put 0 1 waiter :: glances) (.empty ⟨0, 0, 30000, 1⟩)
    (Operation.getLock 1600000 ⟨1, 1⟩).fault? s ≠ some (.flowExecutionExpired ⟨1, 1⟩) ∧
      (Operation.getLock 1600001 ⟨1, 1⟩).fault? s = some (.flowExecutionExpired ⟨1, 1⟩) ∧
      (Operation.remove (waiter.withKey ⟨1, 1⟩)).fault?
        (runAll [.put 1700000 2 waiter] ((Operation.getLock 1600001 ⟨1, 1⟩).run s)) =
          some (.noSuchFlowExecution ⟨1, 1⟩) := by
  intro s
  let s₀ := (Operation.put 0 1 waiter).run (.empty ⟨0, 0, 30000, 1⟩)
  have proper₀ : s₀.Proper := (Store.empty_proper _).run _
  have stays {op : Operation} {s : Store} (proper : s.Proper) (other : op.fresh? ≠ some 1)
      (there : ((op.run s).conversation? 1).isSome = true) : ¬ op.Takes s 1 := by
    intro takes
    rw [Store.absent_of_taken proper takes other] at there
    cases there
  have untaken : Untaken 1 glances s₀ :=
    ⟨stays proper₀ nofun (by decide +kernel), stays (proper₀.run _) nofun (by decide +kernel),
      stays ((proper₀.run _).run _) nofun (by decide +kernel), trivial⟩
  obtain ⟨last, used, exact_age⟩ :=
    idle_expiry_exact ⟨0, 0, 30000, 1⟩ [] glances 0 (x := waiter) rfl 1 untaken
  obtain rfl : last = 600000 := by
    have at_find : lastUse? 1 ([] ++ Operation.put 0 1 waiter :: glances)
        (.empty ⟨0, 0, 30000, 1⟩) = some 600000 := rfl
    exact Option.some.inj (used.symm.trans at_find)
  have settled : StoreSettings.expiry? ⟨0, 0, 30000, 1⟩ = some 1 := rfl
  obtain ⟨early, -, -⟩ := exact_age 1600000 ⟨1, 1⟩ _ rfl .lock
  obtain ⟨late, -, closed⟩ := exact_age 1600001 ⟨1, 1⟩ _ rfl .lock
  have reported := late.mpr ⟨1, settled, by decide⟩
  refine ⟨?_, reported, ?_⟩
  · intro fault
    obtain ⟨seconds, limit, exceeded⟩ := early.mp fault
    cases settled.symm.trans limit
    exact absurd exceeded (by decide)
  · exact closed reported _ (by simp [Operation.fresh?]) _ ⟨1, 1⟩ rfl rfl

end Parley
