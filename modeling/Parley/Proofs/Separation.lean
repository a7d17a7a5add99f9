import Parley.Proofs.Atomicity

/-!
# Parley.Proofs.Separation

Conversations are separate. What a store has of a conversation is its share: the record with all
snapshots, and the lock. Every step of a request on a key is confined to the share of one
conversation (`Store.Confined`): it leaves all other shares, and what it answers and makes of its
own share depends on nothing else in the store. Steps one after the other are confined if each of
them is (`Confined.andThen`), so requests are.

* `Store.confined_checkLive`, …, `Executor.confined_resumeKey`: the steps of a request.
* `Executor.resumeKey_fresh`: ids for new conversations do not matter to it.
* `conversations_separate`: a request on a conversation, and all others.
-/

namespace Parley

open Store

namespace Store

variable {α β : Type} {s s' s'' t : Store} {id : ConversationId}

/-- What the store has of one conversation. -/
def share (s : Store) (id : ConversationId) : Option Conversation × Lock :=
  (s.conversation? id, s.lock id)

theorem share_eq_iff {other : ConversationId} :
    s.share id = t.share other ↔
      s.conversation? id = t.conversation? other ∧ s.lock id = t.lock other := by
  simp [share]

/-- At most the share of one conversation has changed. -/
structure Beside (id : ConversationId) (s s' : Store) : Prop where
  settings : s'.settings = s.settings
  share : ∀ other, other ≠ id → s'.share other = s.share other

/-- The stores have the same share of one conversation. -/
structure Agree (id : ConversationId) (s t : Store) : Prop where
  settings : s.settings = t.settings
  share : s.share id = t.share id

namespace Beside

theorem refl (s : Store) : Beside id s s := ⟨rfl, fun _ _ => rfl⟩

theorem trans (first : Beside id s s') (second : Beside id s' s'') : Beside id s s'' := by
  refine ⟨second.settings.trans first.settings, ?_⟩
  intro other apart
  rw [second.share other apart, first.share other apart]

theorem write (c : Conversation) : Beside id s (s.write id c) := by
  refine ⟨rfl, fun other apart => ?_⟩
  rw [share_eq_iff]
  exact ⟨conversation?_write_of_ne apart, lock_write⟩

theorem drop : Beside id s (s.drop id) := by
  refine ⟨rfl, fun other apart => ?_⟩
  rw [share_eq_iff]
  exact ⟨conversation?_drop_of_ne apart, lock_drop⟩

theorem setLock (l : Lock) : Beside id s (s.setLock id l) := by
  refine ⟨rfl, fun other apart => ?_⟩
  rw [share_eq_iff]
  exact ⟨conversation?_setLock, lock_setLock_of_ne apart⟩

end Beside

namespace Agree

theorem conversation (h : Agree id s t) : s.conversation? id = t.conversation? id :=
  (share_eq_iff.mp h.share).1

theorem lock (h : Agree id s t) : s.lock id = t.lock id := (share_eq_iff.mp h.share).2

theorem write (h : Agree id s t) (c : Conversation) : Agree id (s.write id c) (t.write id c) := by
  refine ⟨h.settings, share_eq_iff.mpr ⟨?_, h.lock⟩⟩
  rw [conversation?_write_self, conversation?_write_self]

theorem drop (h : Agree id s t) : Agree id (s.drop id) (t.drop id) := by
  refine ⟨h.settings, share_eq_iff.mpr ⟨?_, h.lock⟩⟩
  rw [conversation?_drop_self, conversation?_drop_self]

theorem setLock (h : Agree id s t) (l : Lock) : Agree id (s.setLock id l) (t.setLock id l) := by
  refine ⟨h.settings, share_eq_iff.mpr ⟨h.conversation, ?_⟩⟩
  rw [lock_setLock_self, lock_setLock_self]

end Agree

/-- The work has to do with the share of one conversation only: it leaves all others, and where that
share is the same it answers the same and leaves the same. -/
structure Confined (id : ConversationId) (f : Store → α × Store) : Prop where
  beside : ∀ s, Beside id s (f s).2
  agree : ∀ {s t}, Agree id s t → (f s).1 = (f t).1 ∧ Agree id (f s).2 (f t).2

namespace Confined

variable {f : Store → α × Store} {h : Store → β × Store}

theorem pure (a : α) : Confined id fun s => (a, s) := by
  refine ⟨fun s => .refl s, ?_⟩
  intro s t same
  exact ⟨rfl, same⟩

theorem write (a : α) (c : Conversation) : Confined id fun s => (a, s.write id c) :=
  ⟨fun _ => .write c, fun same => ⟨rfl, same.write c⟩⟩

theorem drop (a : α) : Confined id fun s => (a, s.drop id) :=
  ⟨fun _ => .drop, fun same => ⟨rfl, same.drop⟩⟩

theorem setLock (a : α) (l : Lock) : Confined id fun s => (a, s.setLock id l) :=
  ⟨fun _ => .setLock l, fun same => ⟨rfl, same.setLock l⟩⟩

/-- Work that goes on with what other work has answered and left. -/
theorem andThen (hf : Confined id f)
    (next : ∀ s a s', f s = (a, s') → ∃ g, Confined id g ∧ ∀ t t', f t = (a, t') → h t = g t') :
    Confined id h := by
  constructor
  · intro s
    obtain ⟨g, hg, goes⟩ := next s _ _ rfl
    rw [goes s _ rfl]
    exact (hf.beside s).trans (hg.beside _)
  · intro s t same
    obtain ⟨g, hg, goes⟩ := next s _ _ rfl
    obtain ⟨answer, left⟩ := hf.agree same
    rw [goes s _ rfl, goes t (f t).2 (Prod.ext answer.symm rfl)]
    exact hg.agree left

/-- Work that goes by the record of the conversation. -/
theorem readRecord
    (next : ∀ c settings, ∃ g, Confined id g ∧
      ∀ s, s.conversation? id = c → s.settings = settings → h s = g s) : Confined id h := by
  constructor
  · intro s
    obtain ⟨g, hg, goes⟩ := next (s.conversation? id) s.settings
    rw [goes s rfl rfl]
    exact hg.beside s
  · intro s t same
    obtain ⟨g, hg, goes⟩ := next (s.conversation? id) s.settings
    rw [goes s rfl rfl, goes t same.conversation.symm same.settings.symm]
    exact hg.agree same

/-- Work that goes by the lock of the conversation. -/
theorem readLock (next : ∀ l, ∃ g, Confined id g ∧ ∀ s, s.lock id = l → h s = g s) :
    Confined id h := by
  constructor
  · intro s
    obtain ⟨g, hg, goes⟩ := next (s.lock id)
    rw [goes s rfl]
    exact hg.beside s
  · intro s t same
    obtain ⟨g, hg, goes⟩ := next (s.lock id)
    rw [goes s rfl, goes t same.lock.symm]
    exact hg.agree same

end Confined

/-! ## Operations on the store -/

section

variable (now : Time) (key : Key)

theorem confined_checkLive : Confined key.conversation (checkLive now key) := by
  refine .readRecord fun c settings => ?_
  cases c with
  | none =>
    refine ⟨_, .pure (.error (.noSuchFlowExecution key)), ?_⟩
    intro s found _
    simp [checkLive, found]
  | some c =>
    cases expired : c.isExpired settings now with
    | true =>
      refine ⟨_, .drop (.error (.flowExecutionExpired key)), ?_⟩
      intro s found given
      simp [checkLive, found, given, expired]
    | false =>
      refine ⟨_, .pure (.ok c), ?_⟩
      intro s found given
      simp [checkLive, found, given, expired]

theorem confined_getLock : Confined key.conversation (getLock now key) := by
  refine (confined_checkLive now key).andThen fun s found s' _ => ?_
  cases found with
  | error e =>
    refine ⟨_, .pure (.error e), ?_⟩
    intro t t' checked
    simp [getLock, checked]
  | ok c =>
    refine ⟨fun t => (.ok (t.lock key.conversation), t), ?_, ?_⟩
    · refine .readLock fun l => ⟨_, .pure (.ok l), ?_⟩
      intro t seen
      rw [seen]
    · intro t t' checked
      simp [getLock, checked]

theorem confined_find : Confined key.conversation (find now key) := by
  refine (confined_checkLive now key).andThen fun s found s' _ => ?_
  cases found with
  | error e =>
    refine ⟨_, .pure (.error e), ?_⟩
    intro t t' checked
    simp [find, checked]
  | ok c =>
    cases held : c.snapshot? key.snapshot with
    | none =>
      refine ⟨_, .pure (.error (.noSuchFlowExecution key)), ?_⟩
      intro t t' checked
      simp [find, checked, held]
    | some snapshot =>
      refine ⟨_, .write (.ok (snapshot, c.scope)) { c with lastAccessed := now }, ?_⟩
      intro t t' checked
      simp [find, checked, held]

theorem confined_get (directory : Directory) (listeners : List Listener) :
    Confined key.conversation (get directory listeners now key) := by
  refine (confined_find now key).andThen fun s found s' _ => ?_
  rcases found with e | ⟨kept, scope⟩
  · refine ⟨_, .pure (.error e), ?_⟩
    intro t t' held
    simp [get, held]
  · refine ⟨_, .pure (Execution.revive directory listeners kept scope key), ?_⟩
    intro t t' held
    simp [get, held]

end

section

variable (id : ConversationId) (owner : String)

theorem confined_acquire : Confined id (acquire id owner) := by
  refine .readLock fun l => ?_
  cases taken : l.acquire owner with
  | error e =>
    refine ⟨_, .pure (.error e), ?_⟩
    intro s seen
    simp [acquire, seen, taken]
  | ok lock =>
    refine ⟨_, .setLock (.ok ()) lock, ?_⟩
    intro s seen
    simp [acquire, seen, taken]

theorem confined_release : Confined id (release id owner) := by
  refine .readLock fun l => ?_
  cases given : l.release owner with
  | error e =>
    refine ⟨_, .pure (.error e), ?_⟩
    intro s seen
    simp [release, seen, given]
  | ok lock =>
    refine ⟨_, .setLock (.ok ()) lock, ?_⟩
    intro s seen
    simp [release, seen, given]

end

section

variable {x : Execution} {key : Key}

theorem confined_put (now : Time) (fresh : ConversationId) (given : x.key = some key) :
    Confined key.conversation (put now fresh x) := by
  refine .readRecord fun c settings => ?_
  cases c with
  | none =>
    refine ⟨_, .pure (.error (.noSuchFlowExecution key)), ?_⟩
    intro s found _
    exact put_gone given found
  | some c =>
    refine ⟨_, .write (.ok ⟨key.conversation, c.next⟩) (c.extend settings now key.snapshot x), ?_⟩
    intro s found known
    rw [← known]
    exact put_found given found

theorem confined_remove (given : x.key = some key) : Confined key.conversation (remove x) := by
  refine .readRecord fun c _ => ?_
  cases c with
  | none =>
    refine ⟨_, .pure (.error (.noSuchFlowExecution key)), ?_⟩
    intro s found _
    exact remove_gone given found
  | some c =>
    refine ⟨_, .drop (.ok ()), ?_⟩
    intro s found _
    exact remove_found given found

end

end Store

/-! ## Requests -/

/-- All of a reply but the store. -/
def Reply.told (r : Reply) : Except ExecutorError ExecutionResult × List Value :=
  (r.result, r.written)

/-- The reply as work on a store. -/
def Reply.parts (r : Reply) : (Except ExecutorError ExecutionResult × List Value) × Store :=
  (r.told, r.store)

namespace Executor

variable {x : Execution} {key : Key} (now : Time) (fresh : ConversationId)

theorem confined_finish (given : x.key = some key) :
    Confined key.conversation (finish now fresh x) := by
  cases ended : x.hasEnded with
  | true =>
    refine (confined_remove given).andThen fun s removed s' _ => ?_
    rcases removed with e | _
    · refine ⟨_, .pure (.error (.repository e)), ?_⟩
      intro t t' removed
      simp [finish, ended, removed]
    · cases told : x.outcome with
      | none =>
        refine ⟨_, .pure (.error (.execution (.illegalState "ended execution has no outcome"))), ?_⟩
        intro t t' removed
        simp [finish, ended, removed, told]
      | some outcome =>
        refine ⟨_, .pure (.ok (.ended x.flow.id outcome)), ?_⟩
        intro t t' removed
        simp [finish, ended, removed, told]
  | false =>
    refine (confined_put now fresh given).andThen fun s stored s' _ => ?_
    cases stored with
    | error e =>
      refine ⟨_, .pure (.error (.repository e)), ?_⟩
      intro t t' stored
      simp [finish, ended, stored]
    | ok key =>
      let waits := ExecutionResult.paused key x.currentFlow.id (x.state?.getD "") x.view
        x.redirectOnPause
      refine ⟨_, .pure (.ok waits), ?_⟩
      intro t t' stored
      simp [finish, ended, stored, waits]

theorem confined_conclude {a : Answer} (given : a.execution.key = some key) :
    Confined key.conversation fun s => (conclude now fresh a s).parts := by
  let written := Listener.heard a.execution.listeners a.journal
  cases came : a.result with
  | error stop =>
    have same : (fun s => (conclude now fresh a s).parts) =
        fun s => ((.error (.ofStop stop), written), s) := by
      funext s
      simp [conclude, came, Reply.parts, Reply.told, written]
    rw [same]
    exact .pure _
  | ok done =>
    refine (confined_finish now fresh given).andThen fun s result s' _ => ?_
    refine ⟨_, .pure (result, written), ?_⟩
    intro t t' finished
    simp [conclude, came, finished, Reply.parts, Reply.told, written]

variable (e : Executor) (clock : Clock) (key : Key) (event : Option Event) (external : External)

theorem confined_resumeLocked : Confined key.conversation fun s =>
    (e.resumeLocked clock fresh key event external s).parts := by
  refine (confined_get clock.load key e.directory e.listeners).andThen fun s loaded s' came => ?_
  cases loaded with
  | error cause =>
    refine ⟨_, .pure (.error (.repository cause), []), ?_⟩
    intro t t' loaded
    simp [resumeLocked, loaded, Reply.parts, Reply.told]
  | ok x =>
    -- What comes out of the store under a key has that key, and keeps it.
    obtain ⟨c, -, -, restored, -⟩ := get_ok came
    have given : x.key = some key := (Conversation.execution?_ok restored).1
    have kept : (x.resume event external e.directory).execution.key = some key := by
      rw [Execution.resume_key, given]
    refine ⟨_, confined_conclude clock.store fresh kept, ?_⟩
    intro t t' loaded
    simp [resumeLocked, loaded]

/-- The request on a locked conversation, and the lock dropped after it. -/
theorem confined_underGuard : Confined key.conversation fun s =>
    let reply := e.resumeLocked clock fresh key event external s
    (reply.told, reply.store.dropGuard key.conversation external.requestId) := by
  refine (confined_resumeLocked fresh e clock key event external).andThen fun s told s' _ => ?_
  refine ⟨fun s => (told, s.dropGuard key.conversation external.requestId), ?_, ?_⟩
  · refine (confined_release key.conversation external.requestId).andThen fun s given s' _ => ?_
    refine ⟨_, .pure told, ?_⟩
    intro t t' released
    simp [dropGuard, released]
  · intro t t' served
    obtain ⟨rfl, rfl⟩ := Prod.mk.inj served
    rfl

/-- The request once its conversation has been found: it tries the lock. -/
def attempt (s : Store) : (Except ExecutorError ExecutionResult × List Value) × Store :=
  match s.acquire key.conversation external.requestId with
  | (.error cause, s) => ((.error (.repository cause), []), s)
  | (.ok (), s) =>
    let reply := e.resumeLocked clock fresh key event external s
    (reply.told, reply.store.dropGuard key.conversation external.requestId)

theorem confined_attempt :
    Confined key.conversation (attempt fresh e clock key event external) := by
  refine (confined_acquire key.conversation external.requestId).andThen fun s taken s' _ => ?_
  rcases taken with cause | _
  · refine ⟨_, .pure (.error (.repository cause), []), ?_⟩
    intro t t' acquired
    simp [attempt, acquired]
  · refine ⟨_, confined_underGuard fresh e clock key event external, ?_⟩
    intro t t' acquired
    simp [attempt, acquired]

theorem confined_resumeKey : Confined key.conversation fun s =>
    (e.resumeKey clock fresh key event external s).parts := by
  refine (confined_getLock clock.lookup key).andThen fun s looked s' _ => ?_
  cases looked with
  | error cause =>
    refine ⟨_, .pure (.error (.repository cause), []), ?_⟩
    intro t t' looked
    simp [resumeKey, looked, Reply.parts, Reply.told]
  | ok l =>
    refine ⟨_, confined_attempt fresh e clock key event external, ?_⟩
    intro t t' looked
    simp only [resumeKey, looked, attempt]
    rcases t'.acquire key.conversation external.requestId with ⟨_ | _, _⟩ <;> rfl

section

variable {e : Executor} {clock : Clock} {key : Key} {event : Option Event} {external : External}

theorem finish_fresh (given : x.key = some key) (now : Time) (fresh fresh' : ConversationId)
    (s : Store) : finish now fresh x s = finish now fresh' x s := by
  have stored : s.put now fresh x = s.put now fresh' x := by
    simp [put, given]
  simp [finish, stored]

/-- No request by a key needs the id for a new conversation. -/
theorem resumeKey_fresh (fresh fresh' : ConversationId) (s : Store) :
    e.resumeKey clock fresh key event external s =
      e.resumeKey clock fresh' key event external s := by
  have locked (s : Store) : e.resumeLocked clock fresh key event external s =
      e.resumeLocked clock fresh' key event external s := by
    unfold resumeLocked
    rcases loaded : s.get e.directory e.listeners clock.load key with ⟨cause | x, s'⟩
    · rfl
    · obtain ⟨c, -, -, restored, -⟩ := get_ok loaded
      have given : x.key = some key := (Conversation.execution?_ok restored).1
      have kept := (Execution.resume_key x event external e.directory).trans given
      have finished (s : Store) := finish_fresh kept clock.store fresh fresh' s
      simp [conclude, finished]
  simp [resumeKey, locked]

end

end Executor

/-- **Conversations do not interfere.** A resumption by a key leaves all that the store has of other
conversations, their locks included; and on stores that have the same of the key's conversation it
gives the same reply and leaves the same of it, whatever else they have and whichever id they would
give to a new conversation. -/
theorem conversations_separate (e : Executor) (clock : Clock) (fresh : ConversationId)
    (event : Option Event) (external : External) {text : String} {key : Key}
    (parsed : Key.ofText text = .ok key) (s : Store) :
    let reply := e.resume clock fresh text event external s
    Beside key.conversation s reply.store ∧
      ∀ t, Agree key.conversation s t → ∀ fresh',
        let other := e.resume clock fresh' text event external t
        reply.result = other.result ∧ reply.written = other.written ∧
          Agree key.conversation reply.store other.store := by
  intro reply
  have resumes (fresh : ConversationId) (t : Store) : e.resume clock fresh text event external t =
      e.resumeKey clock fresh key event external t := by
    simp [Executor.resume, parsed]
  have confined := Executor.confined_resumeKey fresh e clock key event external
  simp only [reply, resumes]
  refine ⟨confined.beside s, ?_⟩
  intro t agree fresh'
  rw [Executor.resumeKey_fresh fresh' fresh]
  obtain ⟨told, left⟩ := confined.agree agree
  obtain ⟨result, written⟩ := Prod.mk.inj told
  exact ⟨result, written, left⟩

/-! ## A stranger in the store -/

/-- Somebody's conversation that has not been used for ages. -/
def Conversation.stale : Conversation where
  flow := "elsewhere"
  snapshots := []
  next := 7
  scope := .empty
  createdAt := -1000000000000
  lastAccessed := -1000000000000

/-- The waiting conversation next to one that has expired and is locked. -/
def inCompany : Store :=
  (waiting.write 2 .stale).setLock 2 ⟨"stale", some "somebody", 1, by simp⟩

theorem other_conversation_unchanged :
    let reply := (Executor.only silent).resume (Clock.still 5) 3 (Key.mk 1 1).text none caller
      inCompany
    let alone := (Executor.only silent).resume (Clock.still 5) 4 (Key.mk 1 1).text none caller
      waiting
    Conversation.stale.isExpired inCompany.settings 5 = true ∧ reply.result.isOk = true ∧
      reply.store.share 2 = inCompany.share 2 ∧ reply.result = alone.result ∧
      reply.store.share 1 = alone.store.share 1 := by
  intro reply alone
  have parsed : Key.ofText (Key.mk 1 1).text = .ok ⟨1, 1⟩ := rfl
  have agree : Agree 1 inCompany waiting := by
    refine ⟨rfl, share_eq_iff.mpr ⟨?_, ?_⟩⟩
    · exact conversation?_write_of_ne (by decide)
    · exact lock_setLock_of_ne (by decide)
  obtain ⟨beside, same⟩ := conversations_separate (Executor.only silent) (Clock.still 5) 3 none
    caller parsed inCompany
  obtain ⟨result, -, left⟩ := same waiting agree 4
  exact ⟨by decide +kernel, by decide +kernel, beside.share 2 (by decide), result, left.share⟩

end Parley
