import Parley.Proofs.Store

/-!
# Parley.Proofs.Serial

Requests one after the other, in a store that nothing expires in. What a request makes of the record
of its conversation is a function of that record alone (`Executor.effect`), it leaves all other
records and all locks alone, and so what a row of requests makes of one record is what those of them
do that are for its conversation (`record?_serial`).

* `loaded_iff`, `finish_of_found`: the steps of a request that read and write records.
* `resumeKey_updated`: a request as a whole.
-/

namespace Parley

/-- A request to resume a stored execution. -/
structure Demand where
  key : Key
  event : Option Event
  external : External

namespace Demand

def conversation (d : Demand) : ConversationId := d.key.conversation

def owner (d : Demand) : String := d.external.requestId

end Demand

theorem Conversation.isExpired_of_lasting {settings : StoreSettings} {now : Time} {c : Conversation}
    (lasting : settings.conversationTimeout = 0) : c.isExpired settings now = false := by
  simp [isExpired, StoreSettings.expiry?, lasting]

namespace Store

variable {s : Store} {key : Key} {now : Time} {directory : Directory} {listeners : List Listener}
  {id : ConversationId}

theorem record?_eq_some_iff {r : Conversation} :
    s.record? id = some r ↔ ∃ c, s.conversation? id = some c ∧ c.timeless = r :=
  Option.map_eq_some_iff

/-- Nothing expires in the store. -/
def Lasting (s : Store) : Prop := s.settings.conversationTimeout = 0

theorem checkLive_of_none (absent : s.conversation? key.conversation = none) :
    s.checkLive now key = (.error (.noSuchFlowExecution key), s) := by
  simp [checkLive, absent]

theorem checkLive_of_lasting {c : Conversation} (lasting : s.Lasting)
    (found : s.conversation? key.conversation = some c) : s.checkLive now key = (.ok c, s) := by
  simp [checkLive, found, Conversation.isExpired_of_lasting lasting]

theorem getLock_of_lasting (lasting : s.Lasting) (now : Time) (key : Key) :
    (s.getLock now key).2 = s := by
  cases found : s.conversation? key.conversation with
  | none => simp [getLock, checkLive_of_none found]
  | some c => simp [getLock, checkLive_of_lasting lasting found]

theorem record?_of_getLock_error {cause : RepositoryError} (lasting : s.Lasting)
    (refused : s.getLock now key = (.error cause, s)) : s.record? key.conversation = none := by
  cases found : s.conversation? key.conversation with
  | none => simp [record?, found]
  | some c => simp [getLock, checkLive_of_lasting lasting found] at refused

theorem get_of_none (absent : s.conversation? key.conversation = none) :
    s.get directory listeners now key = (.error (.noSuchFlowExecution key), s) := by
  simp [get, find, checkLive_of_none absent]

theorem get_of_lasting {c : Conversation} (lasting : s.Lasting)
    (found : s.conversation? key.conversation = some c) :
    s.get directory listeners now key =
      match c.execution? directory listeners key with
      | none => (.error (.noSuchFlowExecution key), s)
      | some result => (result, s.write key.conversation { c with lastAccessed := now }) := by
  simp only [get, find, checkLive_of_lasting lasting found, Conversation.execution?]
  cases c.snapshot? key.snapshot <;> rfl

theorem get_spared (lasting : s.Lasting) (directory : Directory) (listeners : List Listener)
    (now : Time) (key : Key) : Spared none s (s.get directory listeners now key).2 := by
  cases found : s.conversation? key.conversation with
  | none =>
    rw [get_of_none found]
    exact .refl s
  | some c =>
    rw [get_of_lasting lasting found]
    split
    · exact .refl s
    · exact .touch found now

theorem loaded_iff (lasting : s.Lasting) (directory : Directory) (listeners : List Listener)
    (now : Time) (key : Key) (x : Execution) :
    (s.get directory listeners now key).1 = .ok x ↔
      ∃ r, s.record? key.conversation = some r ∧
        r.execution? directory listeners key = some (.ok x) := by
  cases found : s.conversation? key.conversation with
  | none => simp [get_of_none found, record?, found]
  | some c =>
    have same :
      c.timeless.execution? directory listeners key = c.execution? directory listeners key := rfl
    rw [get_of_lasting lasting found]
    split <;> simp_all [record?]

end Store

namespace Executor

/-- What a request makes of the record of its conversation, if it gets the lock. -/
def effect (e : Executor) (settings : StoreSettings) (d : Demand) (record : Option Conversation) :
    Option Conversation :=
  record.bind fun r =>
    match r.execution? e.directory e.listeners d.key with
    | some (.ok x) =>
      let a := x.resume d.event d.external e.directory
      match a.result with
      | .error _ => some r
      | .ok () =>
        if a.execution.hasEnded then none
        else some (r.extend settings 0 d.key.snapshot a.execution)
    | _ => some r

theorem effect_of_served {e : Executor} {settings : StoreSettings} {d : Demand} {r : Conversation}
    {x : Execution} (restored : r.execution? e.directory e.listeners d.key = some (.ok x))
    (served : (x.resume d.event d.external e.directory).result = .ok ()) :
    e.effect settings d (some r) =
      if (x.resume d.event d.external e.directory).execution.hasEnded then none
      else some (r.extend settings 0 d.key.snapshot
        (x.resume d.event d.external e.directory).execution) := by
  simp [effect, restored, served]

/-- Concluding succeeds where the conversation is there, if ended executions tell their outcome. -/
theorem finish_of_found (now : Time) (fresh : ConversationId) {x : Execution} {s : Store}
    {key : Key} {c : Conversation} (given : x.key = some key)
    (found : s.conversation? key.conversation = some c)
    (told : x.hasEnded = true → x.outcome.isSome) :
    ∃ result, finish now fresh x s =
      (.ok result, if x.hasEnded then s.drop key.conversation
        else s.write key.conversation (c.extend s.settings now key.snapshot x)) := by
  cases ended : x.hasEnded with
  | true =>
    obtain ⟨outcome, told⟩ := Option.isSome_iff_exists.mp (told ended)
    exact ⟨.ended x.flow.id outcome, by simp [finish, ended, Store.remove, given, found, told]⟩
  | false =>
    exact ⟨.paused ⟨key.conversation, c.next⟩ x.currentFlow.id (x.state?.getD "") x.view
      x.redirectOnPause, by simp [finish, ended, Store.put, given, found]⟩

end Executor

namespace Store

variable {s s' : Store} {id : ConversationId}

theorem record?_write {other : ConversationId} {c : Conversation} :
    (s.write id c).record? other = if id = other then some c.timeless else s.record? other := by
  split
  · rename_i e
    subst e
    simp [record?]
  · rename_i e
    simp [record?, conversation?_write_of_ne (Ne.symm e)]

/-- Only the record of one conversation may have changed, and that is now the one given. -/
structure Updated (id : ConversationId) (record : Option Conversation) (s s' : Store) : Prop where
  settings : s'.settings = s.settings
  lock : ∀ other, s'.lock other = s.lock other
  record : ∀ other, s'.record? other = if id = other then record else s.record? other

namespace Updated

variable {s'' : Store} {record record' : Option Conversation}

theorem trans (first : s.Updated id record s') (second : s'.Updated id record' s'') :
    s.Updated id record' s'' where
  settings := second.settings.trans first.settings
  lock other := (second.lock other).trans (first.lock other)
  record other := by
    rw [second.record, first.record]
    split <;> rfl

theorem of_spared (spared : Spared none s s') : s.Updated id (s.record? id) s' where
  settings := spared.settings
  lock := spared.lock
  record other := by
    rw [spared.record_eq]
    split
    · rename_i e
      rw [e]
    · rfl

theorem dropGuard {owner : String} {l : Lock} (acquired : (s.lock id).acquire owner = .ok l)
    (inner : (s.setLock id l).Updated id record s') :
    s.Updated id record (s'.dropGuard id owner) where
  settings := (settings_dropGuard s' id owner).trans inner.settings
  lock := lock_dropGuard_acquired acquired inner.lock
  record other := by
    rw [record?_dropGuard, inner.record]
    rfl

end Updated

end Store

namespace Executor

/-- What is stored or removed at the end of a request. Nothing goes wrong there, as the conversation
is still the one that was loaded from. -/
theorem finish_of_served {e : Executor} {d : Demand} {r : Conversation} {x : Execution} {s : Store}
    (now : Time) (fresh : ConversationId) (found : s.record? d.conversation = some r)
    (restored : r.execution? e.directory e.listeners d.key = some (.ok x))
    (served : (x.resume d.event d.external e.directory).result = .ok ()) :
    ∃ result s', finish now fresh (x.resume d.event d.external e.directory).execution s =
        (.ok result, s') ∧
      s.Updated d.conversation (e.effect s.settings d (some r)) s' := by
  have given : (x.resume d.event d.external e.directory).execution.key = some d.key :=
    (Execution.resume_key x d.event d.external e.directory).trans
      (Conversation.execution?_ok restored).1
  obtain ⟨c, present, rfl⟩ := Store.record?_eq_some_iff.mp found
  obtain ⟨result, finished⟩ := finish_of_found now fresh given present
    (Execution.resume_outcome served)
  refine ⟨result, _, finished, ?_⟩
  rw [effect_of_served restored served]
  split
  · exact ⟨rfl, fun _ => rfl, fun _ => Store.record?_drop⟩
  · exact ⟨rfl, fun _ => rfl, fun _ => Store.record?_write⟩

theorem effect_of_unloaded {e : Executor} {settings : StoreSettings} {d : Demand}
    {record : Option Conversation}
    (unloaded : ∀ r x, record = some r →
      r.execution? e.directory e.listeners d.key ≠ some (.ok x)) :
    e.effect settings d record = record := by
  cases record with
  | none => rfl
  | some r =>
    simp only [effect, Option.bind_some]
    split
    · rename_i x restored
      exact absurd restored (unloaded r x rfl)
    · rfl

theorem effect_of_failed {e : Executor} {settings : StoreSettings} {d : Demand}
    {record : Option Conversation} {r : Conversation} {x : Execution} {stop : Stop}
    (found : record = some r)
    (restored : r.execution? e.directory e.listeners d.key = some (.ok x))
    (failed : (x.resume d.event d.external e.directory).result = .error stop) :
    e.effect settings d record = record := by
  simp [effect, found, restored, failed]

theorem resumeLocked_updated (e : Executor) (d : Demand) (clock : Clock) (fresh : ConversationId)
    {s : Store} (lasting : s.Lasting) :
    s.Updated d.conversation (e.effect s.settings d (s.record? d.conversation))
      (e.resumeLocked clock fresh d.key d.event d.external s).store := by
  have spared := s.get_spared lasting e.directory e.listeners clock.load d.key
  have loadable := s.loaded_iff lasting e.directory e.listeners clock.load d.key
  unfold resumeLocked
  rcases loaded : s.get e.directory e.listeners clock.load d.key with ⟨_ | x, s'⟩ <;>
    rw [loaded] at spared loadable <;> dsimp only at spared loadable ⊢
  · rw [effect_of_unloaded fun r x found restored => by
      simpa using (loadable x).mpr ⟨r, found, restored⟩]
    exact .of_spared spared
  · obtain ⟨r, found, restored⟩ := (loadable x).mp rfl
    replace found : s.record? d.conversation = some r := found
    cases served : (x.resume d.event d.external e.directory).result with
    | error stop =>
      simp only [conclude, served]
      rw [effect_of_failed found restored served]
      exact .of_spared spared
    | ok =>
      have kept : s'.record? d.conversation = some r := spared.record_eq.trans found
      obtain ⟨result, s'', finished, updated⟩ :=
        finish_of_served clock.store fresh kept restored served
      simp only [conclude, served, finished]
      rw [spared.settings] at updated
      have loading : s.Updated d.conversation _ s' := .of_spared spared
      rw [found]
      exact loading.trans updated

/-- **A request as a whole** makes of the record of its conversation what its effect says, and
nothing of anything else. -/
theorem resumeKey_updated (e : Executor) (d : Demand) (clock : Clock) (fresh : ConversationId)
    {s : Store} {l : Lock} (lasting : s.Lasting)
    (free : (s.lock d.conversation).acquire d.owner = .ok l) :
    s.Updated d.conversation (e.effect s.settings d (s.record? d.conversation))
      (e.resumeKey clock fresh d.key d.event d.external s).store := by
  have alone := s.getLock_of_lasting lasting clock.lookup d.key
  unfold resumeKey
  rcases looked : s.getLock clock.lookup d.key with ⟨_ | _, s₁⟩ <;> rw [looked] at alone <;>
    dsimp only at alone ⊢ <;> subst alone
  · have absent : s₁.record? d.conversation = none := s₁.record?_of_getLock_error lasting looked
    rw [absent, effect, Option.bind_none, ← absent]
    exact .of_spared (.refl s₁)
  · rcases Store.acquire_cases d.key.conversation d.external.requestId s₁ with
      ⟨l', acquired, taken⟩ | ⟨holder, held, other, -⟩
    · simp only [taken]
      exact .dropGuard acquired
        (resumeLocked_updated e d clock fresh (s := s₁.setLock d.conversation l') lasting)
    · have refused := Lock.acquire_refused held other
      rw [Demand.conversation, Demand.owner, refused] at free
      cases free

section

variable {ι : Type} (e : Executor) (demand : ι → Demand) (clock : ι → Clock)
  (fresh : ι → ConversationId)

/-- Requests in a row, each begun when the one before it is through. -/
def serial (row : List ι) (s : Store) : Store :=
  row.foldl (fun s i =>
    (e.resumeKey (clock i) (fresh i) (demand i).key (demand i).event (demand i).external s).store) s

/-- What requests in a row make of one record, if all of them are for its conversation. -/
def effects (settings : StoreSettings) (row : List ι) (record : Option Conversation) :
    Option Conversation :=
  row.foldl (fun record i => e.effect settings (demand i) record) record

theorem record?_serial {row : List ι} {s : Store} (lasting : s.Lasting)
    (free : ∀ i ∈ row, ∃ l, (s.lock (demand i).conversation).acquire (demand i).owner = .ok l)
    (id : ConversationId) :
    (e.serial demand clock fresh row s).record? id =
      e.effects demand s.settings (row.filter fun i => (demand i).conversation = id)
        (s.record? id) := by
  induction row generalizing s with
  | nil => rfl
  | cons i rest ih =>
    obtain ⟨l, first⟩ := free i List.mem_cons_self
    -- The first request leaves settings and locks as they were, so the rest is free to run too.
    have updated := e.resumeKey_updated (demand i) (clock i) (fresh i) lasting first
    have rest := ih (by rwa [Store.Lasting, updated.settings]) fun j later => by
      rw [updated.lock]
      exact free j (List.mem_cons_of_mem i later)
    rw [updated.settings, updated.record] at rest
    refine rest.trans ?_
    by_cases mine : (demand i).conversation = id
    · simp [mine, effects]
    · simp [mine]

end

end Executor

end Parley
