import Parley.Proofs.Store

/-!
# Parley.Proofs.Atomicity

A request that fails leaves the store as it was: locks and records of all conversations
(`failure_spares_store`). Only a conversation that the failure itself reports as expired is gone.

The failures of a request are those of its parts, each of which spares the store (`Spared`): looking
the lock up, taking it, loading, running the flow, which does not know the store, and concluding.
Concluding would drop a conversation and fail only for an execution that has ended without an
outcome, and no request leaves one (`Execution.resume_outcome`).
-/

namespace Parley

open Store

/-- The conversation that an error reports as expired. -/
def ExecutorError.expired? : ExecutorError → Option ConversationId
  | .repository cause => cause.expired?
  | _ => none

@[simp] theorem ExecutorError.expired?_ofStop (stop : Stop) : (ofStop stop).expired? = none := by
  cases stop <;> rfl

namespace Store

variable {s s' s'' : Store} {x : Execution} {now : Time} {fresh : ConversationId}
  {dropped : Option ConversationId}

/-- What a lock was taken for spares the store, so the whole does once the guard is dropped. -/
theorem Spared.dropGuard {id : ConversationId} {owner : String} {l : Lock}
    (acquired : (s.lock id).acquire owner = .ok l) (inner : Spared dropped (s.setLock id l) s') :
    Spared dropped s (s'.dropGuard id owner) where
  settings := (settings_dropGuard s' id owner).trans inner.settings
  lock := lock_dropGuard_acquired acquired inner.lock
  record other := by
    rw [record?_dropGuard, inner.record]
    rfl

theorem put_error {e : RepositoryError} (h : s.put now fresh x = (.error e, s')) :
    e.expired? = none ∧ s' = s := by
  simp only [put] at h
  split at h
  · cases h
  · split at h
    · cases h
      exact ⟨rfl, rfl⟩
    · cases h

theorem remove_error {e : RepositoryError} (h : s.remove x = (.error e, s')) :
    e.expired? = none ∧ s' = s := by
  simp only [remove] at h
  split at h
  · cases h
  · split at h
    · cases h
      exact ⟨rfl, rfl⟩
    · cases h

end Store

namespace Executor

variable {e : Executor} {s s' : Store} {x : Execution} {now : Time} {fresh : ConversationId}
  {clock : Clock} {key : Key} {event : Option Event} {external : External} {err : ExecutorError}

/-- Concluding fails before it changes anything, if ended executions tell their outcome. -/
theorem finish_error (h : finish now fresh x s = (.error err, s'))
    (told : x.hasEnded = true → x.outcome.isSome) : err.expired? = none ∧ s' = s := by
  simp only [finish] at h
  split at h
  · rename_i ended
    split at h
    · rename_i failure
      cases h
      exact remove_error failure
    · obtain ⟨outcome, e⟩ := Option.isSome_iff_exists.mp (told ended)
      rw [e] at h
      cases h
  · split at h
    · rename_i failure
      cases h
      exact put_error failure
    · cases h

theorem conclude_error {a : Answer} (h : (conclude now fresh a s).result = .error err)
    (told : a.result = .ok () → a.execution.hasEnded = true → a.execution.outcome.isSome) :
    err.expired? = none ∧ (conclude now fresh a s).store = s := by
  unfold conclude at h ⊢
  rcases success : a.result with stop | _ <;> simp only [success] at h ⊢
  · cases h
    exact ⟨ExecutorError.expired?_ofStop stop, trivial⟩
  · exact finish_error (Prod.ext h rfl) (told success)

theorem resumeLocked_error
    (h : (e.resumeLocked clock fresh key event external s).result = .error err) :
    Spared err.expired? s (e.resumeLocked clock fresh key event external s).store := by
  unfold resumeLocked at h ⊢
  rcases loaded : s.get e.directory e.listeners clock.load key with ⟨cause | x, s'⟩ <;>
    simp only [loaded] at h ⊢
  · cases h
    exact get_error loaded
  · obtain ⟨c, found, -, -, rfl⟩ := get_ok loaded
    obtain ⟨unexpired, same⟩ := conclude_error h fun success => Execution.resume_outcome success
    rw [same, unexpired]
    exact .touch found clock.load

theorem resumeKey_error (h : (e.resumeKey clock fresh key event external s).result = .error err) :
    Spared err.expired? s (e.resumeKey clock fresh key event external s).store := by
  unfold resumeKey at h ⊢
  rcases looked : s.getLock clock.lookup key with ⟨cause | l, s'⟩ <;> simp only [looked] at h ⊢
  · cases h
    exact getLock_error looked
  · obtain ⟨-, rfl⟩ := getLock_ok looked
    rcases acquire_cases key.conversation external.requestId s' with
      ⟨l, acquired, e⟩ | ⟨_, -, -, e⟩ <;> simp only [e] at h ⊢
    · exact .dropGuard acquired (resumeLocked_error h)
    · cases h
      exact .refl s'

theorem resume_error {text : String}
    (h : (e.resume clock fresh text event external s).result = .error err) :
    Spared err.expired? s (e.resume clock fresh text event external s).store := by
  unfold resume at h ⊢
  rcases parsed : Key.ofText text with fault | key <;> simp only [parsed] at h ⊢
  · cases h
    exact .refl s
  · exact resumeKey_error h

theorem launch_error {flow : String} {input : Attributes}
    (h : (e.launch now fresh flow input external s).result = .error err) :
    (e.launch now fresh flow input external s).store = s := by
  unfold launch at h ⊢
  rcases found : e.directory flow with cause | flow <;> simp only [found] at h ⊢
  exact (conclude_error h fun success => Execution.start_outcome success).2

end Executor

/-- **Failed requests are atomic.** After a resumption that failed in any of its parts every lock
and every record is as before, but for a conversation that the failure reports as expired; after a
launch that failed the store is as before altogether. -/
theorem failure_spares_store (e : Executor) (fresh : ConversationId) (external : External)
    (s : Store) (err : ExecutorError) :
    (∀ clock key event, (e.resume clock fresh key event external s).result = .error err →
      Spared err.expired? s (e.resume clock fresh key event external s).store) ∧
    ∀ now flow input, (e.launch now fresh flow input external s).result = .error err →
      (e.launch now fresh flow input external s).store = s :=
  ⟨fun _ _ _ => Executor.resume_error, fun _ _ _ => Executor.launch_error⟩

/-! ## An event that a flow does not answer -/

/-- The store once the flow has been launched. -/
def waiting : Store :=
  ((Executor.only silent).launch 0 1 "silent" .empty caller (.empty .default)).store

theorem unanswered_event_spares_store :
    let reply := (Executor.only silent).resume (Clock.still 5) 2 (Key.mk 1 1).text (some .success)
      caller waiting
    let failure := ExecutorError.execution (.noMatchingTransition "silent" "wait" "success")
    reply.result = .error failure ∧ Spared none waiting reply.store := by
  intro reply failure
  have failed : reply.result = .error failure := rfl
  exact ⟨failed, (failure_spares_store _ _ _ _ failure).1 _ _ _ failed⟩

end Parley
