import Mathlib.Logic.Basic
import Parley.Proofs.Store

/-!
# Parley.Proofs.History

History policies over whole requests. One event can lead through many transitions, each with a
policy of its own, but the execution remembers a single policy, and storing it reads that one alone:
it is the policy of the last transition that was taken (`Execution.resume_history`). What an earlier
transition asked for is lost where the last one asks for less.

* `mem_extend_iff`: which snapshots there are after a conversation was extended.
* `history_honoured_iff`: when all fired transitions of a stored request get what they ask for.
* `old_snapshot_outlives_invalidation`: a request in which one does not.
-/

namespace Parley

/-! ## The policy that is remembered -/

namespace Entry

def taken? : Entry → Option Transition
  | taken t => some t
  | _ => none

def fired? : Entry → Option Transition
  | fired t => some t
  | _ => none

end Entry

/-- The policy of the last transition that was taken. -/
def lastPolicy (journal : List Entry) : History :=
  ((journal.filterMap Entry.taken?).getLast?.map Transition.history).getD .preserve

theorem lastPolicy_append {entries : List Entry} (h : entries.filterMap Entry.taken? = [])
    (journal : List Entry) : lastPolicy (journal ++ entries) = lastPolicy journal := by
  simp [lastPolicy, h]

theorem lastPolicy_taken (journal : List Entry) (t : Transition) :
    lastPolicy (journal ++ [.taken t]) = t.history := by
  simp [lastPolicy, Entry.taken?]

/-- No change parts the policy that the execution remembers from the last one that was taken. -/
theorem Change.history_eq {r r' : Request} (h : Change r r')
    (remembered : r.execution.history = lastPolicy r.journal) :
    r'.execution.history = lastPolicy r'.journal := by
  have updated (f : Session Flow → Session Flow) :
      (r.updateSession f).execution.history = lastPolicy (r.updateSession f).journal := by
    obtain ⟨sessions, e⟩ := r.updateSession_eq f
    rwa [e]
  cases h with
  | touched h =>
    cases h with
    | noticed hook => exact remembered.trans (lastPolicy_append rfl _).symm
    | absorbed c =>
      have silent := Entry.filterMap_ran (f := Entry.taken?) (fun _ => rfl) (fun _ _ => rfl) c.notes
      exact remembered.trans (lastPolicy_append (silent _ _) _).symm
    | taken t => exact (lastPolicy_taken r.journal t).symm
    | fired t => exact remembered.trans (lastPolicy_append rfl _).symm
    | exited => exact remembered.trans (lastPolicy_append rfl _).symm
    | session f => exact updated f
    | _ => exact remembered
  | entered state => exact updated _
  | begun => exact remembered.trans (lastPolicy_append rfl _).symm
  | left => exact remembered.trans (lastPolicy_append rfl _).symm
  | ended o => exact remembered

theorem Execution.resume_history {x : Execution} {event : Option Event} {external : External}
    {directory : Directory} (ok : (x.resume event external directory).result = .ok ()) :
    (x.resume event external directory).execution.history =
      lastPolicy (x.resume event external directory).journal := by
  cases active : x.isActive with
  | false => simp [resume, active, refuse] at ok
  | true =>
    obtain ⟨r, changes, e, journal⟩ := resume_changes event external directory active
    rw [e, journal]
    exact changes.preserve (fun h => h.history_eq) rfl

/-- The policies of the transitions that fired. -/
def Answer.policies (a : Answer) : List History :=
  (a.journal.filterMap Entry.fired?).map Transition.history

/-! ## What storing leaves -/

namespace Conversation

def numbers (snapshots : List (BitVec 32 × Snapshot)) : List (BitVec 32) := snapshots.map Prod.fst

/-- Those of the snapshots that the limit leaves beside a new one. -/
def beside (limit : Nat) (snapshots : List (BitVec 32 × Snapshot)) : List (BitVec 32 × Snapshot) :=
  if limit = 0 then snapshots else snapshots.drop (snapshots.length + 1 - limit)

theorem newest_concat (limit : Nat) (snapshots : List (BitVec 32 × Snapshot))
    (entry : BitVec 32 × Snapshot) :
    newest limit (snapshots ++ [entry]) = beside limit snapshots ++ [entry] := by
  unfold newest beside
  split
  · rfl
  · have : snapshots.length + 1 - limit ≤ snapshots.length := by omega
    simp [List.drop_append_of_le_length this]

theorem beside_subset (limit : Nat) (snapshots : List (BitVec 32 × Snapshot)) :
    beside limit snapshots ⊆ snapshots := by
  unfold beside
  split
  · exact List.Subset.refl snapshots
  · exact List.drop_subset _ snapshots

theorem beside_eq_nil_iff {limit : Nat} {snapshots : List (BitVec 32 × Snapshot)} :
    beside limit snapshots = [] ↔ limit = 1 ∨ snapshots = [] := by
  unfold beside
  split
  · rename_i zero
    simp [zero]
  · rename_i positive
    rw [List.drop_eq_nil_iff, ← List.length_eq_zero_iff]
    omega

theorem pruned_subset (history : History) (resumed : BitVec 32)
    (snapshots : List (BitVec 32 × Snapshot)) : pruned history resumed snapshots ⊆ snapshots := by
  cases history with
  | preserve => exact List.Subset.refl snapshots
  | discard => exact List.filter_sublist.subset
  | invalidate => exact List.nil_subset snapshots

theorem isSome_snapshot?_iff {c : Conversation} {number : BitVec 32} :
    (c.snapshot? number).isSome ↔ number ∈ numbers c.snapshots := by
  rw [snapshot?, Option.isSome_map, List.find?_isSome, numbers, List.mem_map]
  simp

theorem snapshots_extend (settings : StoreSettings) (now : Time) (resumed : BitVec 32)
    (x : Execution) (c : Conversation) :
    (c.extend settings now resumed x).snapshots =
      beside settings.maxSnapshots (pruned x.history resumed c.snapshots) ++
        [(c.next, x.snapshot)] := newest_concat ..

theorem mem_extend_iff {settings : StoreSettings} {now : Time} {resumed number : BitVec 32}
    {x : Execution} {c : Conversation} :
    number ∈ numbers (c.extend settings now resumed x).snapshots ↔
      number = c.next ∨
        number ∈ numbers (beside settings.maxSnapshots (pruned x.history resumed c.snapshots)) := by
  simp [snapshots_extend, numbers, or_comm]

theorem pruned_eq_nil_iff {history : History} {resumed : BitVec 32}
    {snapshots : List (BitVec 32 × Snapshot)} (some : snapshots ≠ []) :
    pruned history resumed snapshots = [] ↔
      history = .invalidate ∨ history = .discard ∧ ∀ entry ∈ snapshots, entry.1 = resumed := by
  cases history with
  | preserve => simp [pruned, some]
  | discard => simp [pruned, List.filter_eq_nil_iff]
  | invalidate => simp [pruned]

/-- The snapshot that a request resumed from goes by any policy but to preserve, or by the limit. -/
theorem resumed_not_mem_iff {limit : Nat} {history : History} {resumed : BitVec 32}
    {snapshots : List (BitVec 32 × Snapshot)} :
    resumed ∉ numbers (beside limit (pruned history resumed snapshots)) ↔
      history ≠ .preserve ∨ resumed ∉ numbers (beside limit snapshots) := by
  have gone (left : List (BitVec 32 × Snapshot)) (h : ∀ entry ∈ left, entry.1 ≠ resumed) :
      resumed ∉ numbers (beside limit left) := by
    intro found
    obtain ⟨entry, kept, same⟩ := List.mem_map.mp found
    exact h entry (beside_subset limit left kept) same
  cases history with
  | preserve => simp [pruned]
  | discard => simpa using gone (pruned .discard resumed snapshots) (by simp [pruned])
  | invalidate => simpa using gone (pruned .invalidate resumed snapshots) (by simp [pruned])

/-- All earlier snapshots go only if neither the policy nor the limit leaves any of them. -/
theorem none_mem_iff {limit : Nat} {history : History} {resumed : BitVec 32}
    {snapshots : List (BitVec 32 × Snapshot)} (some : snapshots ≠ []) :
    (∀ entry ∈ snapshots, entry.1 ∉ numbers (beside limit (pruned history resumed snapshots))) ↔
      history = .invalidate ∨ limit = 1 ∨
        history = .discard ∧ ∀ entry ∈ snapshots, entry.1 = resumed := by
  have subset := List.Subset.trans (beside_subset limit _) (pruned_subset history resumed snapshots)
  calc (∀ entry ∈ snapshots, entry.1 ∉ numbers (beside limit (pruned history resumed snapshots)))
      ↔ beside limit (pruned history resumed snapshots) = [] := by
        constructor
        · intro none
          refine List.eq_nil_iff_forall_not_mem.mpr fun entry kept => ?_
          exact none entry (subset kept) (List.mem_map_of_mem kept)
        · intro empty
          simp [empty, numbers]
    _ ↔ limit = 1 ∨ pruned history resumed snapshots = [] := beside_eq_nil_iff
    _ ↔ _ := by
        rw [pruned_eq_nil_iff some]
        exact or_left_comm

end Conversation

/-! ## Loading afterwards -/

/-- The snapshot of a key is found, at some time at least. -/
def Store.Reachable (s : Store) (key : Key) : Prop := ∃ now found, (s.find now key).1 = .ok found

theorem Conversation.isExpired_lastAccessed (settings : StoreSettings) (c : Conversation) :
    c.isExpired settings c.lastAccessed = false := by
  unfold isExpired
  split
  · rfl
  · simp only [Int.sub_self, decide_eq_false_iff_not, Int.not_lt]
    omega

theorem Store.reachable_iff {s : Store} {id : ConversationId} {number : BitVec 32}
    {c : Conversation} (found : s.conversation? id = some c) :
    s.Reachable ⟨id, number⟩ ↔ number ∈ Conversation.numbers c.snapshots := by
  rw [← Conversation.isSome_snapshot?_iff]
  constructor
  · rintro ⟨now, ⟨snapshot, scope⟩, held⟩
    obtain ⟨c', found', -, stored, -, -⟩ := find_ok (Prod.ext held rfl)
    rw [found] at found'
    cases found'
    simp [stored]
  · intro stored
    obtain ⟨snapshot, stored⟩ := Option.isSome_iff_exists.mp stored
    refine ⟨c.lastAccessed, (snapshot, c.scope), ?_⟩
    simp [find, checkLive, found, c.isExpired_lastAccessed, stored]

/-- The answer of the execution that a request on a key finds. -/
def Executor.answer? (e : Executor) (key : Key) (event : Option Event) (external : External)
    (s : Store) : Option Answer :=
  (s.conversation? key.conversation).bind fun c =>
    match c.execution? e.directory e.listeners key with
    | some (.ok x) => some (x.resume event external e.directory)
    | _ => none

/-- What the policies of fired transitions ask for: with a discarding one the snapshot that the
request resumed from is out of reach, with an invalidating one every snapshot from before it. -/
structure Honoured (policies : List History) (key : Key) (before : Conversation) (after : Store) :
    Prop where
  discard : .discard ∈ policies → ¬ after.Reachable key
  invalidate : .invalidate ∈ policies →
    ∀ entry ∈ before.snapshots, ¬ after.Reachable ⟨key.conversation, entry.1⟩

/-- When they get it. The last policy must be as strict as they are, unless the limit or the lack of
other snapshots does the rest; and the number of the new snapshot must not be an earlier one's. -/
structure Prevails (policies : List History) (last : History) (limit : Nat) (key : Key)
    (before : Conversation) : Prop where
  discard : .discard ∈ policies →
    key.snapshot ≠ before.next ∧
      (last ≠ .preserve ∨
        key.snapshot ∉ Conversation.numbers (Conversation.beside limit before.snapshots))
  invalidate : .invalidate ∈ policies →
    (∀ entry ∈ before.snapshots, entry.1 ≠ before.next) ∧
      (last = .invalidate ∨ limit = 1 ∨
        last = .discard ∧ ∀ entry ∈ before.snapshots, entry.1 = key.snapshot)

theorem Executor.reachable_resumeKey_iff {e : Executor} {clock : Clock} {fresh : ConversationId}
    {key : Key} {event : Option Event} {external : External} {s : Store} {result : ExecutionResult}
    (succeeded : (e.resumeKey clock fresh key event external s).result = .ok result)
    (stored : result.isPaused = true) :
    ∃ c a, s.conversation? key.conversation = some c ∧ e.answer? key event external s = some a ∧
      key.snapshot ∈ Conversation.numbers c.snapshots ∧
      ∀ number, (e.resumeKey clock fresh key event external s).store.Reachable
          ⟨key.conversation, number⟩ ↔
        number = c.next ∨ number ∈ Conversation.numbers (Conversation.beside s.settings.maxSnapshots
          (Conversation.pruned (lastPolicy a.journal) key.snapshot c.snapshots)) := by
  obtain ⟨c, x, found, restored, served, outcome⟩ := resumeKey_ok succeeded
  obtain ⟨snapshot, held, -⟩ := Option.map_eq_some_iff.mp restored
  refine ⟨c, x.resume event external e.directory, found, by simp [answer?, found, restored],
    Conversation.isSome_snapshot?_iff.mp (by simp [held]), fun number => ?_⟩
  rcases outcome with ⟨ended, -⟩ | ⟨-, extended⟩
  · simp [ExecutionResult.isPaused, ended] at stored
  · rw [Store.reachable_iff extended, Conversation.mem_extend_iff, Execution.resume_history served]

/-- **The last policy decides.** In a request that succeeds and is stored, the policies of all fired
transitions are honoured if and only if the policy of the last transition taken prevails. -/
theorem history_honoured_iff (e : Executor) (clock : Clock) (fresh : ConversationId) (text : String)
    (event : Option Event) (external : External) (s : Store) (result : ExecutionResult)
    (succeeded : (e.resume clock fresh text event external s).result = .ok result)
    (stored : result.isPaused = true) :
    ∃ key c a, Key.ofText text = .ok key ∧ s.conversation? key.conversation = some c ∧
      e.answer? key event external s = some a ∧
      (Honoured a.policies key c (e.resume clock fresh text event external s).store ↔
        Prevails a.policies (lastPolicy a.journal) s.settings.maxSnapshots key c) := by
  unfold Executor.resume at succeeded ⊢
  rcases parsed : Key.ofText text with _ | key <;> simp only [parsed] at succeeded ⊢
  · cases succeeded
  obtain ⟨c, a, found, answered, resumed, reachable⟩ :=
    Executor.reachable_resumeKey_iff succeeded stored
  refine ⟨key, c, a, rfl, found, answered, ?_⟩
  have some : c.snapshots ≠ [] := by
    rintro empty
    simp [empty, Conversation.numbers] at resumed
  -- Each demand is met or not for itself: what can be loaded is known by `reachable`.
  have resumedGone : ¬ (e.resumeKey clock fresh key event external s).store.Reachable key ↔
      key.snapshot ≠ c.next ∧ (lastPolicy a.journal ≠ .preserve ∨ key.snapshot ∉
        Conversation.numbers (Conversation.beside s.settings.maxSnapshots c.snapshots)) := by
    rw [← Conversation.resumed_not_mem_iff, ← not_or]
    exact not_congr (reachable key.snapshot)
  have allGone : (∀ entry ∈ c.snapshots,
        ¬ (e.resumeKey clock fresh key event external s).store.Reachable
          ⟨key.conversation, entry.1⟩) ↔
      (∀ entry ∈ c.snapshots, entry.1 ≠ c.next) ∧ (lastPolicy a.journal = .invalidate ∨
        s.settings.maxSnapshots = 1 ∨ lastPolicy a.journal = .discard ∧
          ∀ entry ∈ c.snapshots, entry.1 = key.snapshot) := by
    rw [← Conversation.none_mem_iff some, ← forall₂_and]
    simp only [reachable, not_or]
  constructor
  · intro honoured
    exact ⟨fun asked => resumedGone.mp (honoured.discard asked),
      fun asked => allGone.mp (honoured.invalidate asked)⟩
  · intro prevails
    exact ⟨fun asked => resumedGone.mpr (prevails.discard asked),
      fun asked => allGone.mpr (prevails.invalidate asked)⟩

/-! ## Two policies in one request -/

/-- A flow that an event leads through a decision, with a policy on either leg of the way. -/
def detour (first last : History) : Flow :=
  { Flow.blank "detour" .empty with
    start := some "here"
    states := [
      .waiting "here" [⟨.event "go", [], some (.fixed "fork"), first, .empty⟩],
      ⟨"fork", [], [], [], .empty, .decision [⟨.always, [], some (.fixed "there"), last, .empty⟩]⟩,
      .waiting "there" []] }

def departure (first last : History) : Store :=
  ((Executor.only (detour first last)).launch 0 1 "detour" .empty caller (.empty .default)).store

def go : Option Event := some (.named "go")

def passage (first last : History) : Reply :=
  (Executor.only (detour first last)).resume (Clock.still 5) 2 (Key.mk 1 1).text go caller
    (departure first last)

def passageAnswer (first last : History) : Option Answer :=
  (Executor.only (detour first last)).answer? ⟨1, 1⟩ go caller (departure first last)

/-- The second leg asks for what the first one does not, and gets it. -/
theorem later_invalidation_honoured :
    ∃ c, (departure .preserve .invalidate).conversation? 1 = some c ∧
      Honoured [.preserve, .invalidate] ⟨1, 1⟩ c (passage .preserve .invalidate).store := by
  have paused : (passage .preserve .invalidate).result.toOption.map ExecutionResult.isPaused =
      some true := by decide +kernel
  have fired : (passageAnswer .preserve .invalidate).map
      (fun a => (a.policies, lastPolicy a.journal)) =
        some ([.preserve, .invalidate], .invalidate) := by decide +kernel
  have first : ((departure .preserve .invalidate).conversation? 1).map
      (fun c => (Conversation.numbers c.snapshots, c.next)) = some ([1], 2) := by decide +kernel
  have one : Key.ofText (Key.mk 1 1).text = .ok ⟨1, 1⟩ := rfl
  rcases success : (passage .preserve .invalidate).result with _ | result
  · simp [success, Except.toOption] at paused
  simp [success, Except.toOption] at paused
  obtain ⟨key, c, a, parsed, found, answered, honoured_iff⟩ :=
    history_honoured_iff _ _ _ _ _ _ _ result success paused
  cases one.symm.trans parsed
  rw [found] at first
  rw [passageAnswer, answered] at fired
  simp at first fired
  rw [fired.1, fired.2] at honoured_iff
  refine ⟨c, found, honoured_iff.mpr ⟨by simp, fun _ => ⟨fun entry kept => ?_, .inl rfl⟩⟩⟩
  have : entry.1 ∈ Conversation.numbers c.snapshots := List.mem_map_of_mem kept
  rw [first.1, List.mem_singleton] at this
  simp [this, first.2]

/-- The first leg asks for the end of all snapshots and the second one does not mind them: the one
from before the request is found again. -/
theorem old_snapshot_outlives_invalidation :
    (passage .invalidate .preserve).result.toOption.map ExecutionResult.isPaused = some true ∧
      (passageAnswer .invalidate .preserve).map Answer.policies = some [.invalidate, .preserve] ∧
      ((departure .invalidate .preserve).conversation? 1).map
        (fun c => Conversation.numbers c.snapshots) = some [1] ∧
      ((passage .invalidate .preserve).store.get
        (Executor.only (detour .invalidate .preserve)).directory [] 6 ⟨1, 1⟩).1.isOk = true := by
  decide +kernel

end Parley
