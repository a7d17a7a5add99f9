import Parley.Proofs.Serial

/-!
# Parley.Proofs.Traffic

Requests at the same time. Each does the same things in the same order: it looks the lock up, takes
it, loads the execution, runs the flow, stores or removes what has come of it, and gives the lock
up, also after a failure. What is done in between by others is arbitrary (`Traffic.run`); if nothing
is, it is the request as a whole (`Traffic.run_alone`).

* `Stride`, `next_stride`: all that one request can do next, in a store that nothing expires in.
* `Guarded`: the lock of a conversation is held by the one request that is inside, and is as it was
  in the beginning while none is. Every step preserves it (`Guarded.after`), so no two requests are
  inside one conversation (`Guarded.alone`).
* `Traffic.Current`: what a request has loaded is what the store has.
-/

namespace Parley

/-- How far a request has come. -/
inductive Progress where
  | waiting
  | located
  /-- It holds the lock. -/
  | locked
  | loaded (x : Execution)
  /-- The flow has run and come to rest or to its end. -/
  | served (x : Execution)
  /-- All is done or has failed; only the lock is still held. -/
  | settled (result : Except ExecutorError ExecutionResult)
  | answered (result : Except ExecutorError ExecutionResult)

namespace Progress

/-- The lock has not been asked for. -/
def isEarly : Progress → Bool
  | waiting | located => true
  | _ => false

/-- The request is between taking the lock and giving it up. -/
def isInside : Progress → Bool
  | locked | loaded _ | served _ | settled _ => true
  | _ => false

/-- The execution has been stored, or removed as it has ended. -/
def isConcluded : Progress → Bool
  | settled (.ok _) | answered (.ok _) => true
  | _ => false

end Progress

/-- What a request does with a conversation, written down when it has succeeded. -/
inductive Act where
  | locked
  /-- An execution was loaded, with this conversation scope. -/
  | loaded (scope : Attributes)
  /-- An execution was stored, with this conversation scope. -/
  | stored (scope : Attributes)
  | removed

/-- The next step of a request, at a time. -/
def Executor.next (e : Executor) (d : Demand) (fresh : ConversationId) (now : Time) (p : Progress)
    (s : Store) : Progress × Store × Option Act :=
  match p with
  | .waiting =>
    match s.getLock now d.key with
    | (.error cause, s) => (.answered (.error (.repository cause)), s, none)
    | (.ok _, s) => (.located, s, none)
  | .located =>
    match s.acquire d.conversation d.owner with
    | (.error cause, s) => (.answered (.error (.repository cause)), s, none)
    | (.ok (), s) => (.locked, s, some .locked)
  | .locked =>
    match s.get e.directory e.listeners now d.key with
    | (.error cause, s) => (.settled (.error (.repository cause)), s, none)
    | (.ok x, s) => (.loaded x, s, some (.loaded x.conversation))
  | .loaded x =>
    let a := x.resume d.event d.external e.directory
    match a.result with
    | .error stop => (.settled (.error (.ofStop stop)), s, none)
    | .ok () => (.served a.execution, s, none)
  | .served x =>
    match finish now fresh x s with
    | (.error cause, s) => (.settled (.error cause), s, none)
    | (.ok result, s) =>
      (.settled (.ok result), s, some (if x.hasEnded then .removed else .stored x.conversation))
  | .settled result => (.answered result, s.dropGuard d.conversation d.owner, none)
  | .answered result => (.answered result, s, none)

/-- Requests under way, the store that they share, and what they have done with it so far. -/
structure Traffic (ι : Type) where
  store : Store
  progress : ι → Progress
  trace : List (ι × Act)

namespace Traffic

variable {ι : Type} [DecidableEq ι]

/-- All requests have arrived, and none has begun. -/
def arrival (s : Store) : Traffic ι := ⟨s, fun _ => .waiting, []⟩

/-- A request has come to a point, and has left the store as it is now. -/
def after (t : Traffic ι) (k : ι) (p : Progress) (s : Store) (act : Option Act) : Traffic ι where
  store := s
  progress i := if i = k then p else t.progress i
  trace := t.trace ++ (act.map fun act => (k, act)).toList

section

variable {t : Traffic ι} {k i : ι} {p : Progress} {s : Store} {act : Option Act}

@[simp] theorem progress_after_self : (t.after k p s act).progress k = p := by simp [after]

theorem progress_after_of_ne (h : i ≠ k) : (t.after k p s act).progress i = t.progress i := by
  simp [after, h]

@[simp] theorem trace_after_none : (t.after k p s none).trace = t.trace := List.append_nil t.trace

end

def advance (e : Executor) (demand : ι → Demand) (fresh : ι → ConversationId) (t : Traffic ι)
    (turn : ι × Time) : Traffic ι :=
  let (p, s, act) := e.next (demand turn.1) (fresh turn.1) turn.2 (t.progress turn.1) t.store
  t.after turn.1 p s act

/-- Requests take their steps in any order, each at some time. -/
def run (e : Executor) (demand : ι → Demand) (fresh : ι → ConversationId) (turns : List (ι × Time))
    (t : Traffic ι) : Traffic ι := turns.foldl (advance e demand fresh) t

/-- A request that nobody comes between does what it does as a whole. -/
theorem run_alone (e : Executor) (demand : ι → Demand) (fresh : ι → ConversationId) (s : Store)
    (i : ι) (clock : Clock) (taking running leaving : Time) :
    let t := (arrival s).run e demand fresh [(i, clock.lookup), (i, taking), (i, clock.load),
      (i, running), (i, clock.store), (i, leaving)]
    let reply := e.resumeKey clock (fresh i) (demand i).key (demand i).event (demand i).external s
    t.store = reply.store ∧ t.progress i = .answered reply.result := by
  dsimp only [run, List.foldl_cons, List.foldl_nil, arrival]
  unfold Executor.resumeKey
  rcases looked : s.getLock clock.lookup (demand i).key with ⟨_ | _, s₁⟩
  · simp [advance, after, Executor.next, looked]
  rcases taken : s₁.acquire (demand i).key.conversation (demand i).external.requestId with
    ⟨_ | _, s₂⟩
  · simp [advance, after, Executor.next, Demand.conversation, Demand.owner, looked, taken]
  unfold Executor.resumeLocked
  rcases loaded : s₂.get e.directory e.listeners clock.load (demand i).key with ⟨_ | x, s₃⟩
  · simp [advance, after, Executor.next, Demand.conversation, Demand.owner, looked, taken, loaded]
  unfold Executor.conclude
  rcases served : (x.resume (demand i).event (demand i).external e.directory).result with _ | _
  · simp [advance, after, Executor.next, Demand.conversation, Demand.owner, looked, taken, loaded,
      served]
  rcases finished : Executor.finish clock.store (fresh i)
    (x.resume (demand i).event (demand i).external e.directory).execution s₃ with ⟨_ | _, s₄⟩ <;>
  simp [advance, after, Executor.next, Demand.conversation, Demand.owner, looked, taken, loaded,
    served, finished]

end Traffic

/-! ## What a step can be -/

/-- What a request holds is still what the record of its conversation says. -/
def Progress.Current (e : Executor) (d : Demand) (record : Option Conversation) : Progress → Prop
  | .loaded x => ∃ r, record = some r ∧ r.execution? e.directory e.listeners d.key = some (.ok x)
  | .served y => ∃ r x, record = some r ∧
      r.execution? e.directory e.listeners d.key = some (.ok x) ∧
      (x.resume d.event d.external e.directory).result = .ok () ∧
      y = (x.resume d.event d.external e.directory).execution
  | _ => True

theorem Progress.current_of_outside {e : Executor} {d : Demand} {record : Option Conversation}
    {p : Progress} (outside : p.isInside = false) : p.Current e d record := by
  cases p with
  | loaded x => cases outside
  | served y => cases outside
  | _ => trivial

inductive Act.Records : Act → Option Conversation → Prop where
  | removed : Records .removed none
  | stored (r : Conversation) : Records (.stored r.scope) (some r)

/-- The steps that a request can take: from one point to another, what becomes of the store, and
what is written down. -/
inductive Stride (e : Executor) (d : Demand) (s : Store) :
    Progress → Progress → Store → Option Act → Prop where
  | outside {p p' : Progress} (before : p.isInside = false) (after : p'.isInside = false)
      (concluded : p'.isConcluded = p.isConcluded) (early : p'.isEarly = true → p.isEarly = true) :
      Stride e d s p p' s none
  | enter {l : Lock} (acquired : (s.lock d.conversation).acquire d.owner = .ok l) :
      Stride e d s .located .locked (s.setLock d.conversation l) (some .locked)
  | fail {p : Progress} {s' : Store} {cause : ExecutorError} (inside : p.isInside = true)
      (unconcluded : p.isConcluded = false) (spared : s.Spared none s') :
      Stride e d s p (.settled (.error cause)) s' none
  | load {s' : Store} {r : Conversation} {x : Execution} (spared : s.Spared none s')
      (found : s.record? d.conversation = some r)
      (restored : r.execution? e.directory e.listeners d.key = some (.ok x)) :
      Stride e d s .locked (.loaded x) s' (some (.loaded r.scope))
  | serve {x : Execution} (served : (x.resume d.event d.external e.directory).result = .ok ()) :
      Stride e d s (.loaded x) (.served (x.resume d.event d.external e.directory).execution) s none
  | conclude {s' : Store} {y : Execution} {result : ExecutionResult} {act : Act}
      (updated : s.Updated d.conversation (e.effect s.settings d (s.record? d.conversation)) s')
      (records : act.Records (e.effect s.settings d (s.record? d.conversation))) :
      Stride e d s (.served y) (.settled (.ok result)) s' (some act)
  | leave {result : Except ExecutorError ExecutionResult} :
      Stride e d s (.settled result) (.answered result) (s.dropGuard d.conversation d.owner) none

namespace Executor

theorem next_stride (e : Executor) (d : Demand) (fresh : ConversationId) (now : Time) {p : Progress}
    {s : Store} (lasting : s.Lasting) (current : p.Current e d (s.record? d.conversation)) :
    Stride e d s p (e.next d fresh now p s).1 (e.next d fresh now p s).2.1
      (e.next d fresh now p s).2.2 := by
  cases p with
  | waiting =>
    have same := s.getLock_of_lasting lasting now d.key
    rcases looked : s.getLock now d.key with ⟨_ | _, s'⟩ <;> rw [looked] at same <;> cases same <;>
      simp only [next, looked] <;> exact .outside rfl rfl rfl fun _ => rfl
  | located =>
    rcases Store.acquire_cases d.conversation d.owner s with ⟨l, acquired, e⟩ | ⟨_, -, -, e⟩ <;>
      simp only [next, e]
    · exact .enter acquired
    · exact .outside rfl rfl rfl fun _ => rfl
  | locked =>
    have spared := s.get_spared lasting e.directory e.listeners now d.key
    have loadable := s.loaded_iff lasting e.directory e.listeners now d.key
    rcases loaded : s.get e.directory e.listeners now d.key with ⟨_ | x, s'⟩ <;>
      rw [loaded] at spared loadable <;> simp only [next, loaded]
    · exact .fail rfl rfl spared
    · obtain ⟨r, found, restored⟩ := (loadable x).mp rfl
      rw [(Conversation.execution?_ok restored).2]
      exact .load spared found restored
  | loaded x =>
    simp only [next]
    split
    · exact .fail rfl rfl (.refl s)
    · exact .serve ‹_›
  | served y =>
    obtain ⟨r, x, found, restored, served, rfl⟩ := current
    obtain ⟨result, s', finished, updated⟩ := finish_of_served now fresh found restored served
    simp only [next, finished]
    rw [← found] at updated
    refine .conclude updated ?_
    rw [found, effect_of_served restored served]
    split
    · exact .removed
    · exact .stored (r.extend s.settings 0 d.key.snapshot
        (x.resume d.event d.external e.directory).execution)
  | settled result => exact .leave
  | answered result => exact .outside rfl rfl rfl fun early => early

end Executor

/-! ## The lock and who is inside -/

/-- For locks and for who is inside, only two steps count. -/
theorem Stride.locks {e : Executor} {d : Demand} {s s' : Store} {p p' : Progress} {act : Option Act}
    (h : Stride e d s p p' s' act) :
    (p'.isInside = p.isInside ∧ ∀ id, s'.lock id = s.lock id) ∨
      (p.isInside = false ∧ p'.isInside = true ∧
        ∃ l, (s.lock d.conversation).acquire d.owner = .ok l ∧ s' = s.setLock d.conversation l) ∨
      (p.isInside = true ∧ p'.isInside = false ∧ s' = s.dropGuard d.conversation d.owner) := by
  cases h with
  | outside before after => exact .inl ⟨after.trans before.symm, fun _ => rfl⟩
  | enter acquired => exact .inr (.inl ⟨rfl, rfl, _, acquired, rfl⟩)
  | fail inside _ spared => exact .inl ⟨inside.symm, spared.lock⟩
  | load spared => exact .inl ⟨rfl, spared.lock⟩
  | serve => exact .inl ⟨rfl, fun _ => rfl⟩
  | conclude updated => exact .inl ⟨rfl, updated.lock⟩
  | leave => exact .inr (.inr ⟨rfl, rfl, rfl⟩)

theorem Stride.settings {e : Executor} {d : Demand} {s s' : Store} {p p' : Progress}
    {act : Option Act} (h : Stride e d s p p' s' act) : s'.settings = s.settings := by
  cases h with
  | fail _ _ spared => exact spared.settings
  | load spared => exact spared.settings
  | conclude updated => exact updated.settings
  | leave => exact Store.settings_dropGuard s d.conversation d.owner
  | _ => rfl

/-- The lock of a conversation is as the request inside has taken it from what it was at first, and
is still what it was at first if no request is inside. -/
structure Guarded {ι : Type} (demand : ι → Demand) (s₀ : Store) (t : Traffic ι) : Prop where
  settings : t.store.settings = s₀.settings
  held : ∀ i, (t.progress i).isInside = true →
    (s₀.lock (demand i).conversation).acquire (demand i).owner =
      .ok (t.store.lock (demand i).conversation)
  free : ∀ id, (∀ i, (t.progress i).isInside = true → (demand i).conversation ≠ id) →
    t.store.lock id = s₀.lock id

namespace Guarded

variable {ι : Type} {demand : ι → Demand} {s₀ : Store} {t : Traffic ι}

theorem arrival : Guarded demand s₀ (Traffic.arrival s₀) where
  settings := rfl
  held i inside := by cases inside
  free _ _ := rfl

theorem owner (g : Guarded demand s₀ t) {i : ι} (inside : (t.progress i).isInside = true) :
    (t.store.lock (demand i).conversation).owner = some (demand i).owner :=
  Lock.owner_of_acquire (g.held i inside)

theorem alone (g : Guarded demand s₀ t) (distinct : (fun i => (demand i).owner).Injective) {i j : ι}
    (first : (t.progress i).isInside = true) (second : (t.progress j).isInside = true)
    (same : (demand i).conversation = (demand j).conversation) : i = j := by
  have left := g.owner first
  rw [same, g.owner second] at left
  exact distinct (Option.some.inj left).symm

/-- Nobody is inside while a request that is not can take the lock. -/
theorem vacant (g : Guarded demand s₀ t) (distinct : (fun i => (demand i).owner).Injective) {k : ι}
    {l : Lock} (outside : (t.progress k).isInside = false)
    (acquired : (t.store.lock (demand k).conversation).acquire (demand k).owner = .ok l) (i : ι)
    (inside : (t.progress i).isInside = true) :
    (demand i).conversation ≠ (demand k).conversation := by
  intro same
  have held := g.owner inside
  rw [same] at held
  by_cases mine : (demand i).owner = (demand k).owner
  · rw [distinct mine, outside] at inside
    cases inside
  · rw [Lock.acquire_refused held mine] at acquired
    cases acquired

variable [DecidableEq ι]

theorem after (g : Guarded demand s₀ t) (distinct : (fun i => (demand i).owner).Injective)
    {e : Executor} {k : ι} {p : Progress} {s : Store} {act : Option Act}
    (stride : Stride e (demand k) t.store (t.progress k) p s act) :
    Guarded demand s₀ (t.after k p s act) := by
  refine ⟨stride.settings.trans g.settings, fun i inside => ?_, fun id empty => ?_⟩
  -- One request is inside after the step: `i` itself has moved, or it was inside before.
  · rcases stride.locks with ⟨still, locks⟩ | ⟨out, -, l, acquired, rfl⟩ | ⟨was, out, rfl⟩
    · have before : (t.progress i).isInside = true := by
        by_cases mine : i = k
        · rw [mine, Traffic.progress_after_self, still] at inside
          rwa [mine]
        · rwa [Traffic.progress_after_of_ne mine] at inside
      exact (g.held i before).trans (congrArg Except.ok (locks _).symm)
    · have vacant := g.vacant distinct out acquired
      by_cases mine : i = k
      · subst mine
        rw [← g.free _ vacant, acquired]
        exact congrArg Except.ok Store.lock_setLock_self.symm
      · rw [Traffic.progress_after_of_ne mine] at inside
        rw [g.held i inside]
        exact congrArg Except.ok (Store.lock_setLock_of_ne (vacant i inside)).symm
    · by_cases mine : i = k
      · rw [mine, Traffic.progress_after_self, out] at inside
        cases inside
      · rw [Traffic.progress_after_of_ne mine] at inside
        have ne : (demand i).conversation ≠ (demand k).conversation :=
          fun same => mine (g.alone distinct inside was same)
        rw [g.held i inside]
        exact congrArg Except.ok (Store.lock_dropGuard_of_ne ne).symm
  -- No request is inside after the step: the one that moved was not, or has just left.
  · have others : ∀ i, i ≠ k → (t.progress i).isInside = true → (demand i).conversation ≠ id := by
      intro i other inside
      exact empty i (by rwa [Traffic.progress_after_of_ne other])
    have before (mine : (t.progress k).isInside = true → (demand k).conversation ≠ id) :
        t.store.lock id = s₀.lock id := by
      refine g.free id fun i inside => ?_
      by_cases e : i = k
      · rw [e] at inside ⊢
        exact mine inside
      · exact others i e inside
    have mine : p.isInside = true → (demand k).conversation ≠ id := fun inside =>
      empty k (by rwa [Traffic.progress_after_self])
    rcases stride.locks with ⟨still, locks⟩ | ⟨out, inside, l, -, rfl⟩ | ⟨was, -, rfl⟩
    · rw [still] at mine
      exact (locks id).trans (before mine)
    · refine (Store.lock_setLock_of_ne (mine inside).symm).trans (before fun was => ?_)
      rw [out] at was
      cases was
    · by_cases e : id = (demand k).conversation
      · rw [e]
        exact Store.lock_dropGuard_self (Lock.acquire_release (g.held k was))
      · exact (Store.lock_dropGuard_of_ne e).trans (before fun _ => Ne.symm e)

end Guarded

/-! ## What requests hold -/

namespace Stride

variable {e : Executor} {d : Demand} {s s' : Store} {p p' : Progress} {act : Option Act}
  {id : ConversationId}

theorem record_of_ne (h : Stride e d s p p' s' act) (ne : d.conversation ≠ id) :
    s'.record? id = s.record? id := by
  cases h with
  | fail _ _ spared => exact spared.record_eq
  | load spared => exact spared.record_eq
  | conclude updated => rw [updated.record, if_neg ne]
  | leave => exact Store.record?_dropGuard
  | _ => rfl

theorem record_of_outside (h : Stride e d s p p' s' act) (outside : p.isInside = false) :
    s'.record? id = s.record? id := by
  cases h with
  | outside => rfl
  | enter => rfl
  | fail inside =>
    rw [inside] at outside
    cases outside
  | _ => cases outside

theorem current (h : Stride e d s p p' s' act) (before : p.Current e d (s.record? d.conversation)) :
    p'.Current e d (s'.record? d.conversation) := by
  cases h with
  | outside _ after => exact Progress.current_of_outside after
  | load spared found restored => exact ⟨_, spared.record_eq.trans found, restored⟩
  | serve served =>
    obtain ⟨r, found, restored⟩ := before
    exact ⟨r, _, found, restored, served, rfl⟩
  | _ => trivial

end Stride

def Traffic.Current {ι : Type} (e : Executor) (demand : ι → Demand) (t : Traffic ι) : Prop :=
  ∀ i, (t.progress i).Current e (demand i) (t.store.record? (demand i).conversation)

theorem Traffic.Current.after {ι : Type} [DecidableEq ι] {e : Executor} {demand : ι → Demand}
    {s₀ : Store} {t : Traffic ι} {k : ι} {p : Progress} {s : Store} {act : Option Act}
    (current : t.Current e demand) (g : Guarded demand s₀ t)
    (distinct : (fun i => (demand i).owner).Injective)
    (stride : Stride e (demand k) t.store (t.progress k) p s act) :
    (t.after k p s act).Current e demand := by
  intro i
  by_cases mine : i = k
  · subst mine
    rw [progress_after_self]
    exact stride.current (current i)
  rw [progress_after_of_ne mine]
  cases there : (t.progress i).isInside with
  | false => exact Progress.current_of_outside there
  | true =>
    have kept : s.record? (demand i).conversation = t.store.record? (demand i).conversation := by
      cases moved : (t.progress k).isInside with
      | false => exact stride.record_of_outside moved
      | true => exact stride.record_of_ne fun same => mine (g.alone distinct there moved same.symm)
    exact kept ▸ current i

end Parley
