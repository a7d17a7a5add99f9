import Parley.Proofs.Fate
import Parley.Proofs.History
import Parley.Proofs.Rendering

/-!
# Parley.Proofs.Pausing

Executions between requests, where the flows come out of models. What is stored waits in a view
state, over sessions that wait for subflows, and it is found again where it was left, as long as the
flows stay what they are. So every request leads to another such place, or to the end of the
execution, or to an error that is laid to a flow.

* `Snapshot.Waits`: a snapshot of an execution that waits. `Execution.stance_restore`: the execution
  waits where it did when it comes back.
* `Store.Waits`: all that is stored waits. Visits keep it so (`Visit.reply_waits`).
* `pauses_in_view`: whatever visits there were, a reply that pauses shows the view of the state in
  which the stored execution is, and no reply is that the execution is in an illegal state.
-/

namespace Parley

/-- The directory has this flow under its id, and its handlers name states to enter. -/
def Directory.Knows (directory : Directory) (f : Flow) : Prop :=
  directory f.id = .ok f ∧ f.Routed

theorem Directory.OfModels.knows {directory : Directory} (models : directory.OfModels) :
    ∀ id f, directory id = .ok f → directory.Knows f := by
  intro id f had
  obtain ⟨named, routed⟩ := (models id f had).routed
  exact ⟨named ▸ had, routed⟩

theorem Directory.Knows.eq {directory : Directory} {f g : Flow} (hf : directory.Knows f)
    (hg : directory.Knows g) (same : f.id = g.id) : f = g := by
  have had : directory g.id = .ok f := same ▸ hf.1
  exact Except.ok.inj (had.symm.trans hg.1)

/-! ## Snapshots -/

/-- A place as a snapshot has it. -/
def Place.written (p : Place) : String × Option String := (p.flow.id, p.state)

/-- The places of the sessions, innermost first. -/
def Snapshot.places (s : Snapshot) : List (String × Option String) :=
  s.sessions.map fun t => (t.flow, t.state)

/-- Numbers may be others in what is read back, places are the same. -/
theorem Snapshot.places_reread (s : Snapshot) : s.reread.places = s.places := by
  simp [places, reread, rereadSession, Function.comp_def]

/-- The snapshot is of an execution that waits in a view state. -/
structure Snapshot.Waits (directory : Directory) (s : Snapshot) : Prop where
  status : s.status = .active
  places : ∃ p rest part, s.places = (p :: rest).map Place.written ∧
    p.Rests directory.Knows rest part

theorem Snapshot.Waits.reread {directory : Directory} {s : Snapshot} (h : s.Waits directory) :
    s.reread.Waits directory :=
  ⟨h.status, s.places_reread ▸ h.places⟩

namespace Execution

variable {directory : Directory} {x : Execution}

theorem places_snapshot {places : List Place} (running : x.stance = .running places) :
    x.snapshot.places = places.map Place.written := by
  rw [← places_of_running running]
  simp [Snapshot.places, snapshot, Session.map, Session.place, Place.written, Function.comp_def]

theorem snapshot_waits {p : Place} {rest : List Place} {part : ViewPart}
    (running : x.stance = .running (p :: rest)) (rests : p.Rests directory.Knows rest part) :
    x.snapshot.Waits directory :=
  ⟨status_of_running running, p, rest, part, places_snapshot running, rests⟩

theorem place_restoreSession {root : Flow} {s : Session String} {p : Place}
    {restored : Session Flow} (rooted : directory.Knows root) (known : directory.Knows p.flow)
    (written : p.written = (s.flow, s.state))
    (ok : restoreSession directory root s = .ok restored) : restored.place = p := by
  have flow : p.flow.id = s.flow := congrArg Prod.fst written
  have state : p.state = s.state := congrArg Prod.snd written
  unfold restoreSession at ok
  split at ok
  · rename_i same
    cases ok
    have ofRoot : p.flow = root := known.eq rooted (flow.trans same)
    rw [Session.place, Session.map, ← state, ← ofRoot]
  · rw [← flow, known.1] at ok
    cases ok
    rw [Session.place, Session.map, ← state]

/-- Sessions come back to where they were, as every flow is still under its id. -/
theorem places_restoreSessions {root : Flow} {stored : List (Session String)}
    {sessions : List (Session Flow)} {places : List Place} (rooted : directory.Knows root)
    (known : ∀ p ∈ places, directory.Knows p.flow)
    (written : stored.map (fun t => (t.flow, t.state)) = places.map Place.written)
    (ok : restoreSessions directory root stored = .ok sessions) :
    sessions.map Session.place = places := by
  induction stored generalizing sessions places with
  | nil =>
    cases ok
    exact (List.map_eq_nil_iff.mp written.symm).symm
  | cons s outer ih =>
    obtain ⟨p, rest, rfl, here, there⟩ := List.map_eq_cons_iff.mp written.symm
    rw [restoreSessions] at ok
    split at ok
    · cases ok
    · rename_i below restored
      split at ok
      · cases ok
      · rename_i inner restoredHere
        cases ok
        have below_known : ∀ q ∈ rest, directory.Knows q.flow := fun q mem =>
          known q (List.mem_cons_of_mem _ mem)
        have place : inner.place = p :=
          place_restoreSession rooted (known p List.mem_cons_self) here restoredHere
        rw [List.map_cons, place, ih below_known there.symm restored]

theorem stance_restore {listeners : List Listener} {s : Snapshot} {scope : Attributes} {key : Key}
    (lookup : ∀ id f, directory id = .ok f → directory.Knows f) (waits : s.Waits directory)
    (ok : restore directory listeners s scope key = .ok x) :
    ∃ p rest part, x.stance = .running (p :: rest) ∧ p.Rests directory.Knows rest part := by
  obtain ⟨root, sessions, had, restored, rfl⟩ := restore_eq ok
  obtain ⟨p, rest, part, written, rests⟩ := waits.places
  have all_known : ∀ q ∈ p :: rest, directory.Knows q.flow := by
    intro q mem
    rcases List.mem_cons.mp mem with rfl | mem
    · exact rests.known
    · exact (rests.waiting q mem).2
  have places : sessions.map Session.place = p :: rest :=
    places_restoreSessions (lookup _ root had) all_known written restored
  refine ⟨p, rest, part, ?_, rests⟩
  simp [stance, Stance.running, create, waits.status, places]

end Execution

/-! ## What is stored -/

/-- All snapshots in the store are of executions that wait. -/
structure Store.Waits (directory : Directory) (s : Store) : Prop where
  proper : s.Proper
  snapshots : ∀ id c, s.record? id = some c → ∀ entry ∈ c.snapshots, entry.2.Waits directory

/-- An execution that the operation stores, if it does, waits. -/
def Operation.StoresWaiting (directory : Directory) (op : Operation) : Prop :=
  ∀ now fresh x, op = .put now fresh x → x.snapshot.Waits directory

theorem Operation.of_stored? {op : Operation} {s : Store} {key : Key} {x : Execution}
    (h : op.stored? s = some (key, x)) : ∃ now fresh, op = .put now fresh x := by
  cases op with
  | put now fresh y =>
    obtain ⟨_, -, same⟩ := Option.map_eq_some_iff.mp h
    cases same
    exact ⟨now, fresh, rfl⟩
  | _ => cases h

theorem Operation.Idle.storesWaiting {directory : Directory} {op : Operation} (h : op.Idle) :
    op.StoresWaiting directory := by
  rintro now fresh x rfl
  cases h

namespace Store.Waits

variable {directory : Directory} {s : Store}

theorem empty (settings : StoreSettings) : (Store.empty settings).Waits directory :=
  ⟨Store.empty_proper settings, nofun⟩

theorem run {op : Operation} (h : s.Waits directory) (stores : op.StoresWaiting directory) :
    (op.run s).Waits directory := by
  refine ⟨h.proper.run op, fun id c found => ?_⟩
  have before := h.snapshots id
  have fate := Store.run_fate h.proper op id
  rw [found] at fate
  generalize s.record? id = r at before fate
  cases fate with
  | kept elsewhere => exact before c rfl
  | @extended r x number given here =>
    obtain ⟨now, fresh, rfl⟩ := Operation.of_stored? here
    have new : x.snapshot.Waits directory := stores now fresh x rfl
    intro entry mem
    rw [Conversation.snapshots_extend] at mem
    rcases List.mem_append.mp mem with left | last
    · have kept := Conversation.pruned_subset _ _ _ (Conversation.beside_subset _ _ left)
      exact before r rfl entry kept
    · cases List.mem_singleton.mp last
      exact new
  | @begun _ x now new here =>
    obtain ⟨now, fresh, rfl⟩ := Operation.of_stored? here
    have new : x.snapshot.Waits directory := stores now fresh x rfl
    intro entry mem
    cases List.mem_singleton.mp mem
    exact new

theorem runAll {ops : List Operation} (h : s.Waits directory)
    (stores : ∀ op ∈ ops, op.StoresWaiting directory) :
    (Parley.runAll ops s).Waits directory := by
  induction ops generalizing s with
  | nil => exact h
  | cons op rest ih =>
    exact ih (h.run (stores op List.mem_cons_self)) fun op mem =>
      stores op (List.mem_cons_of_mem _ mem)

/-- What is found in the store waits. -/
theorem stance {listeners : List Listener} {c : Conversation} {key : Key} {x : Execution}
    (lookup : ∀ id f, directory id = .ok f → directory.Knows f) (h : s.Waits directory)
    (found : s.conversation? key.conversation = some c)
    (restored : c.execution? directory listeners key = some (.ok x)) :
    ∃ p rest part, x.stance = .running (p :: rest) ∧ p.Rests directory.Knows rest part := by
  obtain ⟨snapshot, held, revived⟩ := Option.map_eq_some_iff.mp restored
  obtain ⟨entry, kept, rfl⟩ := Option.map_eq_some_iff.mp held
  have record : s.record? key.conversation = some c.timeless := by simp [Store.record?, found]
  have waits : entry.2.Waits directory :=
    h.snapshots _ _ record entry (List.mem_of_find?_eq_some kept)
  exact Execution.stance_restore lookup waits.reread (Execution.revive_ok revived)

end Store.Waits

/-! ## Replies -/

/-- A stored execution is the newest snapshot of its conversation. -/
theorem Store.put_newest {s s' : Store} {now : Time} {fresh : ConversationId} {x : Execution}
    {key : Key} (h : s.put now fresh x = (.ok key, s')) :
    ∃ c, s'.conversation? key.conversation = some c ∧
      c.snapshots.getLast? = some (key.snapshot, x.snapshot) := by
  unfold Store.put at h
  split at h
  · cases h
    exact ⟨.begin now x, by simp [Store.insert], rfl⟩
  · split at h
    · cases h
    · cases h
      refine ⟨_, Store.conversation?_write_self, ?_⟩
      rw [Conversation.snapshots_extend]
      exact List.getLast?_concat ..

/-- What a reply that pauses shows. The innermost session of the execution that is now stored under
the key is in the state that the reply tells, which is a view state of its flow; and the reply has
the view that was made there for the request. -/
structure Displays (directory : Directory) (external : External) (a : Answer) (s : Store)
    (key : Key) (flow state : String) (view : Option RenderedView) : Prop where
  stored : ∃ c snapshot, s.conversation? key.conversation = some c ∧
    c.snapshots.getLast? = some (key.snapshot, snapshot) ∧
    snapshot.places.head? = some (flow, some state)
  shown : ∃ f here part transitions made, directory flow = .ok f ∧ f.state? state = some here ∧
    here.kind = .view part transitions ∧ view = some made ∧ a.Presents external part made

/-- A reply is not that the state of the execution is illegal, and if it pauses it shows what it
should. -/
structure Reply.Proper (directory : Directory) (external : External) (a : Option Answer)
    (r : Reply) : Prop where
  legal : ∀ reason, r.result ≠ .error (.execution (.illegalState reason))
  displays : ∀ key flow state view redirect,
    r.result = .ok (.paused key flow state view redirect) →
      ∃ answer, a = some answer ∧ Displays directory external answer r.store key flow state view

theorem Reply.Proper.of_fault {directory : Directory} {external : External} {a : Option Answer}
    {r : Reply} {e : ExecutorError} (failed : r.result = .error e)
    (other : ∀ reason, e ≠ .execution (.illegalState reason)) : r.Proper directory external a := by
  refine ⟨fun reason same => ?_, fun key flow state view redirect same => ?_⟩
  · rw [failed] at same
    exact other reason (Except.error.inj same)
  · rw [failed] at same
    cases same

theorem Reply.Proper.dropGuard {directory : Directory} {external : External} {a : Option Answer}
    {r : Reply} (h : r.Proper directory external a) (id : ConversationId) (owner : String) :
    { r with store := r.store.dropGuard id owner }.Proper directory external a := by
  refine ⟨h.legal, fun key flow state view redirect paused => ?_⟩
  obtain ⟨answer, same, ⟨c, snapshot, found, stored⟩, shown⟩ := h.displays _ _ _ _ _ paused
  exact ⟨answer, same, ⟨c, snapshot, Store.conversation?_dropGuard.trans found, stored⟩, shown⟩

namespace Executor

variable {x : Execution} (now : Time) (fresh : ConversationId) (s : Store)

theorem finish_of_ended {o : Outcome} (ended : x.stance = .ended o) :
    (finish now fresh x s).1 = .ok (.ended x.flow.id o) ∨
      ∃ cause, (finish now fresh x s).1 = .error (.repository cause) := by
  unfold finish
  rw [if_pos (Execution.hasEnded_of_ended ended)]
  rcases s.remove x with ⟨cause | _, s'⟩
  · exact .inr ⟨cause, rfl⟩
  · simp [Execution.outcome_of_ended ended]

theorem finish_of_running {p : Place} {rest : List Place}
    (running : x.stance = .running (p :: rest)) :
    (∃ cause, (finish now fresh x s).1 = .error (.repository cause)) ∨
      ∃ key s', s.put now fresh x = (.ok key, s') ∧ finish now fresh x s =
        (.ok (.paused key p.flow.id (p.state.getD "") x.view x.redirectOnPause), s') := by
  obtain ⟨t, outer, e, rfl, -⟩ := List.map_eq_cons_iff.mp (Execution.places_of_running running)
  have flow : x.currentFlow = t.place.flow := by
    simp [Execution.currentFlow, Execution.session?, e, Session.place]
  have state : x.state? = t.place.state := by
    simp [Execution.state?, Execution.session?, e, Session.place]
  unfold finish
  rw [if_neg (by simp [Execution.hasEnded_of_running running])]
  rcases put : s.put now fresh x with ⟨cause | key, s'⟩
  · exact .inl ⟨cause, rfl⟩
  · exact .inr ⟨key, s', rfl, by rw [flow, state]⟩

end Executor

namespace Answer

variable {directory : Directory} {external : External} {a : Answer} {now : Time}
  {fresh : ConversationId} {s s' : Store}

theorem displays_of_put {p : Place} {rest : List Place} {part : ViewPart} {view : RenderedView}
    {key : Key} (running : a.execution.stance = .running (p :: rest))
    (rests : p.Rests directory.Knows rest part) (shown : a.execution.view = some view)
    (presents : a.Presents external part view)
    (put : s.put now fresh a.execution = (.ok key, s')) :
    Displays directory external a s' key p.flow.id (p.state.getD "") a.execution.view := by
  obtain ⟨here, transitions, found, kind⟩ := rests.inView
  obtain ⟨found, placed⟩ := Place.of_state? found
  have state : p.state = some here.id := congrArg Place.state placed
  obtain ⟨c, kept, newest⟩ := Store.put_newest put
  rw [state]
  refine ⟨⟨c, a.execution.snapshot, kept, newest, ?_⟩,
    ⟨p.flow, here, part, transitions, view, rests.known.1, found, kind, shown, presents⟩⟩
  simp [Execution.places_snapshot running, Place.written, state]

theorem Proper.storesWaiting {op : Operation} (h : a.Proper directory.Knows external)
    (mem : op ∈ Executor.concluding now fresh a) : op.StoresWaiting directory := by
  rcases Executor.mem_concluding mem with idle | ⟨came, waits, rfl⟩
  · exact idle.storesWaiting
  · rintro _ _ _ ⟨⟩
    rw [Answer.Proper, came] at h
    rcases h with ⟨o, ended⟩ | ⟨p, rest, part, view, running, rests, -⟩
    · simp [Execution.hasEnded_of_ended ended] at waits
    · exact Execution.snapshot_waits running rests

theorem Proper.conclude (h : a.Proper directory.Knows external) (now : Time)
    (fresh : ConversationId) (s : Store) :
    (Executor.conclude now fresh a s).Proper directory external (some a) := by
  unfold Answer.Proper at h
  rcases came : a.result with stop | done <;> rw [came] at h
  · have failed : (Executor.conclude now fresh a s).result = .error (.ofStop stop) := by
      rw [Executor.conclude, came]
    refine .of_fault failed fun reason same => ?_
    cases stop with
    | endless => cases same
    | raised e =>
      cases same
      exact nomatch h _ rfl
  · have result : (Executor.conclude now fresh a s).result =
        (Executor.finish now fresh a.execution s).1 := by rw [Executor.conclude, came]
    have store : (Executor.conclude now fresh a s).store =
        (Executor.finish now fresh a.execution s).2 := by rw [Executor.conclude, came]
    rcases h with ⟨o, ended⟩ | ⟨p, rest, part, view, running, rests, shown, presents⟩
    · rcases Executor.finish_of_ended now fresh s ended with told | ⟨cause, failed⟩
      · refine ⟨?_, ?_⟩ <;> rw [result, told] <;> exact nofun
      · exact .of_fault (result.trans failed) nofun
    · rcases Executor.finish_of_running now fresh s running with
        ⟨cause, failed⟩ | ⟨key, s', put, finished⟩
      · exact .of_fault (result.trans failed) nofun
      rw [finished] at result store
      refine ⟨fun reason same => ?_, fun key' flow state view' redirect same => ?_⟩
      · rw [result] at same
        cases same
      · rw [result] at same
        cases same
        rw [store]
        exact ⟨a, rfl, displays_of_put running rests shown presents put⟩

end Answer

/-! ## Visits -/

namespace Visit

variable {e : Executor} {s : Store}

def external : Visit → External
  | launch _ _ _ _ external => external
  | resume _ _ _ _ external => external

/-- The answer of the execution that the visit begins or finds. -/
def answer? (e : Executor) (s : Store) : Visit → Option Answer
  | launch _ _ flow input external =>
    match e.directory flow with
    | .ok f => some ((Execution.create f e.listeners).start input external e.directory)
    | .error _ => none
  | resume _ _ text event external =>
    match Key.ofText text with
    | .ok key => e.answer? key event external s
    | .error _ => none

/-- The answers of executions that come out of the store are as they should be. -/
theorem resume_proper (models : e.directory.OfModels) (waits : s.Waits e.directory)
    {key : Key} {c : Conversation} {x : Execution} (event : Option Event) (external : External)
    (found : s.conversation? key.conversation = some c)
    (restored : c.execution? e.directory e.listeners key = some (.ok x)) :
    (x.resume event external e.directory).Proper e.directory.Knows external := by
  obtain ⟨p, rest, part, running, rests⟩ := waits.stance models.knows found restored
  exact Execution.resume_proper models.knows (fun _ known => known.2) running rests event

theorem reply_waits (models : e.directory.OfModels) (waits : s.Waits e.directory) (v : Visit) :
    (v.reply e s).store.Waits e.directory := by
  cases v with
  | launch now fresh flow input external =>
    obtain ⟨ops, run, concludes⟩ := e.launch_run s now fresh flow input external
    unfold reply
    rw [run]
    refine waits.runAll fun op mem => ?_
    obtain ⟨f, had, mem⟩ := concludes op mem
    exact (Execution.start_proper models.knows (fun _ known => known.2) (models.knows _ f had)
      e.listeners input).storesWaiting mem
  | resume clock fresh text event external =>
    unfold reply
    dsimp only
    unfold Executor.resume
    cases Key.ofText text with
    | error fault => exact waits
    | ok key =>
      obtain ⟨ops, run, serves⟩ := e.resumeKey_run s clock fresh key event external
      dsimp only
      rw [run]
      refine waits.runAll fun op mem => ?_
      rcases serves op mem with idle | ⟨c, x, found, restored, mem⟩
      · exact idle.storesWaiting
      · exact (resume_proper models waits event external found restored).storesWaiting mem

theorem reply_proper (models : e.directory.OfModels) (waits : s.Waits e.directory) (v : Visit) :
    (v.reply e s).Proper e.directory v.external (v.answer? e s) := by
  cases v with
  | launch now fresh flow input external =>
    unfold reply answer? Executor.launch
    dsimp only
    cases had : e.directory flow with
    | error cause => exact .of_fault rfl nofun
    | ok f =>
      exact (Execution.start_proper models.knows (fun _ known => known.2) (models.knows _ f had)
        e.listeners input).conclude now fresh s
  | resume clock fresh text event external =>
    unfold reply answer? Executor.resume
    dsimp only
    cases Key.ofText text with
    | error fault => exact .of_fault rfl nofun
    | ok key =>
      dsimp only
      rcases e.resumeKey_cases clock fresh key event external s with
        ⟨cause, failed⟩ | ⟨c, x, s', found, restored, -, -, concluded⟩
      · exact .of_fault failed nofun
      · have answered : e.answer? key event external s =
            some (x.resume event external e.directory) := by
          simp [Executor.answer?, found, restored]
        have proper := resume_proper models waits event external found restored
        rw [concluded, answered]
        exact (proper.conclude clock.store fresh s').dropGuard _ _

def runAll (e : Executor) (visits : List Visit) (s : Store) : Store :=
  visits.foldl (fun s v => (v.reply e s).store) s

theorem runAll_waits (models : e.directory.OfModels) (waits : s.Waits e.directory)
    (visits : List Visit) : (runAll e visits s).Waits e.directory := by
  induction visits generalizing s with
  | nil => exact waits
  | cons v rest ih => exact ih (reply_waits models waits v)

end Visit

/-- **A pause is in a view.** Where all flows come out of models, after whatever visits, no reply is
that the state of an execution is illegal, and a reply that pauses shows the view of the view state
in which the stored execution is, as it was made for the request. -/
theorem pauses_in_view (e : Executor) (models : e.directory.OfModels) (settings : StoreSettings)
    (before : List Visit) (v : Visit) :
    let s := Visit.runAll e before (.empty settings)
    (v.reply e s).Proper e.directory v.external (v.answer? e s) :=
  Visit.reply_proper models (Visit.runAll_waits models (.empty settings) before) v

/-! ## From one view to another -/

/-- A model of two views, with an event that leads from the first to the second. -/
def tour : FlowModel :=
  let onward : TransitionModel := ⟨some "go", none, some "there", [], none, .empty⟩
  { FlowModel.empty with states := [
      ⟨"here", .view none false false [] [] [onward], [], [], [], .empty⟩,
      ⟨"there", .view none false false [] [] [], [], [], [], .empty⟩] }

def tours : Registry :=
  match assembleFlow (.ofModel (.ok tour)) ⟨"tour", .empty, .ofActions []⟩ with
  | .ok flow => Registry.empty.registerFlow flow
  | .error _ => .empty

theorem tours_ofModels : tours.OfModels := by
  unfold tours
  split
  · rename_i flow assembled
    have made : flow.OfModel "tour" := ⟨_, _, rfl, assembled⟩
    exact Registry.empty_ofModels.registerFlow made
  · exact Registry.empty_ofModels

def guide : Executor := ⟨Registry.directory (fun _ => .ofFile none) [tours], []⟩

theorem resume_pauses_in_next_view :
    let s := Visit.runAll guide [.launch 0 1 "tour" .empty caller] (.empty .default)
    let v := Visit.resume (Clock.still 5) 2 (Key.mk 1 1).text (some (.named "go")) caller
    guide.directory.OfModels ∧
      (v.reply guide s).result.toOption.bind ExecutionResult.state? = some "there" ∧
      (v.reply guide s).Proper guide.directory caller (v.answer? guide s) := by
  intro s v
  have models : guide.directory.OfModels := Registry.directory_ofModels _ fun r mem => by
    rw [List.mem_singleton.mp mem]
    exact tours_ofModels
  have there : (v.reply guide s).result.toOption.bind ExecutionResult.state? = some "there" := by
    decide +kernel
  exact ⟨models, there, pauses_in_view guide models .default _ v⟩

end Parley
