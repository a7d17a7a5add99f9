import Parley.Proofs.Naming
import Parley.Proofs.Sessions
import Parley.Proofs.Written

/-!
# Parley.Proofs.Restoring

Storing and loading between requests is not noticed. A snapshot leaves the view, the history and the
outcome out, and the flows but for their ids. A request begins with another view and history anyway
(`Execution.resume_bare`), there is no outcome as long as an execution goes on, and the flows are
those that the ids stand for.

* `Execution.Arises`: executions under the same listeners. `Execution.Arises.regular`: what they
  have in common, by what every change of a request preserves.
* `Execution.restore_snapshot`: restored from its snapshot, an execution is what it was, but for
  view and history.
* `Store.find_put`: what was stored is found under the key that was given for it.
* `storing_unnoticed`: requests on the execution that comes back are answered as they would have
  been.
* `Snapshot.ofDocument_toOutline`: the written form loses nothing.
-/

namespace Parley

namespace Execution

variable {x y : Execution} {listeners : List Listener}

/-- An execution that came about under the listeners: it was created, it was called, it got a key,
or it was restored from any snapshot. -/
inductive Arises (listeners : List Listener) : Execution → Prop where
  | created (flow : Flow) : Arises listeners (create flow listeners)
  | called {x : Execution} (h : Arises listeners x) (c : Call) :
      Arises listeners (c.answer x).execution
  | keyed {x : Execution} (h : Arises listeners x) (key : Key) : Arises listeners (x.withKey key)
  | restored {x : Execution} {directory : Directory} {snapshot : Snapshot} {scope : Attributes}
      {key : Key} (h : restore directory listeners snapshot scope key = .ok x) : Arises listeners x

/-- The listeners are those for the flow, and as long as the execution has not ended there is no
outcome. -/
structure Regular (listeners : List Listener) (x : Execution) : Prop where
  listeners : x.listeners = Listener.choose listeners x.flow.id
  outcome : x.status ≠ .ended → x.outcome = none

end Execution

/-- An outcome comes with the end only. -/
theorem Change.outcome_eq_none {r r' : Request} (h : Change r r')
    (untold : r.execution.status ≠ .ended → r.execution.outcome = none) :
    r'.execution.status ≠ .ended → r'.execution.outcome = none := by
  have updated (f : Session Flow → Session Flow) :
      (r.updateSession f).execution.status ≠ .ended →
        (r.updateSession f).execution.outcome = none := by
    obtain ⟨sessions, e⟩ := r.updateSession_eq f
    rwa [e]
  cases h with
  | touched h =>
    cases h with
    | session f => exact updated f
    | _ => exact untold
  | entered state => exact updated _
  | ended o =>
    intro running
    exact absurd rfl running
  | _ => exact untold

namespace Execution

variable {x y : Execution} {listeners : List Listener}

theorem Regular.called (h : x.Regular listeners) (c : Call) :
    (c.answer x).execution.Regular listeners := by
  obtain ⟨reason, refused⟩ | ⟨running, external, directory, r, changes, same, -⟩ := c.changes x
  · rw [refused]
    exact h
  rw [same]
  have setting := changes.setting_eq
  have flow : r.execution.flow = x.flow := congrArg Setting.flow setting
  have heard : r.execution.listeners = x.listeners := congrArg Setting.listeners setting
  constructor
  · rw [heard, flow]
    exact h.listeners
  · refine changes.preserve (fun change => change.outcome_eq_none) ?_
    intro _
    exact h.outcome running

theorem Arises.regular (h : x.Arises listeners) : x.Regular listeners := by
  induction h with
  | created flow => exact ⟨rfl, fun _ => rfl⟩
  | called h c ih => exact ih.called c
  | keyed h key ih => exact ⟨ih.listeners, ih.outcome⟩
  | restored h =>
    obtain ⟨root, sessions, -, -, rfl⟩ := restore_eq h
    exact ⟨rfl, fun _ => rfl⟩

/-! ## What a request starts from -/

/-- The execution without what only the last request has left there. -/
def bare (x : Execution) : Execution := { x with view := none, history := .preserve }

theorem resume_bare (active : x.isActive = true) (event : Option Event) (external : External)
    (directory : Directory) :
    x.bare.resume event external directory = x.resume event external directory := by
  have still : x.bare.isActive = true := active
  unfold resume
  rw [if_pos active, if_pos still]
  rfl

/-- A request on an execution, with the flows that can be had during it. -/
structure Turn where
  event : Option Event
  external : External
  directory : Directory

/-- The answers to requests one after the other, each on the execution that the one before left,
whatever came of it. -/
def answers : List Turn → Execution → List Answer
  | [], _ => []
  | t :: rest, x =>
    let a := x.resume t.event t.external t.directory
    a :: answers rest a.execution

theorem answers_bare (active : x.isActive = true) (turns : List Turn) :
    answers turns x.bare = answers turns x := by
  -- Only the first request can tell: the others come to what it leaves.
  cases turns with
  | nil => rfl
  | cons t rest => simp only [answers, resume_bare active]

/-! ## There and back -/

/-- Every flow of the execution is found under its id. -/
def DefinedIn (directory : Directory) (x : Execution) : Prop :=
  directory x.flow.id = .ok x.flow ∧ ∀ s ∈ x.sessions, directory s.flow.id = .ok s.flow

variable {directory : Directory} {root : Flow}

theorem restoreSession_map {s : Session Flow} (rooted : directory root.id = .ok root)
    (defined : directory s.flow.id = .ok s.flow) :
    restoreSession directory root (s.map Flow.id) = .ok s := by
  by_cases same : s.flow.id = root.id
  · -- The directory is not asked again, but it would have answered with the root.
    have flow : root = s.flow := by
      rw [same, rooted] at defined
      exact Except.ok.inj defined
    have id : (s.map Flow.id).flow = root.id := same
    rw [restoreSession, if_pos id, flow]
    rfl
  · have id : (s.map Flow.id).flow ≠ root.id := same
    have found : directory (s.map Flow.id).flow = .ok s.flow := defined
    rw [restoreSession, if_neg id, found]
    rfl

/-- The stack, from its bottom up. -/
theorem restoreSessions_map {sessions : List (Session Flow)} (rooted : directory root.id = .ok root)
    (defined : ∀ s ∈ sessions, directory s.flow.id = .ok s.flow) :
    restoreSessions directory root (sessions.map (Session.map Flow.id)) = .ok sessions := by
  induction sessions with
  | nil => rfl
  | cons s outer ih =>
    have below := ih fun t mem => defined t (List.mem_cons_of_mem _ mem)
    have here := restoreSession_map rooted (defined s List.mem_cons_self)
    rw [List.map_cons, restoreSessions, below, here]

theorem restore_snapshot (regular : x.Regular listeners) (running : x.status ≠ .ended)
    (defined : x.DefinedIn directory) (key : Key) :
    restore directory listeners x.snapshot x.conversation key = .ok (x.withKey key).bare := by
  obtain ⟨rooted, found⟩ := defined
  have root : directory x.snapshot.flow = .ok x.flow := rooted
  have sessions : restoreSessions directory x.flow x.snapshot.sessions = .ok x.sessions :=
    restoreSessions_map rooted found
  have outcome : x.outcome = none := regular.outcome running
  rw [restore, root]
  dsimp only
  rw [sessions]
  simp [create, snapshot, bare, withKey, regular.listeners, outcome]

end Execution

/-! ## In the store -/

namespace Conversation

variable {settings : StoreSettings} {now later : Time} {x : Execution} {c : Conversation}

/-- The next number of the conversation is not in use. -/
def Numbered (c : Conversation) : Prop := c.next ∉ numbers c.snapshots

theorem snapshot?_extend (numbered : c.Numbered) (resumed : BitVec 32) :
    (c.extend settings now resumed x).snapshot? c.next = some x.snapshot := by
  have unused : ∀ entry ∈ beside settings.maxSnapshots (pruned x.history resumed c.snapshots),
      entry.1 ≠ c.next := by
    intro entry mem same
    have old : entry ∈ c.snapshots :=
      pruned_subset _ _ _ (beside_subset _ _ mem)
    exact numbered (List.mem_map.mpr ⟨entry, old, same⟩)
  rw [snapshot?, snapshots_extend, List.find?_append,
    List.find?_eq_none.mpr (by simpa using unused)]
  simp

end Conversation

namespace Store

variable {s s' : Store} {now later : Time} {fresh : ConversationId} {x : Execution} {key : Key}

/-- No conversation is about to use a number again. -/
def Numbered (s : Store) : Prop := ∀ id c, s.conversation? id = some c → c.Numbered

/-- What was used at the one time is not expired at the other. -/
def Keeps (s : Store) (now later : Time) : Prop :=
  ∀ seconds, s.settings.expiry? = some seconds → later - now ≤ (seconds : Int) * 1000000

theorem isExpired_eq_false {c : Conversation} (keeps : s.Keeps now later)
    (used : c.lastAccessed = now) : c.isExpired s.settings later = false := by
  unfold Conversation.isExpired
  split
  · rfl
  · rename_i seconds expiry
    have short := keeps seconds expiry
    rw [used]
    simpa using short

theorem find_kept (key : Key) {c : Conversation} {snapshot : Snapshot}
    (found : s.conversation? key.conversation = some c)
    (live : c.isExpired s.settings later = false)
    (held : c.snapshot? key.snapshot = some snapshot) :
    (s.find later key).1 = .ok (snapshot, c.scope) := by
  simp [find, checkLive, found, live, held]

/-- What is found is then read back and restored. -/
theorem get_of_find {directory : Directory} {listeners : List Listener} {kept : Snapshot}
    {scope : Attributes} (held : (s.find later key).1 = .ok (kept, scope)) :
    (s.get directory listeners later key).1 =
      Execution.revive directory listeners kept scope key := by
  rcases came : s.find later key with ⟨found, s'⟩
  rw [came] at held
  obtain rfl : found = .ok (kept, scope) := held
  rw [get, came]

theorem settings_makeRoom (now : Time) (s : Store) : (s.makeRoom now).settings = s.settings := by
  simp [makeRoom, purgeExpired]

theorem find_put (numbered : s.Numbered) (keeps : s.Keeps now later)
    (stored : s.put now fresh x = (.ok key, s')) :
    (s'.find later key).1 = .ok (x.snapshot, x.conversation) := by
  unfold put at stored
  split at stored
  · cases stored
    have same : ((s.makeRoom now).insert now fresh x).settings = s.settings :=
      settings_makeRoom now s
    have begun : ((s.makeRoom now).insert now fresh x).conversation? fresh =
        some (.begin now x) := by simp [insert]
    have held : (Conversation.begin now x).snapshot? 1 = some x.snapshot := rfl
    refine find_kept ⟨fresh, 1⟩ begun ?_ held
    rw [same]
    exact isExpired_eq_false keeps rfl
  · split at stored
    · cases stored
    · rename_i c found
      cases stored
      refine find_kept _ conversation?_write_self ?_ ?_
      · exact isExpired_eq_false keeps rfl
      · exact Conversation.snapshot?_extend (numbered _ c found) _

end Store

/-- In whatever course of operations, while the numbers last. -/
theorem Store.numbered_runAll (settings : StoreSettings) (ops : List Operation)
    (distinct : (ops.filterMap Operation.fresh?).Nodup)
    (bound : ∀ id, (storedIn id (issued ops (.empty settings))).length < 2 ^ 32 - 1) :
    (runAll ops (.empty settings)).Numbered := by
  intro id c found used
  have order := ((Records.empty settings).runAll distinct).inOrder id
  rw [record?, found] at order
  have below := (order.increasing (bound id)).2
  exact absurd (below c.next used) (BitVec.lt_irrefl c.next)

/-- **Storing is not noticed.** An execution that waits, is stored and is loaded under the key that
it got is answered to any requests as the execution that was stored, if its flows are found under
their ids, its snapshot reads back as it was written, its number was not in use and the time
between is not too long. The written form of the snapshot itself loses nothing. -/
theorem storing_unnoticed {directory : Directory} {listeners : List Listener} {x : Execution}
    {s s' : Store} {now later : Time} {fresh : ConversationId} {key : Key}
    (arises : x.Arises listeners) (active : x.isActive = true) (defined : x.DefinedIn directory)
    (reads : x.snapshot.readBack = .ok x.snapshot) (numbered : s.Numbered)
    (keeps : s.Keeps now later) (stored : s.put now fresh x = (.ok key, s')) :
    ((∀ a ∈ x.snapshot.kept, a.toValue.Sorted) →
        Snapshot.ofDocument (.ofValue x.snapshot.toOutline.toValue) = some x.snapshot) ∧
      ∃ y, (s'.get directory listeners later key).1 = .ok y ∧
        ∀ turns, Execution.answers turns y = Execution.answers turns (x.withKey key) := by
  have status : x.status = .active := of_decide_eq_true active
  have running : x.status ≠ .ended := by simp [status]
  have held : (s'.find later key).1 = .ok (x.snapshot, x.conversation) :=
    Store.find_put numbered keeps stored
  have restored : Execution.restore directory listeners x.snapshot x.conversation key =
      .ok (x.withKey key).bare :=
    Execution.restore_snapshot arises.regular running defined key
  refine ⟨Snapshot.ofDocument_toOutline, (x.withKey key).bare, ?_, ?_⟩
  · rw [Store.get_of_find held, Execution.revive, reads]
    dsimp only
    rw [restored]
  · intro turns
    have still : (x.withKey key).isActive = true := active
    exact Execution.answers_bare still turns

/-! ## Waiting in a subflow -/

/-- A flow with a variable that waits in its only state. -/
def question : Flow :=
  { Flow.blank "question" .empty with
    start := some "ask", vars := [⟨"asked", .literal (.int 1)⟩]
    states := [.waiting "ask" [⟨.event "again", [], some (.fixed "ask"), .preserve, .empty⟩]] }

/-- A flow with a variable that has the other one for its only state. -/
def errand : Flow :=
  { Flow.blank "errand" .empty with
    start := some "call", vars := [⟨"tries", .literal (.list [.int 2, .null])⟩]
    states := [⟨"call", [], [], [], .empty, .subflow ⟨.fixed "question", none, none⟩ []⟩] }

def errands : Directory := fun id => .ok (if id = "errand" then errand else question)

/-- The execution once it waits in the subflow. -/
def asking : Execution := ((Execution.create errand []).start .empty caller errands).execution

theorem asking_unnoticed :
    let stored := (Store.empty .default).put 0 1 asking
    asking.sessions.map (fun t => (t.flow.id, t.scope.size)) = [("question", 1), ("errand", 1)] ∧
      ∃ key y, stored.1 = .ok key ∧ (stored.2.get errands [] 7 key).1 = .ok y ∧
        ∀ turns, Execution.answers turns y = Execution.answers turns (asking.withKey key) := by
  intro stored
  let inner : Session Flow := ⟨question, some "ask", .paused, ⟨[("asked", .int 1)]⟩, .empty⟩
  let outer : Session Flow :=
    ⟨errand, some "call", .active, ⟨[("tries", .list [.int 2, .null])]⟩, .empty⟩
  have stack : asking.sessions = [inner, outer] := rfl
  have arises : asking.Arises [] := .called (.created errand) (.start .empty caller errands)
  have defined : asking.DefinedIn errands := by
    refine ⟨rfl, ?_⟩
    rw [stack]
    intro t mem
    simp only [List.mem_cons, List.not_mem_nil, or_false] at mem
    rcases mem with rfl | rfl <;> rfl
  have reads : asking.snapshot.readBack = .ok asking.snapshot := by rfl
  have keeps : (Store.empty .default).Keeps 0 7 := by
    intro seconds expiry
    obtain rfl : 1800 = seconds := Option.some.inj expiry
    decide
  have numbered : (Store.empty .default).Numbered := by
    intro id c found
    exact nomatch found
  have put : (Store.empty .default).put 0 1 asking = (.ok ⟨1, 1⟩, stored.2) := rfl
  obtain ⟨-, y, loaded, same⟩ :=
    storing_unnoticed arises rfl defined reads numbered keeps put
  exact ⟨rfl, _, y, rfl, loaded, same⟩

end Parley
