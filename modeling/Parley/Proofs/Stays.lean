import Parley.Proofs.Lives

/-!
# Parley.Proofs.Stays

Stays in states, and the exit actions that are run in them. A stay lasts from the moment at which a
session enters a state until it enters a state again or ends. Exit actions are run one after the
other from the first on; where one fails the stay goes on, and the next way out begins with the
first one again.

* `Stays.of`: the stays, read off a ledger.
* `Stays.Going`: the innermost session has come so far on its way out; `Stays.Even`: no session is
  on its way out, as it is between requests (`Execution.Lives.even`). `Engine.logging` and
  `Engine.proceed_logged` lead from one such moment to the next.
* `exits_in_turn`: no exit action is run again in a stay unless one has failed in between.
-/

namespace Parley

/-! ## Stays -/

/-- An exit action that was run: the state that has it, its position there, and whether it
passed. -/
structure Exit where
  state : String
  position : Nat
  passed : Bool
deriving DecidableEq

/-- The position that is next after some exit actions: one further as long as they pass, and the
first one in the beginning and after a failure. -/
def Exit.due (exits : List Exit) : Nat :=
  match exits.getLast? with
  | some ⟨_, position, true⟩ => position + 1
  | _ => 0

/-- A stay: the state, if the session has entered one, and the exit actions that were run. -/
structure Stay where
  state : Option String
  exits : List Exit
deriving DecidableEq

/-- The exit actions are the state's, and each was run when it was due. -/
structure Stay.Orderly (v : Stay) : Prop where
  own : ∀ e ∈ v.exits, v.state = some e.state
  inTurn : ∀ {before e after}, v.exits = before ++ e :: after → e.position = Exit.due before

/-- The stays that are over, and those of the sessions that there are, innermost first. -/
structure Stays where
  past : List Stay
  now : List Stay

namespace Stays

def all (log : Stays) : List Stay := log.past ++ log.now

/-- The innermost stay gives way to others. -/
def close (log : Stays) (next : List Stay) : Stays :=
  match log.now with
  | [] => log
  | v :: rest => ⟨v :: log.past, next ++ rest⟩

def add (log : Stays) : Entry → Stays
  | .notice (.sessionStarting ..) _ => { log with now := ⟨none, []⟩ :: log.now }
  | .notice (.stateEntering state) _ => log.close [⟨some state, []⟩]
  | .notice (.sessionEnded ..) _ => log.close []
  | .exited state position passed =>
    match log.now with
    | [] => log
    | v :: rest =>
      { log with now := { v with exits := v.exits ++ [⟨state, position, passed⟩] } :: rest }
  | _ => log

/-- The stays that a ledger tells of. -/
def of (ledger : List Entry) : Stays := ledger.foldl add ⟨[], []⟩

theorem of_concat (ledger : List Entry) (entry : Entry) :
    of (ledger ++ [entry]) = (of ledger).add entry := by
  simp [of]

end Stays

namespace Exit

variable {exits before mid after : List Exit} {e e' : Exit}

theorem due_concat (exits : List Exit) (e : Exit) :
    due (exits ++ [e]) = if e.passed then e.position + 1 else 0 := by
  obtain ⟨state, position, passed⟩ := e
  cases passed <;> simp [due]

end Exit

namespace Stay.Orderly

variable {v : Stay}

theorem begin (state : Option String) : Stay.Orderly ⟨state, []⟩ :=
  ⟨nofun, fun e => by simp at e⟩

/-- The exit action that is due is run. -/
theorem concat (h : v.Orderly) {e : Exit} (own : v.state = some e.state)
    (due : e.position = Exit.due v.exits) :
    Stay.Orderly { v with exits := v.exits ++ [e] } := by
  constructor
  · intro e' mem
    rcases List.mem_append.mp mem with mem | mem
    · exact h.own e' mem
    · cases List.mem_singleton.mp mem
      exact own
  · intro before e' after split
    obtain ⟨later, whole⟩ | ⟨front, rfl, last⟩ := append_eq_append_cons split
    · exact h.inTurn whole
    · cases front with
      | nil =>
        cases last
        rw [List.append_nil]
        exact due
      | cons f front => simp at last

/-- As long as none fails, the positions go up one by one. -/
theorem position_of_passed (h : v.Orderly) {before mid after : List Exit} {e e' : Exit}
    (split : v.exits = before ++ e :: (mid ++ e' :: after))
    (passed : ∀ f ∈ e :: mid, f.passed = true) : e'.position = e.position + mid.length + 1 := by
  induction mid using List.reverseRecOn generalizing e' after with
  | nil =>
    have whole : v.exits = (before ++ [e]) ++ e' :: after := by simpa using split
    rw [h.inTurn whole, Exit.due_concat, if_pos (passed e List.mem_cons_self)]
    rfl
  | append_singleton mid f ih =>
    have earlier : v.exits = before ++ e :: (mid ++ f :: e' :: after) := by simpa using split
    have middle := ih earlier fun g mem => passed g (by simp at mem ⊢; tauto)
    have whole : v.exits = ((before ++ e :: mid) ++ [f]) ++ e' :: after := by simpa using split
    rw [h.inTurn whole, Exit.due_concat, if_pos (passed f (by simp)), middle, List.length_append,
      List.length_singleton]
    omega

/-- An exit action that is run again has seen a failure in between. -/
theorem failed_between (h : v.Orderly) {before mid after : List Exit} {e e' : Exit}
    (split : v.exits = before ++ e :: (mid ++ e' :: after)) (again : e'.position = e.position) :
    ∃ f ∈ e :: mid, f.passed = false := by
  by_contra none
  have passed : ∀ f ∈ e :: mid, f.passed = true := by simpa using none
  have later := h.position_of_passed split passed
  omega

/-- If none fails, they are the first so many, each run once. -/
theorem positions_of_passed (h : v.Orderly) (passed : ∀ e ∈ v.exits, e.passed = true) :
    v.exits.map Exit.position = List.range v.exits.length := by
  obtain ⟨state, exits⟩ := v
  suffices both : Exit.due exits = exits.length ∧
      exits.map Exit.position = List.range exits.length from both.2
  have inTurn : ∀ before e after, exits = before ++ e :: after → e.position = Exit.due before :=
    fun _ _ _ => h.inTurn
  clear h
  induction exits using List.reverseRecOn with
  | nil => exact ⟨rfl, rfl⟩
  | append_singleton exits e ih =>
    obtain ⟨due, positions⟩ := ih (fun f mem => passed f (by simp at mem ⊢; tauto))
      fun before f after split => inTurn before f (after ++ [e]) (by simp [split])
    have last : e.position = exits.length := (inTurn exits e [] rfl).trans due
    rw [Exit.due_concat, if_pos (passed e (by simp)), last, List.length_append,
      List.length_singleton]
    exact ⟨rfl, by simp [positions, last, List.range_succ]⟩

end Stay.Orderly

/-! ## How far exits have come -/

namespace Stays

/-- All stays are orderly, and those that there are belong to the sessions in their states. -/
structure Sound (log : Stays) (states : List (Option String)) : Prop where
  orderly : ∀ v ∈ log.all, v.Orderly
  places : log.now.map Stay.state = states

/-- At most the innermost session is on its way out of a state. -/
structure Loose (log : Stays) (states : List (Option String)) : Prop
    extends log.Sound states where
  below : ∀ v ∈ log.now.tail, Exit.due v.exits = 0

/-- No session is. -/
structure Even (log : Stays) (states : List (Option String)) : Prop
    extends log.Sound states where
  whole : ∀ v ∈ log.now, Exit.due v.exits = 0

/-- The innermost session has come so far on its way out of a state. -/
structure Going (state : String) (position : Nat) (log : Stays) (states : List (Option String)) :
    Prop extends log.Loose states where
  top : ∃ v, log.now.head? = some v ∧ v.state = some state ∧ Exit.due v.exits = position

variable {log : Stays} {states : List (Option String)} {state : String} {position : Nat}

theorem Even.loose (h : log.Even states) : log.Loose states :=
  ⟨h.toSound, fun v mem => h.whole v (List.mem_of_mem_tail mem)⟩

theorem Going.even (h : Going state 0 log states) : log.Even states := by
  refine ⟨h.toSound, fun v mem => ?_⟩
  obtain ⟨top, first, -, due⟩ := h.top
  obtain ⟨rest, now⟩ := List.head?_eq_some_iff.mp first
  have below := h.below
  rw [now] at mem below
  rcases List.mem_cons.mp mem with rfl | mem
  · exact due
  · exact below v mem

/-- A session that stands in a state can set out. -/
theorem Even.going (h : log.Even states) (stands : states.head? = some (some state)) :
    Going state 0 log states := by
  refine ⟨h.loose, ?_⟩
  rw [← h.places] at stands
  obtain ⟨v, first, here⟩ := Option.map_eq_some_iff.mp ((List.head?_map ..).symm.trans stands)
  exact ⟨v, first, here, h.whole v (List.mem_of_mem_head? first)⟩

/-- The exit action that is due is run. -/
theorem Going.run (h : Going state position log states) (passed : Bool) :
    Going state (if passed then position + 1 else 0) (log.add (.exited state position passed))
      states := by
  obtain ⟨v, first, here, due⟩ := h.top
  obtain ⟨rest, now⟩ := List.head?_eq_some_iff.mp first
  have places := h.places
  have below := h.below
  have orderly := h.orderly
  simp only [all, now, List.mem_append, List.mem_cons] at places below orderly
  simp only [add, now]
  refine ⟨⟨⟨fun w mem => ?_, places⟩, below⟩, _, rfl, here, Exit.due_concat v.exits _⟩
  simp only [all, List.mem_append, List.mem_cons] at mem
  rcases mem with past | rfl | below
  · exact orderly w (.inl past)
  · exact (orderly v (.inr (.inl rfl))).concat here due.symm
  · exact orderly w (.inr (.inr below))

/-- The innermost session enters a state, whether it has been on its way out of another or not. -/
theorem Loose.enter (h : log.Loose states) (some : states ≠ []) (state : String) (shown : Context) :
    (log.add (.notice (.stateEntering state) shown)).Even (.some state :: states.tail) := by
  have places := h.places
  have below := h.below
  have orderly := h.orderly
  cases now : log.now with
  | nil =>
    rw [now] at places
    exact (some places.symm).elim
  | cons v rest =>
    simp only [all, now, List.mem_append, List.mem_cons] at places below orderly
    simp only [add, close, now]
    refine ⟨⟨fun w mem => ?_, ?_⟩, fun w mem => ?_⟩
    · simp only [all, List.mem_append, List.mem_cons, List.not_mem_nil, or_false] at mem
      rcases mem with (rfl | past) | rfl | below
      · exact orderly w (.inr (.inl rfl))
      · exact orderly w (.inl past)
      · exact .begin _
      · exact orderly w (.inr (.inr below))
    · rw [← places]
      rfl
    · rcases List.mem_cons.mp mem with rfl | mem
      · rfl
      · exact below w mem

/-- Where there is no session, none enters a state. -/
theorem Loose.nobody (h : log.Loose []) (state : String) (shown : Context) :
    (log.add (.notice (.stateEntering state) shown)).Even [] := by
  have now : log.now = [] := List.map_eq_nil_iff.mp h.places
  have same : log.add (.notice (.stateEntering state) shown) = log := by simp [add, close, now]
  rw [same]
  exact ⟨h.toSound, by simp [now]⟩

/-- A session begins. -/
theorem Even.begin (h : log.Even states) (flow : String) (input : Attributes) (shown : Context) :
    (log.add (.notice (.sessionStarting flow input) shown)).Even (none :: states) := by
  refine ⟨⟨fun v mem => ?_, congrArg (List.cons none) h.places⟩, fun v mem => ?_⟩
  · simp only [all, add, List.mem_append, List.mem_cons] at mem
    rcases mem with past | rfl | now
    · exact h.orderly v (List.mem_append_left _ past)
    · exact .begin none
    · exact h.orderly v (List.mem_append_right _ now)
  · rcases List.mem_cons.mp mem with rfl | mem
    · rfl
    · exact h.whole v mem

/-- The innermost session has ended. -/
theorem Even.finish (h : log.Even states) (flow : String) (output : Attributes) (shown : Context) :
    (log.add (.notice (.sessionEnded flow output) shown)).Even states.tail := by
  obtain ⟨⟨orderly, rfl⟩, whole⟩ := h
  obtain ⟨past, now⟩ := log
  cases now with
  | nil => exact ⟨⟨orderly, rfl⟩, whole⟩
  | cons v rest =>
    refine ⟨⟨fun w mem => orderly w ?_, rfl⟩, fun w mem => whole w (List.mem_cons_of_mem _ mem)⟩
    simp only [all, add, close, List.nil_append, List.mem_append, List.mem_cons] at mem ⊢
    tauto

end Stays

/-! ## Requests -/

/-- The stays that an earlier ledger and the journal of the request tell of. -/
def Request.log (ledger : List Entry) (r : Request) : Stays := .of (ledger ++ r.journal)

/-- The states of the sessions, innermost first. -/
def Execution.states (x : Execution) : List (Option String) := x.sessions.map Session.state

theorem Execution.head?_states {x : Execution} {s : Session Flow} (top : x.session? = some s) :
    x.states.head? = some s.state := by
  have first : x.sessions.head? = some s := top
  rw [states, List.head?_map, first]
  rfl

/-- It is so with the stays and the states. -/
def Request.Logs (ledger : List Entry) (P : Stays → List (Option String) → Prop) (r : Request) :
    Prop := P (r.log ledger) r.execution.states

theorem Stays.of_append {entries : List Entry}
    (silent : ∀ entry ∈ entries, ∀ log : Stays, log.add entry = log) (ledger : List Entry) :
    of (ledger ++ entries) = of ledger := by
  rw [of, List.foldl_append]
  induction entries with
  | nil => rfl
  | cons entry rest ih =>
    rw [List.foldl_cons, silent entry List.mem_cons_self]
    exact ih fun later mem => silent later (List.mem_cons_of_mem _ mem)

namespace Request

variable {ledger : List Entry} {r r' : Request}

theorem log_of_append {entries : List Entry} (journal : r'.journal = r.journal ++ entries)
    (silent : ∀ entry ∈ entries, ∀ log : Stays, log.add entry = log) :
    r'.log ledger = r.log ledger := by
  rw [log, journal, ← List.append_assoc]
  exact Stays.of_append silent _

theorem log_told (hook : Hook) (r : Request) :
    (r.told hook).log ledger = (r.log ledger).add (.notice hook r.context) := by
  rw [log, told, ← List.append_assoc]
  exact Stays.of_concat _ _

theorem log_thrown (e : ExecutionError) (r : Request) :
    (r.told (.exceptionThrown e)).log ledger = r.log ledger := r.log_told _

theorem log_leave (state : String) (position : Nat) (passed : Bool) (r : Request) :
    (r.leave state position passed).log ledger =
      (r.log ledger).add (.exited state position passed) := by
  rw [log, leave, ← List.append_assoc]
  exact Stays.of_concat _ _

theorem log_take (t : Transition) (r : Request) : (r.take t).log ledger = r.log ledger := by
  rw [log, take, ← List.append_assoc]
  exact Stays.of_concat _ _

theorem log_fire (t : Transition) (r : Request) : (r.fire t).log ledger = r.log ledger := by
  rw [log, fire, ← List.append_assoc]
  exact Stays.of_concat _ _

theorem log_updateSession (f : Session Flow → Session Flow) (r : Request) :
    (r.updateSession f).log ledger = r.log ledger := by
  obtain ⟨sessions, e⟩ := r.updateSession_eq f
  rw [e]
  rfl

theorem states_updateSession {f : Session Flow → Session Flow} (kept : ∀ s, (f s).state = s.state)
    (r : Request) : (r.updateSession f).execution.states = r.execution.states := by
  unfold updateSession Execution.states
  split <;> simp [*]

theorem states_enter {s : Session Flow} (top : r.execution.session? = some s) (state : String) :
    (r.updateSession fun s => { s with state := some state }).execution.states =
      some state :: r.execution.states.tail := by
  obtain ⟨rest, stack⟩ := List.head?_eq_some_iff.mp top
  simp [updateSession, Execution.states, stack]

theorem states_absorb (c : Context) (r : Request) :
    (r.absorb c).execution.states = r.execution.states := by
  unfold absorb adopt absorbSessions Execution.states
  cases r.execution.sessions with
  | nil => rfl
  | cons s rest => cases c.session? <;> rfl

end Request

/-- No stay begins or ends, and no exit action is run. -/
theorem Quiet.still {r r' : Request} (h : Quiet r r') (ledger : List Entry) :
    r'.log ledger = r.log ledger ∧ r'.execution.states = r.execution.states := by
  cases h with
  | noticed hook plain =>
    refine ⟨Request.log_of_append rfl fun entry mem log => ?_, rfl⟩
    cases List.mem_singleton.mp mem
    cases hook with
    | sessionStarting | sessionEnded | stateEntering => cases plain
    | _ => rfl
  | absorbed c =>
    refine ⟨Request.log_of_append rfl fun entry mem log => ?_, r.states_absorb c⟩
    rcases List.mem_append.mp mem with noted | ran
    · obtain ⟨value, -, rfl⟩ := List.mem_map.mp noted
      rfl
    · cases List.mem_singleton.mp ran
      rfl
  | session f flow state => exact ⟨r.log_updateSession f, r.states_updateSession state⟩
  | _ => exact ⟨rfl, rfl⟩

theorem Request.Logs.steps {ledger : List Entry} {P : Stays → List (Option String) → Prop}
    {r r' : Request} (h : Relation.ReflTransGen Quiet r r') (logs : r.Logs ledger P) :
    r'.Logs ledger P := by
  induction h with
  | refl => exact logs
  | tail _ quiet ih =>
    obtain ⟨log, states⟩ := quiet.still ledger
    unfold Request.Logs
    rwa [log, states]

/-- The move may be next. An exit may be over only on the way to a state that is there. -/
def Move.Logged (ledger : List Entry) : Move → Request → Prop
  | .enter flow target, r => r.Logs ledger Stays.Even ∨
      flow.hasState target = true ∧ r.Logs ledger Stays.Loose
  | _, r => r.Logs ledger Stays.Even

namespace Engine

variable {ledger : List Entry}

/-- What work leaves that stops: if it is for an error, no exit is under way. -/
def Fell (ledger : List Entry) (stop : Stop) (r : Request) : Prop :=
  r.Logs ledger Stays.Sound ∧ ∀ e, stop = .raised e → r.Logs ledger Stays.Even

theorem Fell.of_even {r : Request} (even : r.Logs ledger Stays.Even) (stop : Stop) :
    Fell ledger stop r := ⟨Stays.Even.toSound even, fun _ _ => even⟩

theorem Fell.of_going {state : String} {r : Request} (going : r.Logs ledger (Stays.Going state 0))
    (stop : Stop) : Fell ledger stop r := .of_even going.even stop

/-- No session is on its way out of a state, and the innermost one may set out from its own. -/
def Poised (ledger : List Entry) (_ : Flow) : Option State → Request → Prop
  | some state => Request.Logs ledger (Stays.Going state.id 0)
  | none => Request.Logs ledger Stays.Even

theorem Poised.even {flow : Flow} {state : Option State} {r : Request}
    (h : Poised ledger flow state r) : r.Logs ledger Stays.Even := by
  cases state with
  | none => exact h
  | some state => exact Stays.Going.even h

theorem Poised.quiet {flow : Flow} {state : Option State} {r r' : Request}
    (h : Poised ledger flow state r) (quiet : Quiet r r') : Poised ledger flow state r' := by
  cases state with
  | none => exact Request.Logs.steps (.single quiet) h
  | some state => exact Request.Logs.steps (.single quiet) h

/-! ### The way out of a state -/

section

variable (flow : Flow) (state : State)

theorem runExit_going (position : Nat) (action : Action) :
    Ensures (Request.Logs ledger (Stays.Going state.id position))
      (runExit flow state position action)
      (fun _ => Request.Logs ledger (Stays.Going state.id (position + 1))) (Fell ledger) := by
  have acts : Ensures (Request.Logs ledger (Stays.Going state.id position)) (within action)
      (fun _ => Request.Logs ledger (Stays.Going state.id position)) (Fell ledger) :=
    fun _ going => going.steps (.single (.absorbed _))
  refine .bind acts fun result => ?_
  refine .modify (R := Request.Logs ledger
    (Stays.Going state.id (if result.isOk then position + 1 else 0))) (fun r going => ?_) ?_
  · unfold Request.Logs
    rw [r.log_leave]
    exact going.run result.isOk
  · cases result with
    | ok event => exact .pure fun _ going => going
    | error e => exact .raise fun _ going => .of_going going _

theorem runExits_going (position : Nat) (actions : List Action) :
    Ensures (Request.Logs ledger (Stays.Going state.id position))
      (runExits flow state position actions)
      (fun _ r => ∃ position, r.Logs ledger (Stays.Going state.id position)) (Fell ledger) := by
  induction actions generalizing position with
  | nil => exact .pure fun _ going => ⟨position, going⟩
  | cons action rest ih =>
    exact .bind (runExit_going flow state position action) fun _ => ih (position + 1)

theorem exitState_loose :
    Ensures (Request.Logs ledger (Stays.Going state.id 0)) (exitState flow state)
      (fun _ => Request.Logs ledger Stays.Loose) (Fell ledger) := by
  refine .bind (runExits_going flow state 0 state.exit) fun _ => ?_
  split
  · rintro r ⟨position, going⟩
    have quiet : Quiet r (r.updateSession fun s => { s with viewScope := .empty }) :=
      .session _ (fun _ => rfl) fun _ => rfl
    exact Request.Logs.steps (P := Stays.Loose) (.single quiet) going.toLoose
  · exact .pure fun r ⟨_, going⟩ => going.toLoose

theorem depart_logged (t : Transition) {target : String} (there : flow.hasState target = true) :
    Ensures (Request.Logs ledger (Stays.Going state.id 0)) (depart flow state t target)
      (Move.Logged ledger) (Fell ledger) := by
  refine .modify (R := Request.Logs ledger (Stays.Going state.id 0)) (fun r going => ?_)
    (.bind (exitState_loose flow state) fun _ =>
      .modify (R := Request.Logs ledger Stays.Loose) (fun r loose => ?_)
        (.pure fun r loose => .inr ⟨there, loose⟩))
  · unfold Request.Logs
    rwa [r.log_take]
  · unfold Request.Logs
    rwa [r.log_fire]

end

/-! ### Moves -/

/-- The session of which it is known where it stands may set out from there. -/
theorem going_of_session {r : Request} {s : Session Flow} {state : State}
    (even : r.Logs ledger Stays.Even) (top : r.execution.session? = some s)
    (here : s.place.state? = some state) : r.Logs ledger (Stays.Going state.id 0) := by
  have place : s.state = some state.id := congrArg Place.state (Place.of_state? here).2
  exact Stays.Even.going even (place ▸ Execution.head?_states top)

theorem even_of_left {r : Request} (even : r.Logs ledger Stays.Even) (flow : String)
    (output : Attributes) :
    (r.dropSession.told (.sessionEnded flow output)).Logs ledger Stays.Even := by
  have finished := Stays.Even.finish even flow output r.dropSession.context
  have states : r.dropSession.execution.states = r.execution.states.tail := List.map_tail
  rw [← states] at finished
  unfold Request.Logs
  rwa [r.dropSession.log_told]

/-- From one state to the next: an exit that has begun is over when the state is entered. -/
theorem logging : Course .any (Poised ledger) (fun flow state _ => Poised ledger flow (some state))
    (Request.Logs ledger Stays.Even) (Move.Logged ledger) (Fell ledger) where
  hush h poised := poised.quiet h.quiet
  session flow state poised := poised.quiet (.session _ flow state)
  fails _ poised := .of_even poised.even _
  astray _ _ _ _ poised := .of_even poised.even _
  shows _ _ poised := poised.even
  leaves t _ there := depart_logged _ _ t there
  calls _ _ _ poised := poised.even
  opens {flow input r} even := by
    have begun := Stays.Even.begin even flow.id input r.context
    rwa [← r.log_told (.sessionStarting flow.id input)] at begun
  started {flow r} poised := .inl (poised.quiet (.noticed (.sessionStarted flow.id) rfl)).even
  enters {flow target state s r} found top logged := by
    have loose : r.Logs ledger Stays.Loose := by
      obtain even | ⟨-, loose⟩ := logged
      · exact Stays.Even.loose even
      · exact loose
    have some : r.execution.states ≠ [] := by
      intro nobody
      have none := List.head?_eq_none_iff.mpr (List.map_eq_nil_iff.mp nobody)
      cases top.symm.trans none
    have entered := loose.enter some state.id r.context
    have top : (r.told (.stateEntering state.id)).execution.session? = .some s := top
    refine Stays.Even.going ?_ ?_
    · rw [Request.log_updateSession, r.log_told, Request.states_enter top]
      exact entered
    · rw [Request.states_enter top]
      rfl
  acts _ poised := poised.quiet (.absorbed _)
  stumbles _ poised := .of_even poised.even _
  entered poised := poised.quiet (.noticed _ rfl)
  misses missing logged := by
    obtain even | ⟨there, -⟩ := logged
    · exact .of_even even _
    · simp [Flow.hasState, missing] at there
  nobody {flow target state r} _ none logged := by
    have loose : r.Logs ledger Stays.Loose := by
      obtain even | ⟨-, loose⟩ := logged
      · exact Stays.Even.loose even
      · exact loose
    have states : (r.told (.stateEntering state.id)).execution.states = r.execution.states := rfl
    have nobody : r.execution.states = [] :=
      List.map_eq_nil_iff.mpr (List.head?_eq_none_iff.mp none)
    refine .of_even ?_ _
    unfold Request.Logs at loose ⊢
    rw [nobody] at loose
    rw [r.log_told, states, nobody]
    exact loose.nobody state.id r.context
  finishes output _ poised := even_of_left poised.even _ output
  returns output _ poised := even_of_left poised.even _ output
  resumes top here _ even := going_of_session even top here
  refuses _ _ even := .of_even even _

theorem proceed_logged (limit : Nat) (move : Move) :
    Ensures (Move.Logged ledger move) (proceed limit move)
      (fun _ => Request.Logs ledger Stays.Even) (Fell ledger) := by
  refine logging.proceeds (fun {move r} further logged => ?_) limit move
  cases move with
  | begin flow input => exact ⟨Stays.Even.toSound logged, nofun⟩
  | enter flow target =>
    obtain even | ⟨-, loose⟩ := logged
    · exact ⟨Stays.Even.toSound even, nofun⟩
    · exact ⟨Stays.Loose.toSound loose, nofun⟩
  | rest => exact absurd rfl further

/-! ### Requests -/

theorem resumption_logged (event : Option Event) :
    Ensures (Request.Logs ledger Stays.Even) (Execution.resumption event) (Move.Logged ledger)
      (Fell ledger) := by
  have resuming : Resuming .any (Request.Logs ledger Stays.Even) (Move.Logged ledger)
      (Fell ledger) :=
    { hush := fun h even => even.steps (.single h.quiet)
      flash := fun even => even
      goes := fun top here even => ⟨_, going_of_session even top here, logging.outing _ _⟩
      refuses := fun _ _ even => .of_even even _ }
  exact (resuming.resumption event).any

theorem exitPosition_logged (s : Session Flow) :
    Ensures (fun r => r.Logs ledger Stays.Even ∧ r.execution.states.head? = some s.state)
      (exitPosition s) (fun _ => Request.Logs ledger Stays.Loose) (Fell ledger) := by
  unfold exitPosition
  split
  · rename_i state found
    have place : s.state = some state.id :=
      congrArg Place.state (Place.of_state? (p := s.place) found).2
    refine (exitState_loose s.flow state).given ?_
    rintro r ⟨even, stands⟩
    rw [place] at stands
    exact Stays.Even.going even stands
  · exact .pure fun r ⟨even, _⟩ => Stays.Even.loose even

theorem consult_logged (e : ExecutionError) :
    Ensures (Request.Logs ledger Stays.Even) (consult e) (Move.Logged ledger) (Fell ledger) := by
  refine Upon.any (.consult (fun even => .of_even even _) fun {r s handler} top _ _ even => ?_)
  let P (r : Request) : Prop := r.Logs ledger Stays.Even ∧ r.execution.states.head? = some s.state
  have after : P (r.absorb (handler.handle e r.context).2) := by
    refine ⟨Request.Logs.steps (.single (.absorbed _)) even, ?_⟩
    rw [Request.states_absorb]
    exact Execution.head?_states top
  refine Ensures.given (P := P) ?_ fun _ same => same ▸ after
  refine .obey (fun _ _ r even => .of_even even.1 _) (fun _ _ even => even.1) fun target _ => ?_
  exact .reroute (exitPosition_logged s) (fun there _ loose => .inr ⟨there, loose⟩)
    fun _ _ even => .of_even even.1 _

/-- Also where an error has been shown to a handler. -/
theorem serve_logged {P : Request → Prop} {first : Engine Move}
    (h : Ensures P first (Move.Logged ledger) (Fell ledger)) :
    Ensures P (serve first) (fun _ => Request.Logs ledger Stays.Even) (Fell ledger) := by
  have paused : Ensures (Request.Logs ledger Stays.Even) pause
      (fun _ => Request.Logs ledger Stays.Even) (Fell ledger) := by
    have pauses : Does Quiet (fun _ => False) pause := .pause
    exact pauses.maintains (fun quiet even => even.steps (.single quiet)) fun none => none.elim
  refine .bind (.tryCatch (.bind h (proceed_logged moveLimit)) fun stop => ?_) fun _ => paused
  cases stop with
  | endless => exact fun _ fell => fell
  | raised e =>
    have recovers : Ensures (Fell ledger (.raised e)) (recover e) (Move.Logged ledger)
        (Fell ledger) := by
      rw [recover_eq]
      refine .modify (R := Request.Logs ledger Stays.Even) (fun r fell => ?_) (consult_logged e)
      have even := fell.2 e rfl
      unfold Request.Logs at even
      rwa [← r.log_thrown e] at even
    exact .bind recovers (proceed_logged moveLimit)

end Engine

/-! ## Calls -/

theorem Call.logged {ledger : List Entry} {x : Execution} (c : Call)
    (even : (Stays.of ledger).Even x.states) :
    (Stays.of (ledger ++ (c.answer x).journal)).Sound (c.answer x).execution.states ∧
      ((c.answer x).result ≠ .error .endless →
        (Stays.of (ledger ++ (c.answer x).journal)).Even (c.answer x).execution.states) := by
  by_cases admitted : c.Admitted x
  · rw [answer_of_admitted admitted]
    have begun : (c.opening x).Logs ledger Stays.Even := by
      cases c with
      | start input external directory =>
        unfold Request.Logs Request.log
        rwa [opening, Request.new, List.append_nil]
      | resume event external directory =>
        unfold Request.Logs
        rw [opening, Request.log_told, Request.log, Request.new, List.append_nil]
        exact even
    have moves : Engine.Ensures (Request.Logs ledger Stays.Even) (c.first x) (Move.Logged ledger)
        (Engine.Fell ledger) := by
      cases c with
      | start input _ _ => exact Engine.logging.opening fun _ => Engine.logging.opens
      | resume event _ _ => exact Engine.resumption_logged event
    have comes := Engine.serve_logged moves _ begun
    unfold Answer.ofOutcome
    split at comes
    · rename_i done r answered
      rw [answered]
      exact ⟨Stays.Even.toSound comes, fun _ => comes⟩
    · rename_i stop r failed
      rw [failed]
      refine ⟨comes.1, fun ends => ?_⟩
      cases stop with
      | raised e => exact comes.2 e rfl
      | endless => exact (ends rfl).elim
  · obtain ⟨reason, refused⟩ := answer_of_not_admitted admitted
    rw [refused]
    simpa [Execution.refuse] using ⟨even.toSound, even⟩

namespace Execution

theorem states_of_frames (x : Execution) : x.states = x.frames.map Session.state := by
  simp [states, frames, Function.comp_def, Session.frame, Session.map]

theorem Lives.even {stored : Nat} {x : Execution} {ledger : List Entry}
    (h : x.Lives stored ledger) : (Stays.of ledger).Even x.states := by
  induction h with
  | created flow listeners => exact ⟨⟨nofun, rfl⟩, nofun⟩
  | called h c ends ih => exact (c.logged ih).2 ends
  | keyed h key ih => exact ih
  | restored h had ih =>
    rw [states_of_frames, frames_restore had, frames_reread_snapshot]
    rw [states_of_frames] at ih
    simpa [Function.comp_def, Session.reread] using ih

end Execution

/-- **An exit action is not run again in a stay unless one has failed.** In any course of requests,
stored or not and whether they fail or not, every stay tells the exit actions that were run, of its
own state and one after the other from the first on. Between two runs of one of them an exit action
of the stay has failed, and where none does, each is run once at most. The stays that are not over
are those of the states in which the sessions stand. -/
theorem exits_in_turn {stored : Nat} {x : Execution} {ledger : List Entry}
    (lives : x.Lives stored ledger) (c : Call) :
    let log := Stays.of (ledger ++ (c.answer x).journal)
    log.now.map Stay.state = (c.answer x).execution.states ∧
      ∀ v ∈ log.all, v.Orderly ∧
        (∀ before e mid e' after, v.exits = before ++ e :: (mid ++ e' :: after) →
          e'.position = e.position → ∃ f ∈ e :: mid, f.passed = false) ∧
        ((∀ e ∈ v.exits, e.passed = true) →
          v.exits.map Exit.position = List.range v.exits.length) := by
  have sound := (c.logged lives.even).1
  refine ⟨sound.places, fun v mem => ?_⟩
  have orderly := sound.orderly v mem
  exact ⟨orderly, fun _ _ _ _ _ => orderly.failed_between, orderly.positions_of_passed⟩

/-! ## A second way out -/

/-- What cannot be done unless something has gone wrong before. -/
def stumble : Action := fun c =>
  if c.flash.contains "rootCauseException" then (.ok .success, c)
  else (.error ⟨"stumble", "step"⟩, c)

/-- There are two things to do on the way out, and a handler leads out as well. -/
def hall : State :=
  { State.waiting "hall" [⟨.event "go", [], some (.fixed "street"), .preserve, .empty⟩] with
    exit := [fun c => (.ok .success, c), stumble], handlers := [.transition ["*"] "street"] }

def house : Flow :=
  { Flow.blank "house" .empty with start := some "hall", states := [hall, .waiting "street" []] }

def arrive : Call := .start .empty caller fun _ => .ok house

def goOut : Call := .resume (some ⟨"go", .empty⟩) caller fun _ => .ok house

/-- The stay in the hall. -/
def hallStay : Stay :=
  ⟨some "hall", [⟨"hall", 0, true⟩, ⟨"hall", 1, false⟩, ⟨"hall", 0, true⟩, ⟨"hall", 1, true⟩]⟩

theorem hallStay_mem : ∃ x ledger, x.Lives 0 ledger ∧
    hallStay ∈ (Stays.of (ledger ++ (goOut.answer x).journal)).all := by
  have called := (Execution.Lives.created house []).called arrive (by rintro ⟨⟩)
  exact ⟨_, _, called, by decide⟩

/-- The hall is left after a stumble, and by then its first exit action was run twice. -/
theorem failure_between_repeated_exits :
    hallStay.Orderly ∧ hallStay.exits.map Exit.position = [0, 1, 0, 1] ∧
    ∃ f ∈ hallStay.exits.take 2, f.passed = false := by
  obtain ⟨x, ledger, lives, stayed⟩ := hallStay_mem
  obtain ⟨orderly, failed, -⟩ := (exits_in_turn lives goOut).2 hallStay stayed
  exact ⟨orderly, rfl, failed [] _ [⟨"hall", 1, false⟩] _ [⟨"hall", 1, true⟩] rfl rfl⟩

theorem exit_run_again :
    ¬ ∀ (stored : Nat) (x : Execution) (ledger : List Entry), x.Lives stored ledger → ∀ c : Call,
      ∀ v ∈ (Stays.of (ledger ++ (c.answer x).journal)).all, (v.exits.map Exit.position).Nodup := by
  intro once
  obtain ⟨x, ledger, lives, stayed⟩ := hallStay_mem
  have nodup := once 0 x ledger lives goOut hallStay stayed
  revert nodup
  decide

end Parley
