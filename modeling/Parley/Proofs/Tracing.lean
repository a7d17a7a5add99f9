import Parley.Proofs.Lives
import Parley.Proofs.Routing

/-!
# Parley.Proofs.Tracing

What listeners are told traces the stack of sessions. From call to call, whatever fails in between,
the sessions that were told to be starting and not told to have ended are those that there are.

* `openSessions`: the open sessions, by what was told. `Answered`: entries into states come when
  they were announced.
* `Request.Traced`: what was told so far agrees with the sessions that there are, and nobody was
  told of a pause. `Engine.proceed_traced`: so it stays from move to move.
* `callbacks_trace_sessions`: what this comes to at the end of every call.
-/

namespace Parley

/-! ## What was told -/

def Entry.notice? : Entry → Option (Hook × Context)
  | notice hook shown => some (hook, shown)
  | _ => none

def notices (entries : List Entry) : List (Hook × Context) := entries.filterMap Entry.notice?

def hooks (entries : List Entry) : List Hook := (notices entries).map Prod.fst

theorem notices_append (front rest : List Entry) :
    notices (front ++ rest) = notices front ++ notices rest := List.filterMap_append

theorem hooks_append (front rest : List Entry) :
    hooks (front ++ rest) = hooks front ++ hooks rest := by
  rw [hooks, notices_append, List.map_append]
  rfl

/-- The flows of the open sessions after an occurrence, innermost first. What is told of a session
once it is there must be told of the innermost one. -/
def Hook.follow (opened : List String) : Hook → Option (List String)
  | .sessionStarting flow _ => some (flow :: opened)
  | .sessionStarted flow => if opened.head? = some flow then some opened else none
  | .sessionEnded flow _ => if opened.head? = some flow then some opened.tail else none
  | _ => some opened

/-- The flows of the open sessions, innermost first, if all was told in order. -/
def openSessions (told : List Hook) : Option (List String) := told.foldlM Hook.follow []

theorem openSessions_append (front rest : List Hook) :
    openSessions (front ++ rest) = (openSessions front).bind fun opened =>
      rest.foldlM Hook.follow opened := List.foldlM_append

example : openSessions [.sessionStarting "outer" .empty, .sessionStarting "inner" .empty] =
    some ["inner", "outer"] := rfl

example : openSessions [.sessionStarting "outer" .empty, .sessionStarting "inner" .empty,
    .sessionEnded "outer" .empty] = none := rfl

/-- Whenever a state was told to have been entered, the last thing told before is that it was about
to, by the same session, which stood in the state that is named as the previous one. -/
def Answered (told : List (Hook × Context)) : Prop :=
  ∀ front previous state after rest,
    told = front ++ (.stateEntered previous state, after) :: rest →
      ∃ earlier before, front = earlier ++ [(.stateEntering state, before)] ∧
        before.state? = previous ∧ before.flow? = after.flow? ∧
        before.sessions.length = after.sessions.length

theorem Answered.nil : Answered [] := by
  intro front previous state after rest whole
  exact absurd whole.symm (List.append_ne_nil_of_right_ne_nil _ (List.cons_ne_nil _ _))

theorem Answered.told {told : List (Hook × Context)} (h : Answered told) {hook : Hook}
    {shown : Context}
    (last : ∀ previous state, hook = .stateEntered previous state →
      ∃ earlier before, told = earlier ++ [(.stateEntering state, before)] ∧
        before.state? = previous ∧ before.flow? = shown.flow? ∧
        before.sessions.length = shown.sessions.length) : Answered (told ++ [(hook, shown)]) := by
  intro front previous state after rest whole
  -- The entry is the one that was just told, or it was told before.
  rcases List.eq_nil_or_concat rest with rfl | ⟨rest, final, rfl⟩
  · obtain ⟨rfl, same⟩ := List.append_inj' whole rfl
    cases same
    exact last previous state rfl
  · rw [List.concat_eq_append, ← List.cons_append, ← List.append_assoc] at whole
    exact h front previous state after rest (List.append_inj' whole rfl).1

/-- What was told, taken together: the open sessions are of these flows, and entries are
answered. -/
structure Tells (ledger : List Entry) (flows : List String) : Prop where
  opened : openSessions (hooks ledger) = some flows
  answered : Answered (notices ledger)

namespace Tells

variable {ledger : List Entry} {flows flows' : List String}

theorem silent (h : Tells ledger flows) {ledger' : List Entry}
    (same : notices ledger' = notices ledger) : Tells ledger' flows := by
  constructor
  · rw [hooks, same]
    exact h.opened
  · rw [same]
    exact h.answered

/-- One more occurrence, which is answered if it is an entry. -/
theorem notice (h : Tells ledger flows) {hook : Hook} {shown : Context}
    (follows : hook.follow flows = some flows')
    (last : ∀ previous state, hook = .stateEntered previous state →
      ∃ earlier before, notices ledger = earlier ++ [(.stateEntering state, before)] ∧
        before.state? = previous ∧ before.flow? = shown.flow? ∧
        before.sessions.length = shown.sessions.length) :
    Tells (ledger ++ [.notice hook shown]) flows' := by
  constructor
  · rw [hooks_append, openSessions_append, h.opened]
    simp [hooks, notices, Entry.notice?, follows]
  · rw [notices_append]
    exact h.answered.told last

end Tells

/-! ## A request under way -/

def Execution.flows (x : Execution) : List String := x.sessions.map fun s => s.flow.id

theorem Execution.flows_of_session {x : Execution} {s : Session Flow} (top : x.session? = some s) :
    ∃ below, x.flows = s.flow.id :: below := by
  obtain ⟨rest, stack⟩ := List.head?_eq_some_iff.mp top
  exact ⟨rest.map fun s => s.flow.id, by rw [flows, stack]; rfl⟩

namespace Request

/-- Nothing was told in between, and the sessions are of the same flows. -/
structure Untold (r r' : Request) : Prop where
  flows : r'.execution.flows = r.execution.flows
  notices : notices r'.journal = notices r.journal

/-- After what was told before the request and during it, the open sessions are those that there
are, of these flows, and there was no pause. -/
structure Traced (ledger : List Entry) (flows : List String) (r : Request) : Prop where
  stack : r.execution.flows = flows
  tells : Tells (ledger ++ r.journal) flows
  unpaused : .paused ∉ hooks r.journal

/-- A step that leaves the sessions and what was told of them in agreement. -/
abbrev Tracing (ledger : List Entry) (flows : List String) (r r' : Request) : Prop :=
  r.Traced ledger flows → r'.Traced ledger flows

/-- What was told agrees with the sessions, whichever they are. -/
def InStep (ledger : List Entry) (r : Request) : Prop := ∃ flows, r.Traced ledger flows

/-- The last thing told is that the innermost session is entering the state from the previous
one. -/
structure Entering (ledger : List Entry) (flows : List String) (previous : Option String)
    (state : String) (r : Request) : Prop extends r.Traced ledger flows where
  last : ∃ earlier before,
    notices (ledger ++ r.journal) = earlier ++ [(.stateEntering state, before)] ∧
      before.state? = previous ∧ before.flow? = flows.head? ∧ before.sessions.length = flows.length

variable {ledger : List Entry} {flows flows' : List String} {r r' : Request}

theorem flows_updateSession {f : Session Flow → Session Flow} (flow : ∀ s, (f s).flow = s.flow)
    (r : Request) : (r.updateSession f).execution.flows = r.execution.flows := by
  unfold updateSession Execution.flows
  split <;> simp [*]

theorem flows_absorb (c : Context) (r : Request) :
    (r.absorb c).execution.flows = r.execution.flows := by
  unfold absorb adopt absorbSessions Execution.flows
  cases r.execution.sessions with
  | nil => rfl
  | cons s rest => cases c.session? <;> rfl

theorem flow?_context (r : Request) : r.context.flow? = r.execution.flows.head? := by
  cases stack : r.execution.sessions <;>
    simp [Execution.flows, context, Context.flow?, Context.session?, stack, Session.map]

theorem length_context (r : Request) : r.context.sessions.length = r.execution.flows.length := by
  simp [Execution.flows, context]

theorem state?_context {s : Session Flow} (top : r.execution.session? = some s) :
    r.context.state? = s.state := by
  obtain ⟨rest, stack⟩ := List.head?_eq_some_iff.mp top
  simp [context, Context.state?, Context.session?, stack, Session.map]

namespace Untold

theorem of_append (flows : r'.execution.flows = r.execution.flows) {added : List Entry}
    (journal : r'.journal = r.journal ++ added) (silent : Parley.notices added = []) :
    r.Untold r' :=
  ⟨flows, by rw [journal, notices_append, silent, List.append_nil]⟩

theorem updateSession {f : Session Flow → Session Flow} (flow : ∀ s, (f s).flow = s.flow)
    (r : Request) : r.Untold (r.updateSession f) := by
  refine ⟨r.flows_updateSession flow, ?_⟩
  obtain ⟨sessions, e⟩ := r.updateSession_eq f
  rw [e]

theorem absorb (c : Context) (r : Request) : r.Untold (r.absorb c) :=
  of_append (r.flows_absorb c) rfl (Entry.filterMap_ran (fun _ => rfl) (fun _ _ => rfl) ..)

theorem whole (h : r.Untold r') (ledger : List Entry) :
    Parley.notices (ledger ++ r'.journal) = Parley.notices (ledger ++ r.journal) := by
  rw [notices_append, h.notices, ← notices_append]

end Untold

namespace Traced

theorem untold (h : Traced ledger flows r) (untold : r.Untold r') : Traced ledger flows r' := by
  refine ⟨untold.flows.trans h.stack, h.tells.silent (untold.whole ledger), ?_⟩
  rw [hooks, untold.notices]
  exact h.unpaused

theorem notice (h : Traced ledger flows r) {hook : Hook} {shown : Context}
    (stack : r'.execution.flows = flows')
    (journal : r'.journal = r.journal ++ [.notice hook shown])
    (tells : Tells (ledger ++ r.journal ++ [.notice hook shown]) flows')
    (unpaused : hook ≠ .paused) : Traced ledger flows' r' := by
  refine ⟨stack, by rwa [journal, ← List.append_assoc], ?_⟩
  rw [journal, hooks_append, List.mem_append]
  rintro (earlier | now)
  · exact h.unpaused earlier
  · exact unpaused (List.mem_singleton.mp now).symm

/-- An occurrence that is no entry and changes nothing about the sessions. -/
theorem told (h : Traced ledger flows r) {hook : Hook} (follows : hook.follow flows = some flows)
    (unpaused : hook ≠ .paused) (other : ∀ previous state, hook ≠ .stateEntered previous state) :
    Traced ledger flows (r.told hook) :=
  h.notice h.stack rfl
    (h.tells.notice follows fun previous state same => absurd same (other previous state)) unpaused

theorem begun (h : Traced ledger flows r) (flow : Flow) (input : Attributes) :
    Traced ledger (flow.id :: flows)
      ((r.told (.sessionStarting flow.id input)).addSession (.fresh flow)) :=
  h.notice (congrArg (flow.id :: ·) h.stack) rfl (h.tells.notice rfl nofun) nofun

theorem started {flow : String} (h : Traced ledger (flow :: flows) r) :
    Traced ledger (flow :: flows) (r.told (.sessionStarted flow)) :=
  h.told (if_pos rfl) nofun nofun

theorem ended {flow : String} (h : Traced ledger (flow :: flows) r) (output : Attributes) :
    Traced ledger flows (r.dropSession.told (.sessionEnded flow output)) :=
  h.notice (List.map_tail.trans (congrArg List.tail h.stack)) rfl
    (h.tells.notice (if_pos rfl) nofun) nofun

theorem entering (h : Traced ledger flows r) {s : Session Flow}
    (top : r.execution.session? = some s) (state : String) :
    Entering ledger flows s.state state (r.told (.stateEntering state)) := by
  refine ⟨h.told rfl nofun nofun, notices (ledger ++ r.journal), r.context, ?_, state?_context top,
    ?_, ?_⟩
  · rw [Request.told, ← List.append_assoc, notices_append]
    rfl
  · rw [r.flow?_context, h.stack]
  · rw [r.length_context, h.stack]

theorem of_session (h : Traced ledger flows r) {s : Session Flow}
    (top : r.execution.session? = some s) : ∃ below, flows = s.flow.id :: below := by
  rw [← h.stack]
  exact Execution.flows_of_session top

end Traced

namespace Entering

variable {previous : Option String} {state : String}

theorem untold (h : Entering ledger flows previous state r) (untold : r.Untold r') :
    Entering ledger flows previous state r' := by
  refine ⟨h.toTraced.untold untold, ?_⟩
  rw [untold.whole ledger]
  exact h.last

theorem entered (h : Entering ledger flows previous state r) :
    Traced ledger flows (r.told (.stateEntered previous state)) := by
  refine h.toTraced.notice h.stack rfl (h.tells.notice rfl fun _ _ same => ?_) nofun
  cases same
  obtain ⟨earlier, before, told, from_there, flow, depth⟩ := h.last
  refine ⟨earlier, before, told, from_there, ?_, ?_⟩
  · rw [flow, r.flow?_context, h.stack]
  · rw [depth, r.length_context, h.stack]

end Entering

end Request

/-- The move is made by the innermost session. -/
def Move.Traced (ledger : List Entry) : Move → Request → Prop
  | .enter flow _, r => ∃ below, r.Traced ledger (flow.id :: below)
  | _, r => r.InStep ledger

theorem Move.Traced.inStep {ledger : List Entry} {move : Move} {r : Request}
    (h : move.Traced ledger r) : r.InStep ledger := by
  cases move with
  | enter flow target =>
    obtain ⟨below, traced⟩ := h
    exact ⟨_, traced⟩
  | _ => exact h

namespace Engine

variable {α β : Type} {ledger : List Entry} {flows : List String}

instance : Parting (Request.Tracing ledger flows) where
  hush {r r'} h traced := by
    cases h with
    | noticed hook passing =>
      cases hook with
      | eventSignaled | transitionExecuting | sessionEnding => exact traced.told rfl nofun nofun
      | _ => cases passing
    | absorbed c => exact traced.untold (.absorb c r)
    | status status =>
      exact traced.untold
        (.updateSession (f := fun s => { s with status := status }) (fun _ => rfl) r)
    | _ => exact traced.untold ⟨rfl, rfl⟩
  session r _ flow _ traced := traced.untold (.updateSession flow r)
  taken _ _ traced := traced.untold (.of_append rfl rfl rfl)
  fired _ _ traced := traced.untold (.of_append rfl rfl rfl)
  exited _ _ _ _ traced := traced.untold (.of_append rfl rfl rfl)

/-! ## Moves -/

/-- The innermost session is of the flow. -/
def Opened (ledger : List Entry) (flow : Flow) (r : Request) : Prop :=
  ∃ below, r.Traced ledger (flow.id :: below)

theorem Opened.inStep {flow : Flow} {r : Request} (h : Opened ledger flow r) : r.InStep ledger := by
  obtain ⟨below, traced⟩ := h
  exact ⟨_, traced⟩

theorem Opened.of_session {r : Request} {s : Session Flow} (inStep : r.InStep ledger)
    (top : r.execution.session? = some s) : Opened ledger s.flow r := by
  obtain ⟨flows, traced⟩ := inStep
  obtain ⟨below, rfl⟩ := traced.of_session top
  exact ⟨below, traced⟩

/-- What keeps every stack in agreement keeps the one there is. -/
instance {flow : Flow} : Parting fun r r' => Opened ledger flow r → Opened ledger flow r' where
  hush h := fun ⟨below, traced⟩ =>
    ⟨below, Hushed.hush (R := Request.Tracing ledger (flow.id :: below)) h traced⟩
  session r _ flow state := fun ⟨below, traced⟩ =>
    ⟨below, Stirring.session (R := Request.Tracing ledger (_ :: below)) r flow state traced⟩
  taken r t := fun ⟨below, traced⟩ =>
    ⟨below, Parting.taken (R := Request.Tracing ledger (flow.id :: below)) r t traced⟩
  fired r t := fun ⟨below, traced⟩ =>
    ⟨below, Parting.fired (R := Request.Tracing ledger (flow.id :: below)) r t traced⟩
  exited r state position passed := fun ⟨below, traced⟩ =>
    ⟨below, Parting.exited (R := Request.Tracing ledger (flow.id :: below)) r state position passed
      traced⟩

section

variable {flow : Flow} {state : State}

/-- What is told in a move follows what the move does. On the way into a state nothing is told but
that, so what was told last is what the entry answers. -/
theorem tracing : Course .any (fun flow _ => Opened ledger flow)
    (fun flow state previous r =>
      ∃ below, r.Entering ledger (flow.id :: below) previous state.id)
    (Request.InStep ledger) (Move.Traced ledger) (fun _ => Request.InStep ledger) where
  hush {flow _ r r'} h opened :=
    Hushed.hush (R := fun r r' => Opened ledger flow r → Opened ledger flow r') h opened
  session {flow _ r _} kept state opened :=
    Stirring.session (R := fun r r' => Opened ledger flow r → Opened ledger flow r') r kept state
      opened
  fails _ opened := opened.inStep
  astray _ _ _ _ opened := opened.inStep
  shows _ _ opened := opened.inStep
  leaves t target _ := by
    refine (depart_keeps (fun _ opened => opened.inStep) t target).gives ?_
    rintro _ r ⟨rfl, opened⟩
    exact opened
  calls _ _ _ opened := opened.inStep
  opens := fun ⟨flows, traced⟩ => ⟨flows, traced.begun _ _⟩
  started := fun ⟨below, traced⟩ => ⟨below, traced.started⟩
  enters {flow target state s r} _ top := fun ⟨below, traced⟩ =>
    ⟨below, (traced.entering top state.id).untold
      (.updateSession (f := fun s => { s with state := some state.id }) (fun _ => rfl) _)⟩
  acts c := fun ⟨below, entering⟩ => ⟨below, entering.untold (.absorb c _)⟩
  stumbles _ := fun ⟨_, entering⟩ => ⟨_, entering.toTraced⟩
  entered := fun ⟨below, entering⟩ => ⟨below, entering.entered⟩
  misses _ opened := Opened.inStep opened
  nobody _ _ := fun ⟨_, traced⟩ => ⟨_, traced.told rfl nofun nofun⟩
  finishes output _ := fun ⟨below, traced⟩ => ⟨below, (traced.ended output).untold ⟨rfl, rfl⟩⟩
  returns output _ := fun ⟨below, traced⟩ => ⟨below, traced.ended output⟩
  resumes top _ _ inStep := .of_session inStep top
  refuses _ _ inStep := inStep

/-- However many moves it takes. -/
theorem proceed_traced (limit : Nat) (move : Move) :
    Ensures (Move.Traced ledger move) (proceed limit move) (fun _ => Request.InStep ledger)
      fun _ => Request.InStep ledger :=
  tracing.proceeds (fun _ traced => traced.inStep) limit move

/-! ## Requests -/

theorem resumption_traced (event : Option Event) :
    Ensures (Request.InStep ledger) (Execution.resumption event) (Move.Traced ledger)
      fun _ => Request.InStep ledger := by
  have resuming : Resuming .any (Request.InStep ledger) (Move.Traced ledger)
      fun _ => Request.InStep ledger :=
    { hush := fun h ⟨flows, traced⟩ =>
        ⟨flows, Hushed.hush (R := Request.Tracing ledger flows) h traced⟩
      flash := fun ⟨flows, traced⟩ => ⟨flows, traced.untold ⟨rfl, rfl⟩⟩
      goes := fun top _ inStep => ⟨_, .of_session inStep top, tracing.outing _ _⟩
      refuses := fun _ _ inStep => inStep }
  exact (resuming.resumption event).any

theorem recover_traced (e : ExecutionError) :
    Ensures (Request.InStep ledger) (recover e) (Move.Traced ledger)
      fun _ => Request.InStep ledger := by
  rw [recover_eq]
  refine .modify (R := Request.InStep ledger) ?_
    (Upon.any (.consult (fun inStep => inStep) fun {r s handler} top _ _ inStep => ?_))
  · rintro r ⟨flows, traced⟩
    exact ⟨flows, traced.told rfl nofun nofun⟩
  have after : Opened ledger s.flow (r.absorb (handler.handle e r.context).2) :=
    Hushed.hush (R := fun r r' => Opened ledger s.flow r → Opened ledger s.flow r') (.absorbed _)
      (.of_session inStep top)
  refine Ensures.given (P := Opened ledger s.flow) ?_ fun _ same => same ▸ after
  refine .obey (fun _ _ _ opened => opened.inStep) (fun _ _ opened => opened.inStep)
    fun target _ => ?_
  have exits : Does (fun r r' => Opened ledger s.flow r → Opened ledger s.flow r')
    (s.flow.FailsIn s.state) (exitPosition s) := .exitPosition s
  exact .reroute (exits.maintains (fun step => step) fun _ opened => opened.inStep)
    (fun _ _ opened => opened) fun _ _ opened => opened.inStep

/-- Until it pauses a request tells of no pause, whatever it comes to. -/
theorem settle_traced {P : Request → Prop} {first : Engine Move}
    (h : Ensures P first (Move.Traced ledger) fun _ => Request.InStep ledger) :
    Ensures P (settle first) (fun _ => Request.InStep ledger) fun _ => Request.InStep ledger := by
  refine .tryCatch (.bind h fun move => proceed_traced moveLimit move) fun stop => ?_
  cases stop with
  | endless => exact fun _ inStep => inStep
  | raised e => exact .bind (recover_traced e) fun move => proceed_traced moveLimit move

/-- What is told of the pause, if there is one. -/
def pauses (active : Bool) : List Hook := if active then [.paused] else []

/-- A pause is told last, and only where there is one. -/
theorem pause_traced :
    Ensures (Request.InStep ledger) pause
      (fun _ r => Tells (ledger ++ r.journal) r.execution.flows ∧
        ∃ earlier, .paused ∉ earlier ∧
          hooks r.journal = earlier ++ pauses r.execution.isActive) fun _ _ => False := by
  refine .read fun r ⟨flows, traced⟩ => ?_
  by_cases active : r.execution.isActive = true
  · rw [if_pos active]
    refine .modify (R := fun r => r.Traced ledger flows ∧ r.execution.isActive = true) ?_ ?_
    · rintro r rfl
      obtain ⟨sessions, e⟩ := r.updateSession_eq fun s => { s with status := .paused }
      refine ⟨traced.untold (.updateSession (f := fun s => { s with status := .paused })
        (fun _ => rfl) r), ?_⟩
      rw [e]
      exact active
    · rintro r ⟨traced, active⟩
      have tells : Tells (ledger ++ r.journal ++ [.notice .paused r.context]) flows :=
        traced.tells.notice rfl nofun
      have told : hooks (r.told .paused).journal = hooks r.journal ++ pauses true :=
        hooks_append r.journal _
      rw [List.append_assoc, ← traced.stack] at tells
      rw [← active] at told
      exact ⟨tells, hooks r.journal, traced.unpaused, told⟩
  · rw [if_neg active]
    refine .pure ?_
    rintro r rfl
    refine ⟨traced.stack ▸ traced.tells, hooks r.journal, traced.unpaused, ?_⟩
    simp [pauses, active]

theorem serve_traced {P : Request → Prop} {first : Engine Move}
    (h : Ensures P first (Move.Traced ledger) fun _ => Request.InStep ledger) :
    Ensures P (serve first)
      (fun _ r => Tells (ledger ++ r.journal) r.execution.flows ∧
        ∃ earlier, .paused ∉ earlier ∧ hooks r.journal = earlier ++ pauses r.execution.isActive)
      fun _ => Request.InStep ledger :=
  .bind (settle_traced h) fun _ => pause_traced.stops fun _ _ => False.elim

theorem serve_announces {first : Engine Move} (silent : MadeOf Silent first) {r : Request}
    (unannounced : r.errors = []) : (outcome (serve first) r).2.errors.length ≤ 1 := by
  have moves : MadeOf Silent (first >>= proceed moveLimit) :=
    .bind silent fun move => .proceed accounts_silent moveLimit move
  have before := (moves.errors_eq r).trans unannounced
  -- Only an error among the moves is announced, and what comes after it is silent.
  rcases came : outcome (first >>= proceed moveLimit) r with ⟨stop | done, r'⟩ <;>
    rw [came] at before
  · cases stop with
    | raised e =>
      have once : (r'.told (.exceptionThrown e)).errors = r'.errors ++ [e] := List.filterMap_append
      rw [outcome_serve_raised came, (afterError_silent e).errors_eq, once, before]
      exact Nat.le_refl 1
    | endless =>
      rw [outcome_serve_endless came, before]
      exact Nat.zero_le 1
  · have silent : MadeOf Silent pause := (Does.pause (E := fun _ => True)).madeOf
    rw [outcome_serve_done came, silent.errors_eq, before]
    exact Nat.zero_le 1

end

end Engine

/-! ## Calls -/

/-- What listeners are told in a call, after all that they were told before. -/
structure Answer.Reports (ledger : List Entry) (a : Answer) : Prop where
  tells : Tells (ledger ++ a.journal) a.execution.flows
  thrown : (a.journal.filterMap Entry.error?).length ≤ 1
  paused : ∃ earlier, .paused ∉ earlier ∧
    hooks a.journal = earlier ++ Engine.pauses (a.result.isOk && a.execution.isActive)

namespace Call

variable {ledger : List Entry} {x : Execution}

theorem opening_traced (tells : Tells ledger x.flows) (c : Call) :
    (c.opening x).Traced ledger x.flows := by
  have new (status : ExecutionStatus) (external : External) (directory : Directory) :
      (Request.new { x with status := status, history := .preserve } external directory).Traced
        ledger x.flows := ⟨rfl, by rwa [Request.new, List.append_nil], List.not_mem_nil⟩
  cases c with
  | start input external directory => exact new _ external directory
  | resume event external directory =>
    have told : ((Request.new { x with history := .preserve } external directory).told
        .resuming).Traced ledger x.flows := by
      refine (new x.status external directory).told rfl (fun same => ?_) fun _ _ same => ?_
      · cases same
      · cases same
    exact told

theorem first_traced (x : Execution) (c : Call) (flows : List String) :
    Engine.Ensures (Request.Traced ledger flows) (c.first x) (Move.Traced ledger)
      fun _ => Request.InStep ledger := by
  cases c with
  | start input _ _ =>
    exact Engine.tracing.opening fun _ traced => Engine.tracing.opens ⟨flows, traced⟩
  | resume event _ _ =>
    exact (Engine.resumption_traced event).given fun _ traced => ⟨flows, traced⟩

/-- Whatever errors there are, and also if the call is refused. -/
theorem reports (tells : Tells ledger x.flows) (c : Call) : (c.answer x).Reports ledger := by
  by_cases admitted : c.Admitted x
  · rw [answer_of_admitted admitted]
    have thrown := Engine.serve_announces (c.first_silent x) (c.opening_errors x)
    have served := Engine.serve_traced (c.first_traced x x.flows) (c.opening x)
      (c.opening_traced tells)
    unfold Answer.ofOutcome
    split at served
    · rename_i came
      rw [came] at thrown ⊢
      exact ⟨served.1, thrown, served.2⟩
    · rename_i came
      rw [came] at thrown ⊢
      obtain ⟨flows, traced⟩ := served
      exact ⟨traced.stack ▸ traced.tells, thrown, _, traced.unpaused, (List.append_nil _).symm⟩
  · obtain ⟨reason, refused⟩ := answer_of_not_admitted admitted
    rw [refused]
    exact ⟨by rwa [Execution.refuse, List.append_nil], Nat.zero_le 1, [], List.not_mem_nil, rfl⟩

end Call

namespace Execution

def ledger (x : Execution) : List Call → List Entry
  | [] => []
  | c :: rest => (c.answer x).journal ++ (c.answer x).execution.ledger rest

/-- What one call keeps, any number of calls keep. -/
theorem tells_after {told : List Entry} {x : Execution} (tells : Tells told x.flows)
    (calls : List Call) : Tells (told ++ x.ledger calls) (x.after calls).flows := by
  induction calls generalizing told x with
  | nil => rwa [ledger, List.append_nil]
  | cons c rest ih =>
    rw [ledger, ← List.append_assoc]
    exact ih (Call.reports tells c).tells

theorem create_tells (flow : Flow) (listeners : List Listener) :
    Tells [] (create flow listeners).flows := ⟨rfl, .nil⟩

end Execution

/-- **What listeners are told traces the stack of sessions.** After any calls on an execution,
whatever flows, actions and handlers there are and whatever goes wrong, all that was told of
sessions was told in order, and those that are open then are the sessions on the stack. Every entry
into a state was told right after it was to come, in the same session, with the state in which that
session stood then. A call announces one error at most. It tells of one pause, at its very end, if
it succeeds and the execution is still active, and otherwise of none. -/
theorem callbacks_trace_sessions (flow : Flow) (listeners : List Listener) (calls : List Call)
    (c : Call) :
    let created := Execution.create flow listeners
    let a := c.answer (created.after calls)
    let told := created.ledger calls ++ a.journal
    openSessions (hooks told) = some (a.execution.sessions.map fun s => s.flow.id) ∧
      Answered (notices told) ∧ (a.journal.filterMap Entry.error?).length ≤ 1 ∧
      ∃ earlier, .paused ∉ earlier ∧ hooks a.journal =
        earlier ++ if a.result.isOk && a.execution.isActive then [.paused] else [] := by
  intro created a told
  have before : Tells (created.ledger calls) (created.after calls).flows :=
    Execution.tells_after (Execution.create_tells flow listeners) calls
  have reports := Call.reports before c
  exact ⟨reports.tells.opened, reports.tells.answered, reports.thrown, reports.paused⟩

end Parley
