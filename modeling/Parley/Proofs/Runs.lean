import Parley.Proofs.Routing

/-!
# Parley.Proofs.Runs

What a request runs. Whatever a flow has done with the context leaves an entry in the journal: an
action, a guard, a handler or a mapping. So it can be said of two moments of a request that certain
actions were run from the one to the other, in which order, and that nothing else was.

* `Ran`: these actions and nothing else, between two moments.
* `Engine.outcome_runAction_ok`, `Engine.outcome_runAction_error`: an action comes to an event or
  fails, and it was run either way.
* `Execution.PausedIn`: where requests on an execution that waits begin.
-/

namespace Parley

/-! ## Runs -/

/-- What the request showed before and after something was run. -/
def Entry.run? : Entry → Option (Context × Context)
  | .ran before after => some (before, after)
  | _ => none

namespace Request

/-- All that was run so far, in order. -/
def runs (r : Request) : List (Context × Context) := r.journal.filterMap Entry.run?

/-- The request after an action, whatever that came to. -/
def acted (a : Action) (r : Request) : Request := r.absorb (a r.context).2

/-- The request once an event is signaled. -/
def signaled (event : Event) (r : Request) : Request :=
  Request.told (.eventSignaled event) { r with event := some event }

variable (r : Request)

theorem runs_of_append {r r' : Request} {entries : List Entry}
    (journal : r'.journal = r.journal ++ entries) :
    r'.runs = r.runs ++ entries.filterMap Entry.run? := by
  rw [runs, journal, List.filterMap_append, ← runs]

theorem runs_told (hook : Hook) : (r.told hook).runs = r.runs := by
  rw [runs_of_append (r := r) rfl]
  exact List.append_nil _

theorem runs_signaled (event : Event) : (r.signaled event).runs = r.runs := runs_told _ _

theorem runs_updateSession (f : Session Flow → Session Flow) :
    (r.updateSession f).runs = r.runs := by
  obtain ⟨sessions, e⟩ := r.updateSession_eq f
  rw [e]
  rfl

theorem runs_acted (a : Action) :
    (r.acted a).runs = r.runs ++ [(r.context, (r.acted a).context)] := by
  have noted (notes : List Value) : (notes.map Entry.note).filterMap Entry.run? = [] := by
    rw [List.filterMap_map]
    exact List.filterMap_eq_nil_iff.mpr fun _ _ => rfl
  rw [runs_of_append (r := r) rfl, List.filterMap_append, noted]
  rfl

theorem stance_acted (a : Action) : (r.acted a).execution.stance = r.execution.stance :=
  Execution.stance_absorb _ _

end Request

/-- The one context is what the action has made of the other. -/
def Action.Did (a : Action) (run : Context × Context) : Prop :=
  ∃ r : Request, run = (r.context, (r.acted a).context)

/-- From the one moment of a request to the other these actions were run, each once and in this
order, and nothing else was. -/
def Ran (actions : List Action) (r r' : Request) : Prop :=
  ∃ runs, r'.runs = r.runs ++ runs ∧ List.Forall₂ Action.Did actions runs

namespace Ran

variable {front rest : List Action} {r r' r'' : Request}

theorem nothing (same : r'.runs = r.runs) : Ran [] r r' := ⟨[], by simpa using same, .nil⟩

theorem acted (a : Action) (r : Request) : Ran [a] r (r.acted a) :=
  ⟨_, r.runs_acted a, .cons ⟨r, rfl⟩ .nil⟩

theorem append (first : Ran front r r') (later : Ran rest r' r'') : Ran (front ++ rest) r r'' := by
  obtain ⟨runs, made, did⟩ := first
  obtain ⟨runs', made', did'⟩ := later
  refine ⟨runs ++ runs', ?_, List.rel_append did did'⟩
  rw [made', made, List.append_assoc]

/-- What runs nothing may come before or after. -/
theorem before (h : Ran rest r r') (same : r.runs = r''.runs) : Ran rest r'' r' := by
  rw [← List.nil_append rest]
  exact (Ran.nothing same).append h

theorem after (h : Ran rest r r') (same : r''.runs = r'.runs) : Ran rest r r'' := by
  rw [← List.append_nil rest]
  exact h.append (.nothing same)

end Ran

namespace Engine

variable {flow : Flow} {state : Option State} {a : Action} {r : Request}

theorem outcome_runAction_ok {event : Event} (comes : (a r.context).1 = .ok event) :
    outcome (runAction flow state a) r = (.ok event, r.acted a) := by
  have done : outcome (within a) r = (.ok (a r.context).1, r.acted a) := rfl
  rw [runAction, outcome_bind, done, comes]
  rfl

theorem outcome_runAction_error {cause : ActionError} (fails : (a r.context).1 = .error cause) :
    outcome (runAction flow state a) r =
      (.error (.raised (.actionExecution flow.id (state.map State.id) cause)), r.acted a) := by
  have done : outcome (within a) r = (.ok (a r.context).1, r.acted a) := rfl
  rw [runAction, outcome_bind, done, fails]
  rfl

end Engine

/-! ## Where requests begin -/

/-- The execution is under way, and its innermost session is paused in this state, a view. -/
structure Execution.PausedIn (x : Execution) (s : Session Flow) (state : State) : Prop where
  active : x.isActive = true
  top : x.session? = some s
  paused : s.status = .paused
  here : s.place.state? = some state
  view : state.isView = true

namespace Execution.PausedIn

variable {x : Execution} {s : Session Flow} {state : State}

theorem session (h : x.PausedIn s state) :
    s.state = some state.id ∧ s.flow.state? state.id = some state := by
  obtain ⟨found, place⟩ := Place.of_state? h.here
  exact ⟨congrArg Place.state place, found⟩

/-- Whoever asks where the execution stands is told so. -/
theorem outcome_position (h : x.PausedIn s state) {r : Request}
    (same : r.execution.session? = some s) :
    Engine.outcome Engine.position r = (.ok (s.flow, state.id), r) := by
  have looked : Engine.outcome MonadState.get r = (.ok r, r) := rfl
  simp only [Engine.position, Engine.outcome_bind, looked, same, h.session.1]
  rfl

end Execution.PausedIn

end Parley
