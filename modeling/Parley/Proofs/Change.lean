import Mathlib.Logic.Relation
import Parley.Proofs.Journal

/-!
# Parley.Proofs.Change

What the engine can do to a request. Most of its work only touches the request (`Touch`): it leaves
every session where it stands, and what goes wrong on the way is laid to the flow that it was done
for, and to the state if it was done in one (`Engine.Touched`). What is left is moving: a session
enters a state, begins or ends. All work on a request is made of such changes (`Change`), and of
nothing else (`Engine.Tracked`), and none of it depends on what the journal says. What every kind of
change preserves, or every kind but one, holds of whole requests by induction over their changes.
That a session begins is told just before, and that it has ended, just after; so telling is part of
these changes.

Most touches are quiet (`Quiet`), and all that a transition adds to them is the way out of a state.
So what a piece of work does is known for every kind of step that allows for quiet touches, or for
these and the way out (`Engine.Does` under `Quietly` and `Leaving`). Of the quiet touches most work
needs only those that tell little and leave the scopes to the flow (`Hush`); what that work does is
known for every kind of step that allows for these (`Hushed`, `Stirring` and `Parting`).
-/

namespace Parley

/-- What is told as long as no session begins or has ended. -/
def Hook.inner : Hook → Bool
  | .sessionStarting .. | .sessionEnded .. => false
  | _ => true

/-- What is told while no session begins, ends or enters a state, and nothing goes wrong. -/
def Hook.plain : Hook → Bool
  | .stateEntering _ | .exceptionThrown _ => false
  | hook => hook.inner

theorem Hook.inner_of_plain {hook : Hook} (plain : hook.plain = true) : hook.inner = true := by
  cases hook <;> first | rfl | exact plain

/-- What is told of an event, of a transition and of a session that is about to end. -/
def Hook.passing : Hook → Bool
  | .eventSignaled _ | .transitionExecuting _ | .sessionEnding .. => true
  | _ => false

theorem Hook.plain_of_passing {hook : Hook} (passing : hook.passing = true) :
    hook.plain = true := by
  cases hook <;> first | rfl | exact passing

/-- The request with nothing in flash scope. -/
def Request.clearFlash (r : Request) : Request :=
  { r with execution := { r.execution with flash := .empty } }

/-- A change that leaves every session where it stands. -/
inductive Touch : Request → Request → Prop where
  | noticed {r : Request} (hook : Hook) (inner : hook.inner = true) : Touch r (r.told hook)
  | absorbed {r : Request} (c : Context) : Touch r (r.absorb c)
  | session {r : Request} (f : Session Flow → Session Flow) (flow : ∀ s, (f s).flow = s.flow)
      (state : ∀ s, (f s).state = s.state) : Touch r (r.updateSession f)
  | event {r : Request} (e : Event) : Touch r { r with event := some e }
  | transition {r : Request} (text : String) : Touch r { r with transition := some text }
  | flash {r : Request} : Touch r r.clearFlash
  | view {r : Request} (v : RenderedView) :
      Touch r { r with execution := { r.execution with view := some v } }
  | taken {r : Request} (t : Transition) : Touch r (r.take t)
  | fired {r : Request} (t : Transition) : Touch r (r.fire t)
  | exited {r : Request} (state : String) (position : Nat) (passed : Bool) :
      Touch r (r.leave state position passed)

/-- Touch after touch. -/
abbrev Touches : Request → Request → Prop := Relation.ReflTransGen Touch

/-- A touch that is no part of the way out of a state and tells of nothing but what is plain. -/
inductive Quiet : Request → Request → Prop where
  | noticed {r : Request} (hook : Hook) (plain : hook.plain = true) : Quiet r (r.told hook)
  | absorbed {r : Request} (c : Context) : Quiet r (r.absorb c)
  | session {r : Request} (f : Session Flow → Session Flow) (flow : ∀ s, (f s).flow = s.flow)
      (state : ∀ s, (f s).state = s.state) : Quiet r (r.updateSession f)
  | event {r : Request} (e : Event) : Quiet r { r with event := some e }
  | transition {r : Request} (text : String) : Quiet r { r with transition := some text }
  | view {r : Request} (v : RenderedView) :
      Quiet r { r with execution := { r.execution with view := some v } }

theorem Quiet.touch {r r' : Request} (h : Quiet r r') : Touch r r' := by
  cases h with
  | noticed hook plain => exact .noticed hook (Hook.inner_of_plain plain)
  | absorbed c => exact .absorbed c
  | session f flow state => exact .session f flow state
  | event e => exact .event e
  | transition text => exact .transition text
  | view v => exact .view v

/-- A quiet touch that tells only what is passing, and that changes no scope but as something of a
flow does. -/
inductive Hush : Request → Request → Prop where
  | noticed {r : Request} (hook : Hook) (passing : hook.passing = true) : Hush r (r.told hook)
  | absorbed {r : Request} (c : Context) : Hush r (r.absorb c)
  | status {r : Request} (status : SessionStatus) :
      Hush r (r.updateSession fun s => { s with status := status })
  | event {r : Request} (e : Event) : Hush r { r with event := some e }
  | transition {r : Request} (text : String) : Hush r { r with transition := some text }
  | view {r : Request} (v : RenderedView) :
      Hush r { r with execution := { r.execution with view := some v } }

theorem Hush.quiet {r r' : Request} (h : Hush r r') : Quiet r r' := by
  cases h with
  | noticed hook passing => exact .noticed hook (Hook.plain_of_passing passing)
  | absorbed c => exact .absorbed c
  | status status => exact .session _ (fun _ => rfl) fun _ => rfl
  | event e => exact .event e
  | transition text => exact .transition text
  | view v => exact .view v

/-- Steps that allow for hushed touches. -/
class Hushed (R : Request → Request → Prop) : Prop where
  hush : ∀ {r r'}, Hush r r' → R r r'

/-- Steps that allow for changes of the innermost session as well. -/
class Stirring (R : Request → Request → Prop) : Prop extends Hushed R where
  session : ∀ r {f : Session Flow → Session Flow}, (∀ s, (f s).flow = s.flow) →
    (∀ s, (f s).state = s.state) → R r (r.updateSession f)

/-- Steps that allow for quiet touches. -/
class Quietly (R : Request → Request → Prop) : Prop where
  quiet : ∀ {r r'}, Quiet r r' → R r r'

/-- Steps that allow for the way out of a state as well, with little told. -/
class Parting (R : Request → Request → Prop) : Prop extends Stirring R where
  taken : ∀ r t, R r (Request.take t r)
  fired : ∀ r t, R r (Request.fire t r)
  exited : ∀ r state position passed, R r (Request.leave state position passed r)

/-- Steps that allow for quiet touches and for the way out of a state. -/
class Leaving (R : Request → Request → Prop) : Prop extends Quietly R where
  taken : ∀ r t, R r (Request.take t r)
  fired : ∀ r t, R r (Request.fire t r)
  exited : ∀ r state position passed, R r (Request.leave state position passed r)

instance {R : Request → Request → Prop} [Quietly R] : Stirring R where
  hush h := Quietly.quiet h.quiet
  session _ _ flow state := Quietly.quiet (.session _ flow state)

instance {R : Request → Request → Prop} [Leaving R] : Parting R where
  taken := Leaving.taken
  fired := Leaving.fired
  exited := Leaving.exited

instance : Quietly Quiet := ⟨fun h => h⟩

instance : Leaving Touch where
  quiet := Quiet.touch
  taken _ := .taken
  fired _ := .fired
  exited _ := .exited

/-- What takes neither notes nor runs out of a journal takes nothing out of what a run adds. -/
theorem Entry.filterMap_ran {α : Type} {f : Entry → Option α} (unnoted : ∀ v, f (.note v) = none)
    (unrun : ∀ before after, f (.ran before after) = none) (notes : List Value)
    (before after : Context) : (notes.map note ++ [ran before after]).filterMap f = [] := by
  rw [List.filterMap_append, List.filterMap_map, List.append_eq_nil_iff]
  exact ⟨List.filterMap_eq_nil_iff.2 fun v _ => unnoted v, by simp [unrun]⟩

/-- A single change of a request. -/
inductive Change : Request → Request → Prop where
  | touched {r r' : Request} (h : Touch r r') : Change r r'
  | entered {r : Request} (state : String) :
      Change r (r.updateSession fun s => { s with state := some state })
  | begun {r : Request} (flow : Flow) (input : Attributes) :
      Change r ((r.told (.sessionStarting flow.id input)).addSession (.fresh flow))
  | left {r : Request} (flow : Flow) (output : Attributes) :
      Change r (r.dropSession.told (.sessionEnded flow.id output))
  | ended {r : Request} (o : Outcome) :
      Change r { r with execution := { r.execution with status := .ended, outcome := some o } }

/-- Change after change. -/
abbrev Changes : Request → Request → Prop := Relation.ReflTransGen Change

/-- The error is laid to the flow. -/
def Flow.Raises (flow : Flow) (e : ExecutionError) : Prop := e.flow? = some flow.id

/-- The state that the error tells of. -/
def ExecutionError.state? : ExecutionError → Option String
  | actionExecution _ state _ => state
  | noMatchingTransition _ state _ => some state
  | noMatchingActionResult _ state _ => some state
  | transitionVetoed _ state _ => some state
  | targetStateNotFound _ state _ => some state
  | subflowNotFound _ state _ => some state
  | mapping .. | evaluation .. | illegalState _ => none

/-- The error is laid to the flow, and if it tells of a state, that is the one given. -/
def Flow.RaisesIn (flow : Flow) (state : Option String) (e : ExecutionError) : Prop :=
  flow.Raises e ∧ ∀ id, e.state? = some id → state = some id

/-- The error tells of a state that was missed. -/
def ExecutionError.missed : ExecutionError → Bool
  | targetStateNotFound .. => true
  | _ => false

/-- The error is laid to the flow and to the state as well, and it tells of no state that was
missed. -/
def Flow.FailsIn (flow : Flow) (state : Option String) (e : ExecutionError) : Prop :=
  flow.RaisesIn state e ∧ e.missed = false

namespace Engine

variable {α β : Type}

/-- All that the work does to a request is made of steps of a kind, and it is the same whatever the
journal says. -/
structure MadeOf (R : Request → Request → Prop) (x : Engine α) : Prop where
  steps : ∀ r, Relation.ReflTransGen R r (outcome x r).2
  blind : Blind x

namespace MadeOf

variable {R : Request → Request → Prop}

theorem pure (a : α) : MadeOf R (Pure.pure a) := ⟨fun _ => .refl, .pure a⟩

theorem throw (stop : Stop) : MadeOf R (throw stop : Engine α) := ⟨fun _ => .refl, .throw stop⟩

theorem raise (e : ExecutionError) : MadeOf R (raise e : Engine α) := throw _

theorem look {f : Request → Engine β} (same : ∀ earlier r, f (r.after earlier) = f r)
    (h : ∀ r, MadeOf R (f r)) : MadeOf R (MonadState.get >>= f) :=
  ⟨fun r => (h r).steps r, .look same fun r => (h r).blind⟩

/-- Two changes of the request that are one step. -/
theorem both {f g : Request → Request} {x : Engine α}
    (first : ∀ earlier r, f (r.after earlier) = (f r).after earlier)
    (second : ∀ earlier r, g (r.after earlier) = (g r).after earlier)
    (h : ∀ r, R r (g (f r))) (hx : MadeOf R x) : MadeOf R (do modify f; modify g; x) :=
  ⟨fun r => .head (h r) (hx.steps (g (f r))),
    .bind (.modify first) fun _ => .bind (.modify second) fun _ => hx.blind⟩

theorem modify {f : Request → Request}
    (same : ∀ earlier r, f (r.after earlier) = (f r).after earlier) (h : ∀ r, R r (f r)) :
    MadeOf R (modify f : Engine Unit) := ⟨fun r => .single (h r), .modify same⟩

theorem tell {hook : Hook} (h : ∀ r, R r (Request.told hook r)) : MadeOf R (notify hook) :=
  modify (fun earlier r => r.told_after earlier hook) h

theorem session {f : Session Flow → Session Flow} (h : ∀ r, R r (Request.updateSession f r)) :
    MadeOf R (updateSession f) :=
  modify (fun earlier r => r.updateSession_after earlier f) h

theorem within {g : Context → α × Context} (h : ∀ r c, R r (Request.absorb r c)) :
    MadeOf R (within g) := ⟨fun r => .single (h r (g r.context).2), .within g⟩

theorem bind {x : Engine α} {f : α → Engine β} (hx : MadeOf R x) (hf : ∀ a, MadeOf R (f a)) :
    MadeOf R (x >>= f) := by
  refine ⟨fun r => ?_, .bind hx.blind fun a => (hf a).blind⟩
  rw [outcome_bind]
  have steps := hx.steps r
  split
  · rename_i a r' h
    rw [h] at steps
    exact steps.trans ((hf a).steps r')
  · rename_i e r' h
    rwa [h] at steps

theorem tryCatch {x : Engine α} {f : Stop → Engine α} (hx : MadeOf R x)
    (hf : ∀ stop, MadeOf R (f stop)) : MadeOf R (tryCatch x f) := by
  refine ⟨fun r => ?_, .tryCatch hx.blind fun stop => (hf stop).blind⟩
  rw [outcome_tryCatch]
  have steps := hx.steps r
  split
  · rename_i a r' h
    rwa [h] at steps
  · rename_i e r' h
    rw [h] at steps
    exact steps.trans ((hf e).steps r')

end MadeOf

/-- The work takes a request through steps of a kind, and whatever error it raises is one of
these. -/
structure Does (R : Request → Request → Prop) (E : ExecutionError → Prop) (x : Engine α) :
    Prop where
  madeOf : MadeOf R x
  raised : ∀ r stop, (outcome x r).1 = .error stop → ∃ e, stop = .raised e ∧ E e

/-- The work only touches a request. -/
abbrev Touched (E : ExecutionError → Prop) (x : Engine α) : Prop := Does Touch E x

/-- The way on that a handler has chosen. -/
def obey (session : Session Flow) : Except ExecutionError Handling → Engine Move
  | .error e => raise e
  | .ok .handled => return .rest
  | .ok (.enterState target) => reroute session target

/-- The way on after an error that has been announced. -/
def consult (e : ExecutionError) : Engine Move := do
  match (← get).execution.session? with
  | none => raise e
  | some session =>
    match handlerFor session.flow (session.state.bind session.flow.state?) e with
    | none => raise e
    | some handler => obey session (← within (handler.handle e))

/-- An event arrives at the current state, once the flash scope is cleared. -/
def arrive (event : Event) : Engine Move := do
  signal event
  let (flow, stateId) ← position
  match flow.state? stateId with
  | none => raise (.illegalState s!"state '{stateId}' no longer exists in flow '{flow.id}'")
  | some state =>
    updateSession fun s => { s with status := .active }
    takeTransition flow state

theorem handleEvent_eq (event : Event) :
    handleEvent event = (do modify Request.clearFlash; arrive event) := rfl

theorem recover_eq (e : ExecutionError) :
    recover e = (do notify (.exceptionThrown e); consult e) := rfl

/-- A state is entered, once it is told that it will be. -/
def entrance (flow : Flow) (state : State) : Engine Move := do
  match (← get).execution.session? with
  | none => raise (.illegalState "no active flow session")
  | some session =>
    updateSession fun s => { s with state := some state.id }
    runActions flow (some state) state.entry
    notify (.stateEntered session.state state.id)
    enterKind flow state

theorem enterState_eq {flow : Flow} {target : String} {state : State}
    (found : flow.state? target = some state) :
    enterState flow target = (do notify (.stateEntering state.id); entrance flow state) := by
  rw [enterState, found]
  rfl

namespace Does

variable {R : Request → Request → Prop} {E : ExecutionError → Prop}

theorem pure (a : α) : Does R E (Pure.pure a) := ⟨.pure a, fun _ => nofun⟩

theorem raise {e : ExecutionError} (h : E e) : Does R E (raise e : Engine α) := by
  refine ⟨.raise e, fun _ stop failed => ?_⟩
  cases failed
  exact ⟨e, rfl, h⟩

theorem look {f : Request → Engine β} (same : ∀ earlier r, f (r.after earlier) = f r)
    (h : ∀ r, Does R E (f r)) : Does R E (MonadState.get >>= f) :=
  ⟨.look same fun r => (h r).madeOf, fun r => (h r).raised r⟩

theorem modify {f : Request → Request}
    (same : ∀ earlier r, f (r.after earlier) = (f r).after earlier) (h : ∀ r, R r (f r)) :
    Does R E (modify f : Engine Unit) := ⟨.modify same h, fun _ => nofun⟩

theorem tell {hook : Hook} (h : ∀ r, R r (Request.told hook r)) : Does R E (notify hook) :=
  ⟨.tell h, fun _ => nofun⟩

theorem session {f : Session Flow → Session Flow} (h : ∀ r, R r (Request.updateSession f r)) :
    Does R E (updateSession f) := ⟨.session h, fun _ => nofun⟩

theorem bind {x : Engine α} {f : α → Engine β} (hx : Does R E x) (hf : ∀ a, Does R E (f a)) :
    Does R E (x >>= f) := by
  refine ⟨hx.madeOf.bind fun a => (hf a).madeOf, fun r stop => ?_⟩
  rw [outcome_bind]
  have raised := hx.raised r
  split
  · rename_i a r' h
    exact (hf a).raised r' stop
  · rename_i h
    intro failed
    cases failed
    exact raised _ (congrArg Prod.fst h)

theorem weaken {E' : ExecutionError → Prop} {x : Engine α} (h : Does R E x)
    (weaker : ∀ e, E e → E' e) : Does R E' x := by
  refine ⟨h.madeOf, fun r stop failed => ?_⟩
  obtain ⟨e, rfl, he⟩ := h.raised r stop failed
  exact ⟨e, rfl, weaker e he⟩

theorem raises {flow : Flow} {state : Option String} {x : Engine α}
    (h : Does R (flow.FailsIn state) x) : Does R (flow.RaisesIn state) x :=
  h.weaken fun _ => And.left

/-! Work that only looks at the request. -/

theorem checkMapped (flow : Flow) {state : Option String} (results : List MappingResult) :
    Does R (flow.FailsIn state) (checkMapped flow results) := by
  unfold Engine.checkMapped
  split
  · exact pure _
  · exact raise ⟨⟨rfl, nofun⟩, rfl⟩

theorem mapFrom (flow : Flow) {state : Option String} (mapper : Option Mapper)
    (target : Attributes) :
    Does R (flow.FailsIn state) (mapFrom flow mapper target) := by
  cases mapper with
  | none => exact pure _
  | some mapper => exact look (fun _ _ => rfl) fun _ => bind (checkMapped flow _) fun _ => pure _

theorem resolveTarget (flow : Flow) (state : State) (target : Target) :
    Does R (flow.RaisesIn (some state.id)) (resolveTarget flow state target) := by
  refine look (fun _ _ => rfl) fun r => ?_
  split
  · exact raise ⟨rfl, nofun⟩
  · split
    · exact pure _
    · exact raise ⟨rfl, fun _ same => same⟩

theorem position : Does R (fun _ => True) position := by
  refine look (fun _ _ => rfl) fun r => ?_
  split
  · exact raise trivial
  · split
    · exact raise trivial
    · exact pure _

theorem enterSubflow (flow : Flow) (state : State) (part : SubflowPart) :
    Does R (flow.FailsIn (some state.id)) (enterSubflow flow state part) := by
  refine look (fun _ _ => rfl) fun r => ?_
  split
  · exact raise ⟨⟨rfl, fun _ same => same⟩, rfl⟩
  · exact bind (mapFrom flow part.input _) fun _ => pure _

/-! Work that goes on within a state. -/

theorem notify [Quietly R] (hook : Hook) (plain : hook.plain = true) : Does R E (notify hook) :=
  tell fun _ => Quietly.quiet (.noticed hook plain)

theorem updateSession [Stirring R] {f : Session Flow → Session Flow}
    (flow : ∀ s, (f s).flow = s.flow) (state : ∀ s, (f s).state = s.state) :
    Does R E (updateSession f) :=
  session fun r => Stirring.session r flow state

theorem fillVariables [Stirring R] {put : String → Value → Session Flow → Session Flow}
    (flow : ∀ name value s, (put name value s).flow = s.flow)
    (state : ∀ name value s, (put name value s).state = s.state) (vars : List FlowVariable) :
    Does R E (fillVariables put vars) := by
  induction vars with
  | nil => exact pure _
  | cons v rest ih =>
    exact look (fun _ _ => rfl) fun _ => bind (updateSession (flow _ _) (state _ _)) fun _ => ih

theorem clearView [Stirring R] : Does R E clearView :=
  updateSession (fun _ => rfl) fun _ => rfl

theorem pause [Quietly R] : Does R E pause := by
  refine look (fun _ _ => rfl) fun r => ?_
  split
  · exact bind (updateSession (fun _ => rfl) fun _ => rfl) fun _ => notify _ rfl
  · exact pure _

section

variable [Hushed R]

theorem mention (hook : Hook) (passing : hook.passing = true) : Does R E (Engine.notify hook) :=
  tell fun _ => Hushed.hush (.noticed hook passing)

theorem within (f : Context → α × Context) : Does R E (within f) :=
  ⟨.within fun _ c => Hushed.hush (.absorbed c), fun _ => nofun⟩

theorem signal (e : Event) : Does R E (signal e) :=
  bind (modify (fun _ _ => rfl) fun _ => Hushed.hush (.event e)) fun _ => mention _ rfl

variable (flow : Flow)

theorem runAction (state : Option State) (action : Action) :
    Does R (flow.FailsIn (state.map State.id)) (runAction flow state action) := by
  refine bind (within action) fun result => ?_
  split
  · exact pure _
  · exact raise ⟨⟨rfl, fun _ same => same⟩, rfl⟩

theorem runActions (state : Option State) (actions : List Action) :
    Does R (flow.FailsIn (state.map State.id)) (runActions flow state actions) := by
  induction actions with
  | nil => exact pure _
  | cons action rest ih => exact bind (runAction flow state action) fun _ => ih

theorem mapInto {state : Option String} (mapper : Option Mapper) (source : Attributes) :
    Does R (flow.FailsIn state) (mapInto flow mapper source) :=
  bind (within _) fun _ => checkMapped flow _

theorem runGuards (state : State) (guards : List Action) :
    Does R (flow.FailsIn (some state.id)) (runGuards flow state guards) := by
  induction guards with
  | nil => exact pure _
  | cons guard rest ih =>
    refine bind (runAction flow (some state) guard) fun event => ?_
    split
    · exact ih
    · exact pure _

theorem renderView (state : State) (part : ViewPart) :
    Does R (flow.FailsIn (some state.id)) (renderView flow state part) := by
  refine bind (runActions flow (some state) part.renderActions) fun _ =>
    look (fun _ _ => rfl) fun r => ?_
  split
  · exact raise ⟨⟨rfl, fun _ same => same⟩, rfl⟩
  · exact bind (modify (fun _ _ => rfl) fun _ => Hushed.hush (.view _)) fun _ => pure _

theorem passGuards (state : State) (t : Transition) :
    Does R (flow.FailsIn (some state.id)) (passGuards flow state t) := by
  refine bind (runGuards flow state t.guards) fun passed => ?_
  split
  · exact pure _
  · exact look (fun _ _ => rfl) fun _ => raise ⟨⟨rfl, fun _ same => same⟩, rfl⟩

theorem finalResponse (state : State) (part : EndPart) (root : Bool) :
    Does R (flow.FailsIn (some state.id)) (finalResponse flow state part root) := by
  unfold Engine.finalResponse
  split
  · exact bind (runAction flow (some state) _) fun _ => pure _
  · exact pure _

theorem refresh : Does R (fun _ => True) refresh := by
  refine bind position fun (flow, stateId) => ?_
  dsimp only
  split
  · split
    · exact (renderView _ _ _).weaken fun _ _ => trivial
    · exact raise trivial
  · exact raise trivial

end

theorem enterView [Stirring R] (flow : Flow) (state : State) (part : ViewPart) :
    Does R (flow.FailsIn (some state.id)) (enterView flow state part) :=
  bind clearView fun _ => bind (fillVariables (by intros; rfl) (by intros; rfl) part.vars) fun _ =>
    renderView flow state part

/-! Work that may lead out of a state. What finds out for itself where it is done can fail in any
way. -/

section

variable [Parting R] (flow : Flow)

theorem runExit (state : State) (position : Nat) (action : Action) :
    Does R (flow.FailsIn (some state.id)) (runExit flow state position action) := by
  refine bind (within action) fun result =>
    bind (modify (fun earlier r => r.leave_after earlier state.id position _)
      fun r => Parting.exited r state.id position _) fun _ => ?_
  split
  · exact pure _
  · exact raise ⟨⟨rfl, fun _ same => same⟩, rfl⟩

theorem runExits (state : State) (position : Nat) (actions : List Action) :
    Does R (flow.FailsIn (some state.id)) (runExits flow state position actions) := by
  induction actions generalizing position with
  | nil => exact pure _
  | cons action rest ih => exact bind (runExit flow state position action) fun _ => ih _

theorem exitState (state : State) :
    Does R (flow.FailsIn (some state.id)) (exitState flow state) := by
  refine bind (runExits flow state 0 state.exit) fun _ => ?_
  split
  · exact clearView
  · exact pure _

theorem follow (state : State) (t : Transition) (target : Target) :
    Does R (flow.RaisesIn (some state.id)) (follow flow state t target) :=
  bind (resolveTarget flow state target) fun _ =>
    bind (modify (fun earlier r => r.take_after earlier t) fun r => Parting.taken r t) fun _ =>
    bind (exitState flow state).raises fun _ =>
    bind (modify (fun earlier r => r.fire_after earlier t) fun r => Parting.fired r t) fun _ =>
      pure _

theorem executeTransition (state : State) (t : Transition) :
    Does R (flow.RaisesIn (some state.id)) (executeTransition flow state t) := by
  refine bind (modify (fun _ _ => rfl) fun _ => Hushed.hush (.transition _)) fun _ =>
    bind (mention _ rfl) fun _ => bind (passGuards flow state t).raises fun _ => ?_
  split
  · split
    · exact (renderView flow state _).raises
    · exact raise ⟨rfl, fun _ same => same⟩
  · exact follow flow state t _

theorem takeTransition (state : State) :
    Does R (flow.RaisesIn (some state.id)) (takeTransition flow state) := by
  refine look (fun _ _ => rfl) fun r => ?_
  split
  · exact executeTransition flow state _
  · exact raise ⟨rfl, fun _ same => same⟩

theorem runUntilMatch (state : State) (signaled : List String) (actions : List Action) :
    Does R (flow.RaisesIn (some state.id)) (runUntilMatch flow state signaled actions) := by
  induction actions generalizing signaled with
  | nil => exact raise ⟨rfl, fun _ same => same⟩
  | cons action rest ih =>
    refine bind (runAction flow (some state) action).raises fun event =>
      bind (signal event) fun _ => look (fun _ _ => rfl) fun r => ?_
    split
    · exact executeTransition flow state _
    · exact ih _

theorem resumeParent (ended : String) (output : Attributes) :
    Does R (fun _ => True) (resumeParent ended output) := by
  refine look (fun _ _ => rfl) fun r => ?_
  split
  · exact raise trivial
  · dsimp only
    split
    · exact raise trivial
    · split
      · rename_i parent _ _ state _ _ _ _ _
        refine weaken (E := parent.flow.RaisesIn (some state.id)) ?_ fun _ _ => trivial
        exact bind (mapInto _ _ _).raises fun _ => bind (updateSession (fun _ => rfl) fun _ => rfl)
          fun _ => bind (signal _) fun _ => takeTransition _ _
      · exact raise trivial

theorem arrive (event : Event) : Does R (fun _ => True) (arrive event) := by
  refine bind (signal event) fun _ => bind position fun (flow, stateId) => ?_
  dsimp only
  split
  · exact raise trivial
  · exact bind (updateSession (fun _ => rfl) fun _ => rfl) fun _ =>
      (takeTransition _ _).weaken fun _ _ => trivial

theorem exitPosition (session : Session Flow) :
    Does R (session.flow.FailsIn session.state) (exitPosition session) := by
  unfold Engine.exitPosition
  split
  · rename_i state here
    obtain ⟨id, at_id, found⟩ := Option.bind_eq_some_iff.mp here
    obtain rfl : state.id = id := by simpa using List.find?_some found
    rw [at_id]
    exact exitState _ _
  · exact pure _

/-- The error that a state is missed tells of no state if there is none. -/
theorem reroute (session : Session Flow) (target : String) :
    Does R session.flow.Raises (reroute session target) := by
  unfold Engine.reroute
  dsimp only
  split
  · exact bind ((exitPosition session).weaken fun _ fails => fails.1.1) fun _ => pure _
  · exact raise rfl

/-- A handler may raise any error. -/
theorem consult (e : ExecutionError) : Does R (fun _ => True) (consult e) := by
  refine look (fun _ _ => rfl) fun r => ?_
  split
  · exact raise trivial
  · split
    · exact raise trivial
    · refine bind (within _) fun result => ?_
      unfold obey
      split
      · exact raise trivial
      · exact pure _
      · exact (reroute _ _).weaken fun _ _ => trivial

theorem recover (thrown : ∀ r e, R r (Request.told (.exceptionThrown e) r)) (e : ExecutionError) :
    Does R (fun _ => True) (recover e) := by
  rw [recover_eq]
  exact bind (tell fun r => thrown r e) fun _ => consult e

end

end Does

theorem Touched.notify {E : ExecutionError → Prop} (hook : Hook) (inner : hook.inner = true) :
    Touched E (notify hook) := .tell fun _ => .noticed hook inner

/-! ## The two ends of a session -/

/-- The beginning of a session once it is on the stack. -/
def furnish (flow : Flow) (input : Attributes) : Engine Move := do
  fillVariables (fun name value s => { s with scope := s.scope.put name value }) flow.vars
  mapInto flow flow.input input
  runActions flow none flow.startActions
  updateSession fun s => { s with status := .active }
  notify (.sessionStarted flow.id)
  return .enter flow flow.startState

/-- The end of a session as long as it is on the stack: whether it is the outermost one, and what it
hands over. -/
def closing (flow : Flow) (state : State) (part : EndPart) : Engine (Bool × Attributes) := do
  let root := (← get).execution.sessions.length = 1
  finalResponse flow state part root
  let output ← mapFrom flow part.output .empty
  notify (.sessionEnding state.id output)
  runActions flow (some state) flow.endActions
  let output ← mapFrom flow flow.output output
  return (root, output)

/-- Who gets what a session hands over. -/
def handOver (state : State) (root : Bool) (output : Attributes) : Engine Move := do
  if root then
    modify fun r => { r with
      execution := { r.execution with status := .ended, outcome := some ⟨state.id, output⟩ } }
    return .rest
  else resumeParent state.id output

theorem beginSession_eq (flow : Flow) (input : Attributes) :
    beginSession flow input = (do
      notify (.sessionStarting flow.id input)
      modify (Request.addSession (.fresh flow))
      furnish flow input) := rfl

theorem enterEnd_eq (flow : Flow) (state : State) (part : EndPart) :
    enterEnd flow state part = (do
      let (root, output) ← closing flow state part
      modify Request.dropSession
      notify (.sessionEnded flow.id output)
      handOver state root output) := by
  simp [enterEnd, closing, handOver]

namespace Does

variable {R : Request → Request → Prop}

theorem furnish [Quietly R] (flow : Flow) (input : Attributes) :
    Does R (flow.FailsIn none) (furnish flow input) :=
  bind (fillVariables (by intros; rfl) (by intros; rfl) flow.vars) fun _ =>
    bind (mapInto flow flow.input input) fun _ =>
    bind (runActions flow none flow.startActions) fun _ =>
    bind (updateSession (fun _ => rfl) fun _ => rfl) fun _ => bind (notify _ rfl) fun _ => pure _

theorem closing [Hushed R] (flow : Flow) (state : State) (part : EndPart) :
    Does R (flow.FailsIn (some state.id)) (closing flow state part) :=
  look (fun _ _ => rfl) fun _ => bind (finalResponse flow state part _) fun _ =>
    bind (mapFrom flow part.output _) fun output => bind (mention _ rfl) fun _ =>
    bind (runActions flow (some state) flow.endActions) fun _ =>
    bind (mapFrom flow flow.output output) fun _ => pure _

end Does

/-! ## Work made of steps -/

/-- Steps that account for each move of a request account for all of it. -/
structure Accounts (R : Request → Request → Prop) [Leaving R] : Prop where
  entering : ∀ r state, R r (Request.told (.stateEntering state) r)
  entered : ∀ r state, R r (r.updateSession fun s => { s with state := some state })
  ends : ∀ flow state part, MadeOf R (enterEnd flow state part)
  begins : ∀ flow input, MadeOf R (beginSession flow input)

namespace MadeOf

variable {R : Request → Request → Prop}

variable [Leaving R]

theorem handOver
    (ended : ∀ r o, R r { r with
      execution := { r.execution with status := .ended, outcome := some o } })
    (state : State) (root : Bool) (output : Attributes) :
    MadeOf R (handOver state root output) := by
  unfold Engine.handOver
  split
  · exact bind (modify (fun _ _ => rfl) fun r => ended r _) fun _ => pure _
  · exact (Does.resumeParent _ _).madeOf

theorem resumption (flash : ∀ r, R r (Request.clearFlash r)) (event : Option Event) :
    MadeOf R (Execution.resumption event) := by
  cases event with
  | some event =>
    rw [Execution.resumption, handleEvent_eq]
    exact bind (modify (fun _ _ => rfl) flash) fun _ => (Does.arrive event).madeOf
  | none => exact Does.refresh.madeOf

variable (all : Accounts R)
include all

theorem enterKind (flow : Flow) (state : State) : MadeOf R (enterKind flow state) := by
  unfold Engine.enterKind
  split
  · exact (Does.runUntilMatch flow state [] _).madeOf
  · exact (Does.enterView flow state _).madeOf
  · exact (Does.takeTransition flow state).madeOf
  · exact (Does.enterSubflow flow state _).madeOf
  · exact all.ends flow state _

theorem entrance (flow : Flow) (state : State) : MadeOf R (entrance flow state) := by
  refine look (fun _ _ => rfl) fun r => ?_
  split
  · exact raise _
  · exact bind (session fun r => all.entered r _) fun _ =>
      bind (Does.runActions flow _ _).madeOf fun _ =>
        bind (Does.notify (E := fun _ => True) _ rfl).madeOf fun _ => enterKind all flow state

theorem enterState (flow : Flow) (target : String) : MadeOf R (enterState flow target) := by
  cases found : flow.state? target with
  | none =>
    rw [Engine.enterState, found]
    exact look (fun _ _ => rfl) fun _ => raise _
  | some state =>
    rw [enterState_eq found]
    exact bind (tell fun r => all.entering r _) fun _ => entrance all flow state

theorem step (move : Move) : MadeOf R (step move) := by
  cases move with
  | begin flow input => exact all.begins flow input
  | enter flow state => exact enterState all flow state
  | rest => exact pure _

/-- However many moves a request takes, by induction on the limit. -/
theorem proceed (limit : Nat) (move : Move) : MadeOf R (proceed limit move) := by
  induction limit generalizing move with
  | zero =>
    cases move with
    | rest => exact pure _
    | begin | enter => exact throw _
  | succ limit ih =>
    cases move with
    | rest => exact pure _
    | begin | enter => exact bind (step all _) fun next => ih next

theorem serve (thrown : ∀ r e, R r (Request.told (.exceptionThrown e) r)) {first : Engine Move}
    (h : MadeOf R first) : MadeOf R (serve first) := by
  refine bind ?_ fun _ => (Does.pause (E := fun _ => True)).madeOf
  refine tryCatch (bind h fun _ => proceed all _ _) fun e => ?_
  cases e with
  | raised e => exact bind (Does.recover thrown e).madeOf fun _ => proceed all _ _
  | endless => exact throw _

end MadeOf

instance : Leaving Change where
  quiet h := .touched h.touch
  taken _ t := .touched (.taken t)
  fired _ t := .touched (.fired t)
  exited _ state position passed := .touched (.exited state position passed)

/-- All that the work does to a request is made of changes. -/
abbrev Tracked (x : Engine α) : Prop := MadeOf Change x

namespace Tracked

theorem handOver (state : State) (root : Bool) (output : Attributes) :
    Tracked (handOver state root output) := MadeOf.handOver (fun _ => .ended) state root output

theorem enterEnd (flow : Flow) (state : State) (part : EndPart) :
    Tracked (enterEnd flow state part) := by
  rw [enterEnd_eq]
  exact .bind (Does.closing flow state part).madeOf fun (root, output) =>
    .both (fun _ _ => rfl) (fun earlier r => r.told_after earlier _) (fun _ => .left flow output)
      (handOver state root output)

theorem beginSession (flow : Flow) (input : Attributes) : Tracked (beginSession flow input) := by
  rw [beginSession_eq]
  exact .both (fun earlier r => r.told_after earlier _) (fun _ _ => rfl)
    (fun _ => .begun flow input) (Does.furnish flow input).madeOf

theorem accounts : Accounts Change where
  entering _ state := .touched (.noticed (.stateEntering state) rfl)
  entered _ := .entered
  ends := enterEnd
  begins := beginSession

theorem thrown (r : Request) (e : ExecutionError) : Change r (r.told (.exceptionThrown e)) :=
  .touched (.noticed (.exceptionThrown e) rfl)

theorem proceed (limit : Nat) (move : Move) : Tracked (proceed limit move) :=
  MadeOf.proceed accounts limit move

theorem recover (e : ExecutionError) : Tracked (recover e) := (Does.recover thrown e).madeOf

theorem pause : Tracked pause := (Does.pause (E := fun _ => True)).madeOf

theorem serve {first : Engine Move} (h : Tracked first) : Tracked (serve first) :=
  MadeOf.serve accounts thrown h

theorem resumption (event : Option Event) : Tracked (Execution.resumption event) :=
  MadeOf.resumption (fun _ => .touched .flash) event

theorem resuming (event : Option Event) :
    Tracked (do Engine.notify .resuming; Engine.serve (Execution.resumption event)) :=
  (Does.notify (E := fun _ => True) _ rfl).madeOf.bind fun _ => (resumption event).serve

theorem changes {x : Engine α} (h : Tracked x) (r : Request) : Changes r (outcome x r).2 :=
  h.steps r

end Tracked

end Engine

/-- What every change preserves holds after many if it holds before. -/
theorem Changes.preserve {P : Request → Prop} (step : ∀ {r r'}, Change r r' → P r → P r')
    {r r' : Request} (h : Changes r r') (start : P r) : P r' := by
  induction h with
  | refl => exact start
  | tail _ change ih => exact step change ih

/-- What surrounds the sessions and stays as it is throughout a request. -/
structure Setting where
  flow : Flow
  key : Option Key
  listeners : List Listener
  external : External
  directory : Directory

def Request.setting (r : Request) : Setting :=
  ⟨r.execution.flow, r.execution.key, r.execution.listeners, r.external, r.directory⟩

theorem Request.updateSession_eq (f : Session Flow → Session Flow) (r : Request) :
    ∃ sessions,
      r.updateSession f = { r with execution := { r.execution with sessions := sessions } } := by
  unfold updateSession
  split
  · exact ⟨r.execution.sessions, rfl⟩
  · exact ⟨_, rfl⟩

theorem Request.setting_updateSession (f : Session Flow → Session Flow) (r : Request) :
    (r.updateSession f).setting = r.setting := by
  obtain ⟨sessions, e⟩ := r.updateSession_eq f
  rw [e]
  rfl

namespace Change

variable {r r' : Request}

theorem setting_eq (h : Change r r') : r'.setting = r.setting := by
  cases h with
  | touched h =>
    cases h with
    | session f => exact Request.setting_updateSession f r
    | _ => rfl
  | entered state => exact Request.setting_updateSession _ r
  | _ => rfl

/-- The outcome is there as soon as the execution has ended. -/
theorem outcome_of_ended (h : Change r r')
    (told : r.execution.status = .ended → r.execution.outcome.isSome) :
    r'.execution.status = .ended → r'.execution.outcome.isSome := by
  have updated (f : Session Flow → Session Flow) :
      (r.updateSession f).execution.status = .ended →
        (r.updateSession f).execution.outcome.isSome := by
    obtain ⟨sessions, e⟩ := r.updateSession_eq f
    rwa [e]
  cases h with
  | touched h =>
    cases h with
    | session f => exact updated f
    | _ => exact told
  | entered state => exact updated _
  | ended o => intro; rfl
  | _ => exact told

end Change

theorem Changes.setting_eq {r r' : Request} (h : Changes r r') : r'.setting = r.setting :=
  h.preserve (P := fun r' => r'.setting = r.setting) (fun change => change.setting_eq.trans) rfl

namespace Execution

theorem resume_changes {x : Execution} (event : Option Event) (external : External)
    (directory : Directory) (active : x.isActive = true) :
    ∃ r, Changes (Request.new { x with history := .preserve } external directory) r ∧
      (x.resume event external directory).execution = r.execution ∧
      (x.resume event external directory).journal = r.journal := by
  refine ⟨_, (Engine.Tracked.resuming event).changes
    (Request.new { x with history := .preserve } external directory), ?_, ?_⟩
  · rw [resume, if_pos active]; rfl
  · rw [resume, if_pos active]; rfl

theorem start_changes {x : Execution} (input : Attributes) (external : External)
    (directory : Directory) (idle : x.status = .notStarted) :
    ∃ r, Changes
        (Request.new { x with status := .active, history := .preserve } external directory) r ∧
      (x.start input external directory).execution = r.execution := by
  refine ⟨_, (Engine.Tracked.beginSession x.flow input).serve.changes
    (Request.new { x with status := .active, history := .preserve } external directory), ?_⟩
  rw [start, if_pos idle]; rfl

theorem resume_key (x : Execution) (event : Option Event) (external : External)
    (directory : Directory) :
    (x.resume event external directory).execution.key = x.key := by
  cases active : x.isActive with
  | false => simp [resume, active, refuse]
  | true =>
    obtain ⟨r, changes, e, -⟩ := resume_changes event external directory active
    rw [e]
    exact congrArg Setting.key changes.setting_eq

/-- An execution that had not ended when a request began tells its outcome once it has. -/
theorem outcome_of_changes {x : Execution} {external : External} {directory : Directory}
    {r : Request} (running : x.status ≠ .ended)
    (changes : Changes (Request.new x external directory) r)
    (ended : r.execution.hasEnded = true) : r.execution.outcome.isSome :=
  changes.preserve (fun h => h.outcome_of_ended) (fun h => absurd h running)
    (of_decide_eq_true ended)

theorem resume_outcome {x : Execution} {event : Option Event} {external : External}
    {directory : Directory}
    (ok : (x.resume event external directory).result = .ok ())
    (ended : (x.resume event external directory).execution.hasEnded = true) :
    (x.resume event external directory).execution.outcome.isSome := by
  cases active : x.isActive with
  | false => simp [resume, active, refuse] at ok
  | true =>
    obtain ⟨r, changes, e, -⟩ := resume_changes event external directory active
    rw [e] at ended ⊢
    refine outcome_of_changes (fun h => ?_) changes ended
    have : x.status = .ended := h
    simp [isActive, this] at active

theorem start_outcome {x : Execution} {input : Attributes} {external : External}
    {directory : Directory}
    (ok : (x.start input external directory).result = .ok ())
    (ended : (x.start input external directory).execution.hasEnded = true) :
    (x.start input external directory).execution.outcome.isSome := by
  by_cases idle : x.status = .notStarted
  · obtain ⟨r, changes, e⟩ := start_changes input external directory idle
    rw [e] at ended ⊢
    exact outcome_of_changes (by simp) changes ended
  · simp [start, idle, refuse] at ok

end Execution

end Parley
