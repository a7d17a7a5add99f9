import Parley.Execution.Request

/-!
# Parley.Execution.Move

The moves of an execution. Each move does its work and says which one is next, until the execution
comes to rest in a view or ends.
-/

namespace Parley

/-- What is left to do. -/
inductive Move where
  /-- A session of the flow begins. -/
  | begin (flow : Flow) (input : Attributes)
  /-- The innermost session enters a state of its flow. -/
  | enter (flow : Flow) (state : String)
  /-- Nothing: the request may be answered. -/
  | rest

namespace Engine

/-- Variables evaluated one by one, each put into a scope of the innermost session. -/
def fillVariables (put : String → Value → Session Flow → Session Flow) :
    List FlowVariable → Engine Unit
  | [] => return ()
  | v :: rest => do
    let value := v.create (← get).context
    updateSession (put v.name value)
    fillVariables put rest

/-- The first transition, of the state's own and then of the flow's, whose criteria hold. -/
def findTransition (flow : Flow) (state : State) (c : Context) : Option Transition :=
  (state.transitions ++ flow.globalTransitions).find? fun t => t.criteria.holds c

/-- The guards in order, up to the first that does not signal success. -/
def runGuards (flow : Flow) (state : State) : List Action → Engine Bool
  | [] => return true
  | guard :: rest => do
    let event ← runAction flow (some state) guard
    if event.isSuccess then runGuards flow state rest else return false

def clearView : Engine Unit := updateSession fun s => { s with viewScope := .empty }

/-- The exit action at a position of its list. -/
def runExit (flow : Flow) (state : State) (position : Nat) (action : Action) : Engine Unit := do
  let result ← within action
  modify (Request.leave state.id position result.isOk)
  match result with
  | .ok _ => return ()
  | .error e => raise (.actionExecution flow.id (some state.id) e)

/-- The exit actions from a position on. -/
def runExits (flow : Flow) (state : State) (position : Nat) : List Action → Engine Unit
  | [] => return ()
  | action :: rest => do
    runExit flow state position action
    runExits flow state (position + 1) rest

/-- The exit actions; the attributes of a view go with it. -/
def exitState (flow : Flow) (state : State) : Engine Unit := do
  runExits flow state 0 state.exit
  if state.isView then clearView

def renderView (flow : Flow) (state : State) (part : ViewPart) : Engine Move := do
  runActions flow (some state) part.renderActions
  match part.factory (← get).context with
  | .error e => raise (.actionExecution flow.id (some state.id) e)
  | .ok view =>
    modify fun r => { r with execution := { r.execution with view := some view } }
    return .rest

/-- The guards of a transition let it pass, or veto it. -/
def passGuards (flow : Flow) (state : State) (t : Transition) : Engine Unit := do
  if ← runGuards flow state t.guards then return ()
  else raise (.transitionVetoed flow.id state.id (← get).eventName)

/-- The state of the flow that a target names now. -/
def resolveTarget (flow : Flow) (state : State) (target : Target) : Engine String := do
  match target.resolve (← get).context with
  | .error e => raise (.evaluation flow.id e)
  | .ok target =>
    if flow.hasState target then return target
    else raise (.targetStateNotFound flow.id state.id target)

/-- A transition is taken: the exit from the state and the way to the next one. -/
def follow (flow : Flow) (state : State) (t : Transition) (target : Target) : Engine Move := do
  let target ← resolveTarget flow state target
  modify (Request.take t)
  exitState flow state
  modify (Request.fire t)
  return .enter flow target

/-- A transition whose criteria hold. Without a target a view is rendered again. -/
def executeTransition (flow : Flow) (state : State) (t : Transition) : Engine Move := do
  let criteria := t.criteria.text
  modify fun r => { r with transition := some (state.id ++ " on " ++ criteria) }
  notify (.transitionExecuting criteria)
  passGuards flow state t
  match t.target with
  | none =>
    match state.kind with
    | .view part _ => renderView flow state part
    | _ => raise (.targetStateNotFound flow.id state.id "<none>")
  | some target => follow flow state t target

def takeTransition (flow : Flow) (state : State) : Engine Move := do
  let r ← get
  match findTransition flow state r.context with
  | some t => executeTransition flow state t
  | none => raise (.noMatchingTransition flow.id state.id r.eventName)

/-- The actions of an action state one by one; after each, the first transition that its event and
what it did make possible is taken. -/
def runUntilMatch (flow : Flow) (state : State) (signaled : List String) : List Action → Engine Move
  | [] => raise (.noMatchingActionResult flow.id state.id signaled)
  | action :: rest => do
    let event ← runAction flow (some state) action
    signal event
    match findTransition flow state (← get).context with
    | some t => executeTransition flow state t
    | none => runUntilMatch flow state (signaled ++ [event.id]) rest

def enterView (flow : Flow) (state : State) (part : ViewPart) : Engine Move := do
  clearView
  fillVariables (fun name value s => { s with viewScope := s.viewScope.put name value }) part.vars
  renderView flow state part

def subflowId (ref : SubflowRef) (c : Context) : String :=
  match ref with
  | .fixed flow => flow
  | .computed expression => (expression.eval c).display

def enterSubflow (flow : Flow) (state : State) (part : SubflowPart) : Engine Move := do
  let r ← get
  match r.directory (subflowId part.subflow r.context) with
  | .error e => raise (.subflowNotFound flow.id state.id e)
  | .ok subflow =>
    let input ← mapFrom flow part.input .empty
    return .begin subflow input

/-- The way on in the session whose subflow has ended: its output is mapped, and the event tells
it. -/
def resumeParent (ended : String) (output : Attributes) : Engine Move := do
  match (← get).execution.session? with
  | none => raise (.illegalState "subflow ended without a parent session")
  | some parent =>
    let flow := parent.flow
    match parent.state.bind flow.state? with
    | none => raise (.illegalState s!"flow '{flow.id}' has no current state to resume")
    | some state =>
      match state.kind with
      | .subflow part _ =>
        mapInto flow part.output output
        updateSession fun s => { s with status := .active }
        signal ⟨ended, output⟩
        takeTransition flow state
      | _ => raise (.illegalState s!"state '{state.id}' of flow '{flow.id}' is not a subflow state")

/-- The action of an end state, which only the end of the whole execution runs. -/
def finalResponse (flow : Flow) (state : State) (part : EndPart) (root : Bool) : Engine Unit :=
  match root, part.finalResponse with
  | true, some action => do
    let _ ← runAction flow (some state) action
    return ()
  | _, _ => return ()

def enterEnd (flow : Flow) (state : State) (part : EndPart) : Engine Move := do
  let root := (← get).execution.sessions.length = 1
  finalResponse flow state part root
  let output ← mapFrom flow part.output .empty
  notify (.sessionEnding state.id output)
  runActions flow (some state) flow.endActions
  let output ← mapFrom flow flow.output output
  modify Request.dropSession
  notify (.sessionEnded flow.id output)
  if root then
    modify fun r => { r with
      execution := { r.execution with status := .ended, outcome := some ⟨state.id, output⟩ } }
    return .rest
  else resumeParent state.id output

def enterKind (flow : Flow) (state : State) : Engine Move :=
  match state.kind with
  | .action actions _ => runUntilMatch flow state [] actions
  | .view part _ => enterView flow state part
  | .decision _ => takeTransition flow state
  | .subflow part _ => enterSubflow flow state part
  | .final part => enterEnd flow state part

def enterState (flow : Flow) (target : String) : Engine Move := do
  match flow.state? target with
  | none =>
    raise (.targetStateNotFound flow.id ((← get).execution.state?.getD "<start>") target)
  | some state =>
    notify (.stateEntering state.id)
    match (← get).execution.session? with
    | none => raise (.illegalState "no active flow session")
    | some session =>
      updateSession fun s => { s with state := some state.id }
      runActions flow (some state) state.entry
      notify (.stateEntered session.state state.id)
      enterKind flow state

/-- A session from its variables to the door of its start state. -/
def beginSession (flow : Flow) (input : Attributes) : Engine Move := do
  notify (.sessionStarting flow.id input)
  modify (Request.addSession (.fresh flow))
  fillVariables (fun name value s => { s with scope := s.scope.put name value }) flow.vars
  mapInto flow flow.input input
  runActions flow none flow.startActions
  updateSession fun s => { s with status := .active }
  notify (.sessionStarted flow.id)
  return .enter flow flow.startState

def step : Move → Engine Move
  | .begin flow input => beginSession flow input
  | .enter flow state => enterState flow state
  | .rest => return .rest

/-- Move after move until the execution rests, at most so many. -/
def proceed : Nat → Move → Engine Unit
  | _, .rest => return ()
  | 0, _ => throw .endless
  | limit + 1, move => do
    let next ← step move
    proceed limit next

end Engine

end Parley
