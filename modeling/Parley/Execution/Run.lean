import Parley.Execution.Move

/-!
# Parley.Execution.Run

Requests from beginning to end: starting an execution, resuming it by an event or rendering its view
again, and what becomes of errors.

An error is shown once to the handlers of the current state, then to those of its flow. The first
that accepts it settles the matter or names a state to enter; an error on that way is final.
-/

namespace Parley

/-- What a request comes to. The execution is as the request left it, also after an error. -/
structure Answer where
  result : Except Stop Unit
  execution : Execution
  journal : List Entry

namespace Engine

/-- How many moves a request may take. -/
def moveLimit : Nat := 100000

/-- Where the innermost session stands. -/
def position : Engine (Flow × String) := do
  match (← get).execution.session? with
  | none => raise (.illegalState "no active flow session")
  | some session =>
    match session.state with
    | none => raise (.illegalState s!"flow '{session.flow.id}' has not entered a state")
    | some state => return (session.flow, state)

/-- An event arrives at the current state. The flash scope is of the request before. -/
def handleEvent (event : Event) : Engine Move := do
  modify fun r => { r with execution := { r.execution with flash := .empty } }
  signal event
  let (flow, stateId) ← position
  match flow.state? stateId with
  | none => raise (.illegalState s!"state '{stateId}' no longer exists in flow '{flow.id}'")
  | some state =>
    updateSession fun s => { s with status := .active }
    takeTransition flow state

/-- The current view is rendered again. -/
def refresh : Engine Move := do
  let (flow, stateId) ← position
  match flow.state? stateId with
  | some state =>
    match state.kind with
    | .view part _ => renderView flow state part
    | _ => raise (.illegalState s!"flow '{flow.id}' is not paused in a view state")
  | none => raise (.illegalState s!"flow '{flow.id}' is not paused in a view state")

/-- The handler for an error in a place: of the state, if there is one, before those of the flow. -/
def handlerFor (flow : Flow) (state : Option State) (e : ExecutionError) : Option Handler :=
  (state.bind fun s => Handler.find? s.handlers e) <|> Handler.find? flow.handlers e

/-- The exit from the state in which a session stands, if it stands in one. -/
def exitPosition (session : Session Flow) : Engine Unit :=
  match session.state.bind session.flow.state? with
  | some state => exitState session.flow state
  | none => return ()

/-- A handler sends the execution to a state. -/
def reroute (session : Session Flow) (target : String) : Engine Move := do
  let flow := session.flow
  if flow.hasState target then
    exitPosition session
    return .enter flow target
  else raise (.targetStateNotFound flow.id (session.state.getD "") target)

/-- The way on after an error. -/
def recover (e : ExecutionError) : Engine Move := do
  notify (.exceptionThrown e)
  match (← get).execution.session? with
  | none => raise e
  | some session =>
    match handlerFor session.flow (session.state.bind session.flow.state?) e with
    | none => raise e
    | some handler =>
      match ← within (handler.handle e) with
      | .error e => raise e
      | .ok .handled => return .rest
      | .ok (.enterState target) => reroute session target

/-- The moves of a request, those after its first error included. -/
def settle (first : Engine Move) : Engine Unit :=
  tryCatch (do proceed moveLimit (← first)) fun
    | .raised e => do proceed moveLimit (← recover e)
    | .endless => throw .endless

/-- An execution that is still active waits. -/
def pause : Engine Unit := do
  if (← get).execution.isActive then
    updateSession fun s => { s with status := .paused }
    notify .paused

/-- The whole of a request. -/
def serve (first : Engine Move) : Engine Unit := do
  settle first
  pause

end Engine

namespace Execution

/-- The answer to a request on an execution. -/
def answer (x : Execution) (external : External) (directory : Directory) (work : Engine Unit) :
    Answer :=
  let (result, r) := (work.run (Request.new x external directory)).run
  ⟨result, r.execution, r.journal⟩

/-- The answer to a request that cannot be made. -/
def refuse (x : Execution) (reason : String) : Answer :=
  ⟨.error (.raised (.illegalState reason)), x, []⟩

def start (x : Execution) (input : Attributes) (external : External) (directory : Directory) :
    Answer :=
  if x.status = .notStarted then
    answer { x with status := .active, history := .preserve } external directory
      (Engine.serve (Engine.beginSession x.flow input))
  else x.refuse s!"execution of flow '{x.flow.id}' has already been started"

/-- The first move of a resumed execution. -/
def resumption (event : Option Event) : Engine Move :=
  match event with
  | some event => Engine.handleEvent event
  | none => Engine.refresh

/-- An event for the execution, or, without one, its view once more. -/
def resume (x : Execution) (event : Option Event) (external : External) (directory : Directory) :
    Answer :=
  if x.isActive then
    answer { x with history := .preserve } external directory do
      Engine.notify .resuming
      Engine.serve (resumption event)
  else x.refuse s!"execution of flow '{x.flow.id}' is not active"

end Execution

end Parley
