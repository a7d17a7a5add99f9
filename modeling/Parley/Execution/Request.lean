import Parley.Execution.Basic

/-!
# Parley.Execution.Request

A request under way: the execution that it changes, and what lives only as long as the request.

Actions, handlers and mappings get a context and give one back. Of that one a request takes over
the attributes of the scopes, a view that was rendered and the notes; who is where on the stack is
decided by the request alone.
-/

namespace Parley

/-- What a request brings from outside. -/
structure External where
  requestId : String
  parameters : Attributes

structure Request where
  execution : Execution
  /-- The request scope. -/
  scope : Attributes
  event : Option Event
  transition : Option String
  external : External
  directory : Directory
  journal : List Entry

/-- How a request can fail to come to an answer: by an error, or by never coming to rest. -/
inductive Stop where
  | raised (error : ExecutionError)
  | endless
deriving DecidableEq

/-- Work on a request. What was done before an error stays done. -/
abbrev Engine := ExceptT Stop (StateM Request)

namespace Request

/-- A request on an execution, before anything has happened. No view is rendered yet. -/
def new (execution : Execution) (external : External) (directory : Directory) : Request where
  execution := { execution with view := none }
  scope := .empty
  event := none
  transition := none
  external := external
  directory := directory
  journal := []

def context (r : Request) : Context where
  rootFlow := r.execution.flow.id
  status := r.execution.status
  sessions := r.execution.sessions.map (Session.map Flow.id)
  request := r.scope
  flash := r.execution.flash
  conversation := r.execution.conversation
  event := r.event
  transition := r.transition
  parameters := r.external.parameters
  requestId := r.external.requestId
  rendered := r.execution.view
  notes := []
  startOf flow := (r.directory flow).map Flow.startState

/-- The sessions with the scopes of the innermost one taken over. -/
def absorbSessions (c : Context) : List (Session Flow) → List (Session Flow)
  | [] => []
  | s :: rest =>
    match c.session? with
    | some changed => { s with scope := changed.scope, viewScope := changed.viewScope } :: rest
    | none => s :: rest

/-- The request with the scopes and the view of a context. -/
def adopt (r : Request) (c : Context) : Request :=
  { r with
    execution := { r.execution with
      sessions := absorbSessions c r.execution.sessions
      flash := c.flash
      conversation := c.conversation
      view := c.rendered <|> r.execution.view }
    scope := c.request }

/-- The request after something was done with its context. -/
def absorb (r : Request) (c : Context) : Request :=
  { r.adopt c with
    journal := r.journal ++ (c.notes.map .note ++ [.ran r.context (r.adopt c).context]) }

/-- The innermost session changed. -/
def updateSession (f : Session Flow → Session Flow) (r : Request) : Request :=
  match r.execution.sessions with
  | [] => r
  | s :: rest => { r with execution := { r.execution with sessions := f s :: rest } }

def addSession (s : Session Flow) (r : Request) : Request :=
  { r with execution := { r.execution with sessions := s :: r.execution.sessions } }

def dropSession (r : Request) : Request :=
  { r with execution := { r.execution with sessions := r.execution.sessions.tail } }

/-- The request once a transition is taken. From now on the history policy is that of the
transition. -/
def take (t : Transition) (r : Request) : Request :=
  { r with
    execution := { r.execution with history := t.history }
    journal := r.journal ++ [.taken t] }

/-- The request once a transition has led out of its state. -/
def fire (t : Transition) (r : Request) : Request := { r with journal := r.journal ++ [.fired t] }

/-- The request once an exit action was run. -/
def leave (state : String) (position : Nat) (passed : Bool) (r : Request) : Request :=
  { r with journal := r.journal ++ [.exited state position passed] }

def eventName (r : Request) : String := (r.event.map Event.id).getD "<none>"

end Request

namespace Engine

def raise {α : Type} (e : ExecutionError) : Engine α := throw (.raised e)

/-- An occurrence is written down with what the request shows now. -/
def notify (hook : Hook) : Engine Unit :=
  modify fun r => { r with journal := r.journal ++ [.notice hook r.context] }

/-- Something done with the context, and its result. -/
def within {α : Type} (f : Context → α × Context) : Engine α := do
  let r ← get
  let (result, c) := f r.context
  set (r.absorb c)
  return result

def updateSession (f : Session Flow → Session Flow) : Engine Unit :=
  modify (Request.updateSession f)

def signal (event : Event) : Engine Unit := do
  modify fun r => { r with event := some event }
  notify (.eventSignaled event)

def runAction (flow : Flow) (state : Option State) (action : Action) : Engine Event := do
  match ← within action with
  | .ok event => return event
  | .error e => raise (.actionExecution flow.id (state.map State.id) e)

def runActions (flow : Flow) (state : Option State) : List Action → Engine Unit
  | [] => return ()
  | action :: rest => do
    let _ ← runAction flow state action
    runActions flow state rest

/-- The results of a mapper; errors among them are one error of the flow. -/
def checkMapped (flow : Flow) (results : List MappingResult) : Engine Unit :=
  match MappingResult.errors results with
  | [] => return ()
  | errors => raise (.mapping flow.id errors)

/-- Attributes mapped into the scopes of the request. -/
def mapInto (flow : Flow) (mapper : Option Mapper) (source : Attributes) : Engine Unit := do
  let results ← within (Mapper.run source (mapper.getD []))
  checkMapped flow results

/-- Attributes with what a mapper takes out of the scopes of the request. -/
def mapFrom (flow : Flow) (mapper : Option Mapper) (target : Attributes) : Engine Attributes :=
  match mapper with
  | none => return target
  | some mapper => do
    let (results, target) := Mapper.run (← get).context mapper target
    checkMapped flow results
    return target

end Engine

end Parley
