import Parley.Flow.Handler
import Parley.Flow.Transition

/-!
# Parley.Flow.Basic

Flow definitions: states with what happens on entering and leaving them, transitions between them,
and what frames a whole session.

A flow that passes `Flow.validate` has a start state, and every state that it names outright is one
of its own.
-/

namespace Parley

inductive VariableValue where
  | literal (value : Value)
  | expression (expression : Expression)

/-- An attribute that a flow or a view starts with. -/
structure FlowVariable where
  name : String
  initial : VariableValue

namespace FlowVariable

def create (v : FlowVariable) (context : Context) : Value :=
  match v.initial with
  | .literal value => value
  | .expression e => e.eval context

end FlowVariable

inductive SubflowRef where
  | fixed (flow : String)
  | computed (expression : Expression)

structure ViewPart where
  factory : ViewFactory
  renderActions : List Action
  vars : List FlowVariable
  redirect : Bool
  popup : Bool

structure SubflowPart where
  subflow : SubflowRef
  input : Option Mapper
  output : Option Mapper

structure EndPart where
  finalResponse : Option Action
  output : Option Mapper

inductive StateKind where
  | action (actions : List Action) (transitions : List Transition)
  | view (part : ViewPart) (transitions : List Transition)
  | decision (transitions : List Transition)
  | subflow (part : SubflowPart) (transitions : List Transition)
  | final (part : EndPart)

namespace StateKind

def name : StateKind → String
  | action .. => "action"
  | view .. => "view"
  | decision .. => "decision"
  | subflow .. => "subflow"
  | final .. => "end"

def transitions : StateKind → List Transition
  | action _ ts => ts
  | view _ ts => ts
  | decision ts => ts
  | subflow _ ts => ts
  | final _ => []

end StateKind

structure State where
  id : String
  entry : List Action
  exit : List Action
  handlers : List Handler
  attributes : Attributes
  kind : StateKind

namespace State

def transitions (s : State) : List Transition := s.kind.transitions

def isView (s : State) : Bool :=
  match s.kind with
  | .view .. => true
  | _ => false

def isFinal (s : State) : Bool :=
  match s.kind with
  | .final .. => true
  | _ => false

end State

structure Flow where
  id : String
  start : Option String
  states : List State
  globalTransitions : List Transition
  vars : List FlowVariable
  input : Option Mapper
  output : Option Mapper
  startActions : List Action
  endActions : List Action
  handlers : List Handler
  attributes : Attributes

namespace Flow

/-- A flow without states. -/
def blank (id : String) (attributes : Attributes) : Flow where
  id := id
  start := none
  states := []
  globalTransitions := []
  vars := []
  input := none
  output := none
  startActions := []
  endActions := []
  handlers := []
  attributes := attributes

/-- The state in which a session begins: the first one, unless another was set. -/
def startState (f : Flow) : String := f.start.getD ""

def state? (f : Flow) (id : String) : Option State := f.states.find? fun s => s.id = id

def hasState (f : Flow) (id : String) : Bool := (f.state? id).isSome

def stateIds (f : Flow) : List String := f.states.map (·.id)

/-- The flow with one more state. The first state is the start state until another is set. -/
def addState (f : Flow) (s : State) : Except BuildError Flow :=
  if f.hasState s.id then .error (.duplicateState f.id s.id)
  else .ok { f with states := f.states ++ [s], start := some (f.start.getD s.id) }

/-- What stands for the state in complaints about what belongs to the whole flow. -/
def globalPlace : String := "<global>"

def checkTarget (f : Flow) (place target : String) : Except BuildError Unit :=
  if f.hasState target then .ok () else .error (.invalidTarget f.id place target)

/-- All of the targets are states of the flow; the first that is not is the error. -/
def checkTargets (f : Flow) (place : String) : List String → Except BuildError Unit
  | [] => .ok ()
  | target :: rest =>
    match f.checkTarget place target with
    | .error e => .error e
    | .ok () => f.checkTargets place rest

/-- The states that transitions name outright, then those that handlers declare. -/
def namedTargets (transitions : List Transition) (handlers : List Handler) : List String :=
  transitions.filterMap Transition.fixedTarget? ++ handlers.filterMap (·.target)

def checkStates (f : Flow) : List State → Except BuildError Unit
  | [] => .ok ()
  | s :: rest =>
    match f.checkTargets s.id (namedTargets s.transitions s.handlers) with
    | .error e => .error e
    | .ok () => f.checkStates rest

/-- The flow has states, its start state is one, and so is every state that it names. -/
def validate (f : Flow) : Except BuildError Unit :=
  if f.states.isEmpty then .error (.emptyFlow f.id)
  else if !f.hasState f.startState then .error (.startStateNotFound f.id f.startState)
  else
    match f.checkStates f.states with
    | .error e => .error e
    | .ok () => f.checkTargets globalPlace (namedTargets f.globalTransitions f.handlers)

end Flow

end Parley
