import Parley.Flow.Transition

/-!
# Parley.Execution.Listener

What happens during a request, written down in order, and those who hear of it. Listeners look on:
what they make of an occurrence never changes the execution. Of what a flow did with the scopes, of
the transitions that were taken and of the way out of states the journal keeps more than anybody is
told.
-/

namespace Parley

/-- What listeners are told. -/
inductive Hook where
  | sessionStarting (flow : String) (input : Attributes)
  | sessionStarted (flow : String)
  | stateEntering (state : String)
  | stateEntered (previous : Option String) (state : String)
  | eventSignaled (event : Event)
  | transitionExecuting (criteria : String)
  | paused
  | resuming
  | sessionEnding (state : String) (output : Attributes)
  | sessionEnded (flow : String) (output : Attributes)
  | exceptionThrown (error : ExecutionError)

inductive Entry where
  /-- Something that actions or handlers wrote down. -/
  | note (value : Value)
  /-- An occurrence, and what the request showed at that moment. -/
  | notice (hook : Hook) (context : Context)
  /-- Something of a flow was run on the request; what the request showed before and after. -/
  | ran (before after : Context)
  /-- A transition was taken: its guards let it pass, and there is a state to go to. -/
  | taken (transition : Transition)
  /-- A transition that was taken has led out of its state. -/
  | fired (transition : Transition)
  /-- The exit action of the state at this position was run, and it passed or failed. -/
  | exited (state : String) (position : Nat) (passed : Bool)

/-- The flows that a listener is for. -/
inductive FlowCriteria where
  | any
  | ids (flows : List String)
deriving DecidableEq

namespace FlowCriteria

/-- A star, or ids separated by commas. -/
def ofString (source : String) : FlowCriteria :=
  if Text.trim source = "*" then any
  else ids (((Text.split ',' (Text.trim source)).map Text.trim).filter (· ≠ ""))

def appliesTo (c : FlowCriteria) (flow : String) : Bool :=
  match c with
  | .any => true
  | .ids named => named.contains flow

end FlowCriteria

structure Listener where
  flows : FlowCriteria
  hear : Hook → Context → List Value

namespace Listener

/-- The listeners for executions of a flow. -/
def choose (listeners : List Listener) (flow : String) : List Listener :=
  listeners.filter fun l => l.flows.appliesTo flow

/-- What is written down of one entry once all listeners have heard it. -/
def heardOf (listeners : List Listener) : Entry → List Value
  | .note v => [v]
  | .notice hook context => listeners.flatMap fun l => l.hear hook context
  | .ran .. => []
  | .taken _ => []
  | .fired _ => []
  | .exited .. => []

def heard (listeners : List Listener) (journal : List Entry) : List Value :=
  journal.flatMap (heardOf listeners)

end Listener

end Parley
