import Parley.Flow.Action

/-!
# Parley.Flow.Transition

Transitions: when one applies, what may hold it back, where it leads, and what it does to the
history. Criteria and targets only read the context; guards are actions. Reading an expression never
fails, so a criterion holds or it does not, and only a target can turn out to name nothing.
-/

namespace Parley

inductive Criteria where
  | event (id : String)
  | anyEvent
  | condition (expression : Expression)
  | always

namespace Criteria

def holds (c : Criteria) (context : Context) : Bool :=
  match c with
  | event id => (context.event.map fun e => decide (e.id = id)).getD false
  | anyEvent => true
  | condition expression => (expression.eval context).truthy
  | always => true

def text : Criteria → String
  | event id => id
  | anyEvent => "*"
  | condition expression => "$\x7b" ++ expression.source ++ "\x7d"
  | always => "<always>"

end Criteria

inductive Target where
  | fixed (state : String)
  | computed (expression : Expression)

namespace Target

/-- The state that the target names now. -/
def resolve (t : Target) (context : Context) : Except EvaluationError String :=
  match t with
  | fixed state => .ok state
  | computed expression =>
    let state := (expression.eval context).display
    if state.isEmpty then .error (.invalidResult expression.source "target state id is empty")
    else .ok state

def fixed? : Target → Option String
  | fixed state => some state
  | computed _ => none

end Target

structure Transition where
  criteria : Criteria
  guards : List Action
  target : Option Target
  history : History
  attributes : Attributes

namespace Transition

/-- The state that the transition names without looking at a context. -/
def fixedTarget? (t : Transition) : Option String := t.target.bind Target.fixed?

end Transition

end Parley
