import Parley.Expression.Token
import Parley.Mapping

/-!
# Parley.Fault

What goes wrong: building a flow, finding its definition, an action, and a request. Each error is
its cause; `message` is its only wording.
-/

namespace Parley

/-- Why a flow cannot be built. -/
inductive BuildError where
  | artifactNotFound (kind id : String)
  | phaseOrder (expected actual : String)
  | notInitialized (phase : String)
  | malformedModel (resource reason : String)
  | emptyFlow (flow : String)
  | duplicateState (flow state : String)
  | startStateNotFound (flow state : String)
  | invalidTarget (flow state target : String)
  | expression (error : ExpressionError)
  | unreadable (reason : String)
deriving DecidableEq

namespace BuildError

/-- The word for the kind of error. -/
def code : BuildError → String
  | artifactNotFound .. => "artifact_not_found"
  | phaseOrder .. => "phase_order"
  | notInitialized .. => "not_initialized"
  | malformedModel .. => "malformed_model"
  | emptyFlow .. => "empty_flow"
  | duplicateState .. => "duplicate_state"
  | startStateNotFound .. => "start_state_not_found"
  | invalidTarget .. => "invalid_target"
  | expression .. => "expression"
  | unreadable .. => "io"

def message : BuildError → String
  | artifactNotFound kind id => s!"Flow artifact not found: {kind} '{id}'"
  | phaseOrder expected actual => s!"Builder phase out of order: expected {expected}, got {actual}"
  | notInitialized phase => s!"Builder has no flow under construction during phase {phase}"
  | malformedModel resource reason => s!"Malformed flow model '{resource}': {reason}"
  | emptyFlow flow => s!"Flow '{flow}' has no states"
  | duplicateState flow state => s!"Duplicate state '{state}' in flow '{flow}'"
  | startStateNotFound flow state => s!"Start state '{state}' not found in flow '{flow}'"
  | invalidTarget flow state target =>
    s!"State '{state}' of flow '{flow}' targets unknown state '{target}'"
  | expression error => "Expression error: " ++ error.message
  | unreadable reason => s!"Flow resource error: {reason}"

/-- The text of the innermost cause. -/
def rootCause : BuildError → String
  | expression error => error.message
  | unreadable reason => reason
  | other => other.message

end BuildError

/-- Why a flow definition cannot be had. -/
inductive LocateError where
  | noSuchFlowDefinition (flow : String)
  | assembly (flow : String) (cause : BuildError)
deriving DecidableEq

namespace LocateError

/-- The word for the kind of error. -/
def code : LocateError → String
  | noSuchFlowDefinition .. => "no_such_flow_definition"
  | assembly .. => "assembly"

def message : LocateError → String
  | noSuchFlowDefinition flow => s!"No flow definition '{flow}' found"
  | assembly flow cause => s!"Flow definition '{flow}' could not be assembled: " ++ cause.message

def rootCause : LocateError → String
  | noSuchFlowDefinition flow => (noSuchFlowDefinition flow).message
  | assembly _ cause => cause.rootCause

end LocateError

/-- The failure of an action: a dotted kind, and a text. -/
structure ActionError where
  kind : String
  text : String
deriving DecidableEq

namespace ActionError

def message (e : ActionError) : String := e.kind ++ ": " ++ e.text

def ofEvaluation (e : EvaluationError) : ActionError := ⟨"evaluation", e.message⟩

def ofConversion (e : ConversionError) : ActionError := ⟨"conversion", e.message⟩

end ActionError

/-- Why a request on an execution fails. -/
inductive ExecutionError where
  | actionExecution (flow : String) (state : Option String) (cause : ActionError)
  | noMatchingTransition (flow state event : String)
  | noMatchingActionResult (flow state : String) (events : List String)
  | transitionVetoed (flow state event : String)
  | targetStateNotFound (flow state target : String)
  | mapping (flow : String) (errors : List MappingError)
  | evaluation (flow : String) (cause : EvaluationError)
  | subflowNotFound (flow state : String) (cause : LocateError)
  | illegalState (reason : String)
deriving DecidableEq

namespace ExecutionError

def message : ExecutionError → String
  | actionExecution flow state cause =>
    let place := state.getD "<none>"
    s!"Action failed in flow '{flow}' state '{place}': " ++ cause.message
  | noMatchingTransition flow state event =>
    s!"No transition in flow '{flow}' state '{state}' matches event '{event}'"
  | noMatchingActionResult flow state events =>
    s!"No action result of state '{state}' in flow '{flow}' matched a transition (signaled "
      ++ Text.quotedList events ++ ")"
  | transitionVetoed flow state event =>
    s!"Transition on '{event}' from state '{state}' of flow '{flow}' was vetoed"
  | targetStateNotFound flow state target =>
    s!"Target state '{target}' from state '{state}' not found in flow '{flow}'"
  | mapping flow errors =>
    s!"Attribute mapping failed in flow '{flow}' with " ++ toString errors.length ++ " error(s)"
  | evaluation flow cause => s!"Expression evaluation failed in flow '{flow}': " ++ cause.message
  | subflowNotFound flow state cause =>
    s!"Subflow of state '{state}' in flow '{flow}' could not be resolved: " ++ cause.message
  | illegalState reason => s!"Illegal execution state: {reason}"

/-- The word for the kind of error. -/
def code : ExecutionError → String
  | actionExecution .. => "action_execution"
  | noMatchingTransition .. => "no_matching_transition"
  | noMatchingActionResult .. => "no_matching_action_result"
  | transitionVetoed .. => "transition_vetoed"
  | targetStateNotFound .. => "target_state_not_found"
  | mapping .. => "mapping"
  | evaluation .. => "evaluation"
  | subflowNotFound .. => "subflow_not_found"
  | illegalState _ => "illegal_state"

/-- The kind of the error alone, and for a failed action the action's own kind before it. -/
def ownKinds : ExecutionError → List String
  | actionExecution flow state cause => [cause.kind, (actionExecution flow state cause).code]
  | other => [other.code]

/-- The kinds by which handlers choose, from the most particular to that of every error. -/
def kinds (e : ExecutionError) : List String := e.ownKinds ++ ["flow_execution"]

/-- The execution can go on after the error. -/
def resumable : ExecutionError → Bool
  | illegalState _ => false
  | _ => true

/-- The flow in which the error arose. -/
def flow? : ExecutionError → Option String
  | actionExecution flow .. => some flow
  | noMatchingTransition flow .. => some flow
  | noMatchingActionResult flow .. => some flow
  | transitionVetoed flow .. => some flow
  | targetStateNotFound flow .. => some flow
  | mapping flow _ => some flow
  | evaluation flow _ => some flow
  | subflowNotFound flow .. => some flow
  | illegalState _ => none

/-- The text of the innermost cause. -/
def rootCause : ExecutionError → String
  | actionExecution _ _ cause => cause.message
  | evaluation _ cause => cause.message
  | subflowNotFound _ _ cause => cause.rootCause
  | other => other.message

end ExecutionError

/-- A pattern matches a kind that it names, every kind below that one, or any kind when it is a
star. -/
def kindMatches (pattern kind : String) : Bool :=
  pattern = "*" || pattern = kind ||
    match Text.dropBeginning pattern.toList kind.toList with
    | some ('.' :: _) => true
    | _ => false

end Parley
