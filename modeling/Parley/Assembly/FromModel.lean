import Parley.Assembly.Draft
import Parley.Assembly.Phase
import Parley.Model.Basic

/-!
# Parley.Assembly.FromModel

Flows from models: what each phase adds to a draft. A phase that fails may leave what it added
before the failure.
-/

namespace Parley

/-- What each phase does with a draft. -/
abbrev Program := Phase → Draft → Except BuildError Unit × Draft

namespace FromModel

/-- Whether a mapping brings values into a flow's scopes or takes them out. -/
inductive Direction where
  | inbound
  | outbound
deriving DecidableEq

def action (d : Draft) : ActionModel → Except BuildError Action
  | .named name => d.action name
  | .bean name => d.action name
  | .evaluate source result type => do
    let expression ← Draft.expression source
    let result ← Draft.optional Draft.expression result
    let type ← Draft.optional Draft.conversion type
    return Action.evaluate expression result type
  | .set target value type => do
    let target ← Draft.expression target
    let value ← Draft.expression value
    let type ← Draft.optional Draft.conversion type
    return Action.set target value type

def actions (d : Draft) (models : List ActionModel) : Except BuildError (List Action) :=
  models.mapM (action d)

/-- An expression is preferred to a value; with neither the variable starts as nothing. -/
def initialised (m : VariableModel) : Except BuildError FlowVariable :=
  match m.expression with
  | some source => (Draft.expression source).map fun e => ⟨m.name, .expression e⟩
  | none => .ok ⟨m.name, .literal (m.value.getD .null)⟩

/-- Inbound, the name is read and the value tells where it goes, by default the flow scope.
Outbound, the value is read, by default from the name, and the name is written. -/
def mapping (direction : Direction) (m : MappingModel) : Except BuildError Mapping :=
  match direction with
  | .inbound => Draft.mapping m.name (m.value.getD ("flowScope." ++ m.name)) m.type m.required
  | .outbound => Draft.mapping (m.value.getD m.name) m.name m.type m.required

/-- No mappings make no mapper. -/
def mapper (direction : Direction) (models : List MappingModel) :
    Except BuildError (Option Mapper) :=
  if models.isEmpty then .ok none else (models.mapM (mapping direction)).map some

/-- The handler that stands for a transition on an exception. -/
def transitionHandler? (t : TransitionModel) : Option Handler :=
  match t.onException, t.destination with
  | some kinds, some destination => some (Draft.handler kinds destination)
  | _, _ => none

/-- The declared handlers, then those that transitions stand for. -/
def handlers (models : List HandlerModel) (transitions : List TransitionModel) : List Handler :=
  models.map (fun h => Draft.handler h.on h.destination) ++ transitions.filterMap transitionHandler?

def transition (d : Draft) (t : TransitionModel) : Except BuildError Transition := do
  let guards ← actions d t.actions
  Draft.transition t.on t.destination guards (t.history.getD .preserve) t.attributes

/-- The transitions that are not on an exception. -/
def transitions (d : Draft) (models : List TransitionModel) : Except BuildError (List Transition) :=
  (models.filter fun t => t.onException.isNone).mapM (transition d)

/-- The branches up to and with the first that has an else. -/
def reachable : List BranchModel → List BranchModel
  | [] => []
  | b :: rest => if b.elseTo.isSome then [b] else b :: reachable rest

def addKind (d : Draft) (frame : StateFrame) : StateKindModel → Except BuildError Draft
  | .view view redirect popup vars onRender models => do
    let renderActions ← actions d onRender
    let vars ← vars.mapM initialised
    let transitions ← transitions d models
    d.addViewState frame (view.getD frame.id) renderActions vars redirect popup transitions
  | .action models transitionModels => do
    let actions ← actions d models
    let transitions ← transitions d transitionModels
    d.addActionState frame actions transitions
  | .decision branches =>
    if branches.isEmpty then
      .error (.malformedModel d.context.flowId
        ("decision state '" ++ frame.id ++ "' has no branches"))
    else
      let kept := reachable branches
      d.addDecisionState frame (kept.map fun b => (b.test, b.thenTo))
        (kept.getLast?.bind (·.elseTo))
  | .subflow flow inputs outputs models => do
    let input ← mapper .outbound inputs
    let output ← mapper .inbound outputs
    let transitions ← transitions d models
    d.addSubflowState frame flow input output transitions
  | .final view outputs => do
    let output ← mapper .outbound outputs
    d.addEndState frame view output

def addState (d : Draft) (m : StateModel) : Except BuildError Draft := do
  let entry ← actions d m.onEntry
  let exit ← actions d m.onExit
  addKind d ⟨m.id, entry, exit, handlers m.handlers m.kind.transitions, m.attributes⟩ m.kind

def addVariable (d : Draft) (m : VariableModel) : Except BuildError Draft :=
  (initialised m).map d.addVariable

/-- The states one by one, then the start state. -/
def addStates (m : FlowModel) (d : Draft) : Except BuildError Unit × Draft :=
  match Draft.addAll addState m.states d with
  | (.error e, d) => (.error e, d)
  | (.ok (), d) => (.ok (), d.setStart m.start)

/-- What a model says for each phase. -/
def program (m : FlowModel) : Program := fun phase d =>
  match phase with
  | .vars => Draft.addAll addVariable m.vars d
  | .inputMapper => d.change (mapper .inbound m.inputs) Draft.setInput
  | .startActions => d.change (actions d m.onStart) Draft.addStartActions
  | .states => addStates m d
  | .globalTransitions => d.change (transitions d m.globalTransitions) Draft.addGlobalTransitions
  | .endActions => d.change (actions d m.onEnd) Draft.addEndActions
  | .outputMapper => d.change (mapper .outbound m.outputs) Draft.setOutput
  | .exceptionHandlers => (.ok (), d.addHandlers (handlers m.handlers m.globalTransitions))
  | .start => (.ok (), d)
  | .getFlow => (.ok (), d)

end FromModel

end Parley
