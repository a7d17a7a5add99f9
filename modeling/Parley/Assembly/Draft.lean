import Parley.Flow.Basic

/-!
# Parley.Assembly.Draft

A flow under construction, and how what is written about it becomes what it consists of: names of
actions and types are looked up, and texts become expressions.
-/

namespace Parley

/-- What flows are built with: the actions that can be named, and the maker of views. -/
structure Toolbox where
  actions : Fields Action
  viewFactory : Expression → ViewFactory

namespace Toolbox

def ofActions (actions : Fields Action) : Toolbox := ⟨actions, ViewFactory.named⟩

def action (t : Toolbox) (name : String) : Except BuildError Action :=
  match t.actions.get? name with
  | some action => .ok action
  | none => .error (.artifactNotFound "action" name)

end Toolbox

/-- The surroundings in which one flow is built. -/
structure BuildContext where
  flowId : String
  attributes : Attributes
  tools : Toolbox

structure Draft where
  context : BuildContext
  flow : Flow

/-- The common parts of a state. -/
structure StateFrame where
  id : String
  entry : List Action
  exit : List Action
  handlers : List Handler
  attributes : Attributes

namespace Draft

def blank (context : BuildContext) (attributes : Attributes) : Draft :=
  ⟨context, Flow.blank context.flowId attributes⟩

def expression (source : String) : Except BuildError Expression :=
  (Expression.ofBare source).mapError .expression

def template (source : String) : Except BuildError Expression :=
  (Expression.ofTemplate source).mapError .expression

/-- A type that values convert to. -/
def conversion (type : String) : Except BuildError String :=
  if supportsType type then .ok type else .error (.artifactNotFound "type conversion" type)

def optional {α β : Type} (f : α → Except BuildError β) : Option α → Except BuildError (Option β)
  | none => .ok none
  | some a => (f a).map some

/-- No text means always, a star any event, a text with holes a condition, any other an event. -/
def criteria : Option String → Except BuildError Criteria
  | none => .ok .always
  | some on =>
    if Expression.isTemplate on then (expression on).map .condition
    else if on = "*" then .ok .anyEvent
    else .ok (.event on)

/-- A text with holes is computed, any other one is the id of a state. -/
def target : Option String → Except BuildError (Option Target)
  | none => .ok none
  | some destination =>
    if Expression.isTemplate destination then (template destination).map fun e => some (.computed e)
    else .ok (some (.fixed destination))

def transition (on destination : Option String) (guards : List Action) (history : History)
    (attributes : Attributes) : Except BuildError Transition := do
  let criteria ← criteria on
  let target ← target destination
  return ⟨criteria, guards, target, history, attributes⟩

def mapping (source target : String) (type : Option String) (required : Bool) :
    Except BuildError Mapping := do
  let source ← expression source
  let target ← expression target
  let type ← optional conversion type
  return ⟨source, target, type, required⟩

/-- The handler for a list of kinds separated by commas. -/
def handler (kinds destination : String) : Handler :=
  Handler.transition (((Text.split ',' kinds).map Text.trim).filter (· ≠ "")) destination

def action (d : Draft) (name : String) : Except BuildError Action := d.context.tools.action name

def update (d : Draft) (f : Flow → Flow) : Draft := { d with flow := f d.flow }

def addVariable (d : Draft) (v : FlowVariable) : Draft :=
  d.update fun f => { f with vars := f.vars ++ [v] }

/-- The draft with an input mapper, if one is given. -/
def setInput (d : Draft) (mapper : Option Mapper) : Draft :=
  d.update fun f => { f with input := mapper <|> f.input }

/-- The draft with an output mapper, if one is given. -/
def setOutput (d : Draft) (mapper : Option Mapper) : Draft :=
  d.update fun f => { f with output := mapper <|> f.output }

def addStartActions (d : Draft) (actions : List Action) : Draft :=
  d.update fun f => { f with startActions := f.startActions ++ actions }

def addEndActions (d : Draft) (actions : List Action) : Draft :=
  d.update fun f => { f with endActions := f.endActions ++ actions }

def addGlobalTransitions (d : Draft) (transitions : List Transition) : Draft :=
  d.update fun f => { f with globalTransitions := f.globalTransitions ++ transitions }

def addHandlers (d : Draft) (handlers : List Handler) : Draft :=
  d.update fun f => { f with handlers := f.handlers ++ handlers }

/-- The draft with a start state, if one is named. -/
def setStart (d : Draft) (start : Option String) : Draft :=
  d.update fun f => { f with start := start <|> f.start }

/-- A change that needs something first; without it the draft stays as it is. -/
def change {α : Type} (d : Draft) (found : Except BuildError α) (f : Draft → α → Draft) :
    Except BuildError Unit × Draft :=
  match found with
  | .error e => (.error e, d)
  | .ok a => (.ok (), f d a)

/-- One addition after the other. The first that fails ends it, and what was added stays. -/
def addAll {α : Type} (add : Draft → α → Except BuildError Draft) (items : List α) (d : Draft) :
    Except BuildError Unit × Draft :=
  match items with
  | [] => (.ok (), d)
  | a :: rest =>
    match add d a with
    | .error e => (.error e, d)
    | .ok changed => addAll add rest changed

def viewFactory (d : Draft) (view : String) : Except BuildError ViewFactory :=
  (template view).map d.context.tools.viewFactory

def addState (d : Draft) (frame : StateFrame) (kind : StateKind) : Except BuildError Draft :=
  let state : State :=
    ⟨frame.id, frame.entry, frame.exit, frame.handlers, frame.attributes, kind⟩
  match d.flow.addState state with
  | .ok flow => .ok { d with flow := flow }
  | .error e => .error e

def addActionState (d : Draft) (frame : StateFrame) (actions : List Action)
    (transitions : List Transition) : Except BuildError Draft :=
  d.addState frame (.action actions transitions)

def addViewState (d : Draft) (frame : StateFrame) (view : String) (renderActions : List Action)
    (vars : List FlowVariable) (redirect popup : Bool) (transitions : List Transition) :
    Except BuildError Draft := do
  let factory ← d.viewFactory view
  d.addState frame (.view ⟨factory, renderActions, vars, redirect, popup⟩ transitions)

/-- The transition of one branch: its test is the criteria, its target the state. -/
def branch (b : String × String) : Except BuildError Transition := do
  let test ← expression b.1
  let target ← target (some b.2)
  return ⟨.condition test, [], target, .preserve, .empty⟩

/-- The transition taken when no branch is. -/
def otherwise (destination : String) : Except BuildError Transition :=
  transition none (some destination) [] .preserve .empty

def addDecisionState (d : Draft) (frame : StateFrame) (branches : List (String × String))
    (otherwiseTo : Option String) : Except BuildError Draft := do
  let tests ← branches.mapM branch
  let last ← optional otherwise otherwiseTo
  d.addState frame (.decision (tests ++ last.toList))

def subflowRef (flow : String) : Except BuildError SubflowRef :=
  if Expression.isTemplate flow then (template flow).map .computed else .ok (.fixed flow)

def addSubflowState (d : Draft) (frame : StateFrame) (flow : String) (input output : Option Mapper)
    (transitions : List Transition) : Except BuildError Draft := do
  let ref ← subflowRef flow
  d.addState frame (.subflow ⟨ref, input, output⟩ transitions)

def addEndState (d : Draft) (frame : StateFrame) (view : Option String) (output : Option Mapper) :
    Except BuildError Draft := do
  let factory ← optional d.viewFactory view
  d.addState frame (.final ⟨factory.map Action.render, output⟩)

end Draft

end Parley
