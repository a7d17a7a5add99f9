import Parley.Document.Record
import Parley.Model.Basic

/-!
# Parley.Model.Reading

Models from documents: which records a model consists of, and which fields they have.

Actions, and the fields that belong to one kind of state, leave open what they stand for until they
are known as a whole. They are read in the settled manner.
-/

namespace Parley

namespace Model

/-- The fields of an action, whose record is never a list. -/
def actionFields (m : Manner) (names : List String) : Document → Option Record
  | .fields fs => Record.ofDocument m names (.fields fs)
  | _ => none

def readBean (m : Manner) (d : Document) : Option ActionModel :=
  (actionFields m ["bean"] d).bind fun r => (r.string "bean").map .bean

def readEvaluate (m : Manner) (d : Document) : Option ActionModel :=
  (actionFields m ["evaluate", "result", "result_type"] d).bind fun r => do
    let expression ← r.string "evaluate"
    let result ← r.optional "result"
    let type ← r.optional "result_type"
    return .evaluate expression result type

def readSet (m : Manner) (d : Document) : Option ActionModel :=
  (actionFields m ["set", "value", "type"] d).bind fun r => do
    let target ← r.string "set"
    let value ← r.string "value"
    let type ← r.optional "type"
    return .set target value type

/-- An action in the first form that fits: a name, a bean, an evaluation, an assignment. -/
def readAction (m : Manner) (d : Document) : Option ActionModel :=
  let m := m.settle
  if d.isWhole then
    ((d.string? m).map .named) <|> readBean m d <|> readEvaluate m d <|> readSet m d
  else none

def readMapping (m : Manner) (d : Document) : Option MappingModel :=
  (Record.ofDocument m ["name", "value", "type", "required"] d).bind fun r => do
    let name ← r.string "name"
    let value ← r.optional "value"
    let type ← r.optional "type"
    let required ← r.bool "required"
    return ⟨name, value, type, required⟩

def readBranch (m : Manner) (d : Document) : Option BranchModel :=
  (Record.ofDocument m ["test", "then", "else"] d).bind fun r => do
    let test ← r.string "test"
    let thenTo ← r.string "then"
    let elseTo ← r.optional "else"
    return ⟨test, thenTo, elseTo⟩

def readVariable (m : Manner) (d : Document) : Option VariableModel :=
  (Record.ofDocument m ["name", "value", "expression"] d).bind fun r => do
    let name ← r.string "name"
    let value ← r.orElse "value" none (Document.optional? m (Document.toValue? m))
    let expression ← r.optional "expression"
    return ⟨name, value, expression⟩

def readHandler (m : Manner) (d : Document) : Option HandlerModel :=
  (Record.ofDocument m ["on_exception", "to"] d).bind fun r => do
    let on ← r.string "on_exception"
    let destination ← r.string "to"
    return ⟨on, destination⟩

def readHistory (m : Manner) (d : Document) : Option History :=
  (d.choice? m (History.all.map History.name)).bind History.ofName?

def readTransition (m : Manner) (d : Document) : Option TransitionModel :=
  (Record.ofDocument m ["on", "on_exception", "to", "actions", "history", "attributes"] d).bind
    fun r => do
      let on ← r.optional "on"
      let onException ← r.optional "on_exception"
      let destination ← r.optional "to"
      let actions ← r.list "actions" (readAction m)
      let history ← r.orElse "history" none (Document.optional? m (readHistory m))
      let attributes ← r.attributes "attributes"
      return ⟨on, onException, destination, actions, history, attributes⟩

/-- The fields that every state has. -/
def stateFields : List String := ["id", "on_entry", "on_exit", "exception_handlers", "attributes"]

/-- The kinds of states in the order of their numbers. -/
def kindNames : List String := ["view", "action", "decision", "subflow", "end"]

def readView (r : Record) : Option StateKindModel := do
  let view ← r.optional "view"
  let redirect ← r.bool "redirect"
  let popup ← r.bool "popup"
  let vars ← r.list "vars" (readVariable r.manner)
  let onRender ← r.list "on_render" (readAction r.manner)
  let transitions ← r.list "transitions" (readTransition r.manner)
  return .view view redirect popup vars onRender transitions

def readActionState (r : Record) : Option StateKindModel := do
  let actions ← r.list "actions" (readAction r.manner)
  let transitions ← r.list "transitions" (readTransition r.manner)
  return .action actions transitions

def readSubflow (r : Record) : Option StateKindModel := do
  let flow ← r.string "subflow"
  let inputs ← r.list "inputs" (readMapping r.manner)
  let outputs ← r.list "outputs" (readMapping r.manner)
  let transitions ← r.list "transitions" (readTransition r.manner)
  return .subflow flow inputs outputs transitions

def readFinal (r : Record) : Option StateKindModel := do
  let view ← r.optional "view"
  let outputs ← r.list "outputs" (readMapping r.manner)
  return .final view outputs

/-- What belongs to the kind of a state, from all fields that are not common to states. -/
def readKind (m : Manner) (own : List (String × Document)) : Option StateKindModel :=
  let fields := Record.ofNamed m
  if !(own.all fun field => field.2.isWhole) || !Record.unrepeated ["type"] own then none
  else
    match (Fields.get? "type" own).bind (Document.nameOf? m kindNames) with
    | some "view" =>
      (fields ["view", "redirect", "popup", "vars", "on_render", "transitions"] own).bind readView
    | some "action" => (fields ["actions", "transitions"] own).bind readActionState
    | some "decision" =>
      (fields ["ifs"] own).bind fun r => (r.list "ifs" (readBranch m)).map .decision
    | some "subflow" =>
      (fields ["subflow", "inputs", "outputs", "transitions"] own).bind readSubflow
    | some "end" => (fields ["view", "outputs"] own).bind readFinal
    | _ => none

/-- A state is always a record with names. -/
def readState (m : Manner) (d : Document) : Option StateModel :=
  ((d.fields? m).bind (Record.named? m [])).bind fun fs =>
    (Record.ofNamed m stateFields fs).bind fun r => do
      let id ← r.string "id"
      let kind ← readKind m.settle (fs.filter fun field => field.1 ∉ stateFields)
      let onEntry ← r.list "on_entry" (readAction m)
      let onExit ← r.list "on_exit" (readAction m)
      let handlers ← r.list "exception_handlers" (readHandler m)
      let attributes ← r.attributes "attributes"
      return ⟨id, kind, onEntry, onExit, handlers, attributes⟩

def flowFields : List String :=
  ["id", "start_state", "attributes", "vars", "inputs", "outputs", "on_start", "on_end", "states",
    "global_transitions", "exception_handlers"]

end Model

namespace FlowModel

open Model in
/-- The model that a document describes, if it describes one. -/
def ofDocument (m : Manner) (d : Document) : Option FlowModel :=
  (Record.ofDocument m flowFields d).bind fun r => do
    let id ← r.optional "id"
    let start ← r.optional "start_state"
    let attributes ← r.attributes "attributes"
    let vars ← r.list "vars" (readVariable m)
    let inputs ← r.list "inputs" (readMapping m)
    let outputs ← r.list "outputs" (readMapping m)
    let onStart ← r.list "on_start" (readAction m)
    let onEnd ← r.list "on_end" (readAction m)
    let states ← r.list "states" (readState m)
    let globalTransitions ← r.list "global_transitions" (readTransition m)
    let handlers ← r.list "exception_handlers" (readHandler m)
    return ⟨id, start, attributes, vars, inputs, outputs, onStart, onEnd, states,
      globalTransitions, handlers⟩

end FlowModel

end Parley
