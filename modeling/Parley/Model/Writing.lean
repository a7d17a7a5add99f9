import Parley.Model.Basic

/-!
# Parley.Model.Writing

Models as values. Every field is written, an option that is not there as nothing; the own fields
of a state stand beside those that all states have.
-/

namespace Parley

namespace Model

def writeOption (s : Option String) : Value :=
  match s with
  | some s => .text s
  | none => .null

def writeAction : ActionModel → Value
  | .named name => .text name
  | .bean name => .object [("bean", .text name)]
  | .evaluate expression result type =>
    .object [("evaluate", .text expression), ("result", writeOption result),
      ("result_type", writeOption type)]
  | .set target value type =>
    .object [("set", .text target), ("type", writeOption type), ("value", .text value)]

def writeActions (actions : List ActionModel) : Value := .list (actions.map writeAction)

def writeMapping (m : MappingModel) : Value :=
  .object [("name", .text m.name), ("required", .bool m.required), ("type", writeOption m.type),
    ("value", writeOption m.value)]

def writeMappings (mappings : List MappingModel) : Value := .list (mappings.map writeMapping)

def writeBranch (b : BranchModel) : Value :=
  .object [("else", writeOption b.elseTo), ("test", .text b.test), ("then", .text b.thenTo)]

def writeVariable (v : VariableModel) : Value :=
  .object [("expression", writeOption v.expression), ("name", .text v.name),
    ("value", v.value.getD .null)]

def writeVariables (vars : List VariableModel) : Value := .list (vars.map writeVariable)

def writeHandler (h : HandlerModel) : Value :=
  .object [("on_exception", .text h.on), ("to", .text h.destination)]

def writeHandlers (handlers : List HandlerModel) : Value := .list (handlers.map writeHandler)

def writeTransition (t : TransitionModel) : Value :=
  .object [("actions", writeActions t.actions), ("attributes", t.attributes.toValue),
    ("history", writeOption (t.history.map History.name)), ("on", writeOption t.on),
    ("on_exception", writeOption t.onException), ("to", writeOption t.destination)]

def writeTransitions (transitions : List TransitionModel) : Value :=
  .list (transitions.map writeTransition)

/-- The fields that belong to the kind of a state. -/
def kindFields : StateKindModel → List (String × Value)
  | .view view redirect popup vars onRender transitions =>
    [("on_render", writeActions onRender), ("popup", .bool popup), ("redirect", .bool redirect),
      ("transitions", writeTransitions transitions), ("type", .text "view"),
      ("vars", writeVariables vars), ("view", writeOption view)]
  | .action actions transitions =>
    [("actions", writeActions actions), ("transitions", writeTransitions transitions),
      ("type", .text "action")]
  | .decision branches =>
    [("ifs", .list (branches.map writeBranch)), ("type", .text "decision")]
  | .subflow flow inputs outputs transitions =>
    [("inputs", writeMappings inputs), ("outputs", writeMappings outputs), ("subflow", .text flow),
      ("transitions", writeTransitions transitions), ("type", .text "subflow")]
  | .final view outputs =>
    [("outputs", writeMappings outputs), ("type", .text "end"), ("view", writeOption view)]

def writeState (s : StateModel) : Value :=
  .object (Fields.ofPairs
    ([("attributes", s.attributes.toValue), ("exception_handlers", writeHandlers s.handlers),
      ("id", .text s.id), ("on_entry", writeActions s.onEntry), ("on_exit", writeActions s.onExit)]
      ++ kindFields s.kind))

end Model

namespace FlowModel

open Model in
def toValue (m : FlowModel) : Value :=
  .object [("attributes", m.attributes.toValue), ("exception_handlers", writeHandlers m.handlers),
    ("global_transitions", writeTransitions m.globalTransitions), ("id", writeOption m.id),
    ("inputs", writeMappings m.inputs), ("on_end", writeActions m.onEnd),
    ("on_start", writeActions m.onStart), ("outputs", writeMappings m.outputs),
    ("start_state", writeOption m.start), ("states", .list (m.states.map writeState)),
    ("vars", writeVariables m.vars)]

end FlowModel

end Parley
