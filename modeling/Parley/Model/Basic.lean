import Parley.Flow.Session

/-!
# Parley.Model.Basic

Flow models: flows as they are written down, before any name in them is looked up.
-/

namespace Parley

inductive ActionModel where
  | named (name : String)
  | bean (name : String)
  | evaluate (expression : String) (result type : Option String)
  | set (target value : String) (type : Option String)
deriving DecidableEq

structure MappingModel where
  name : String
  value : Option String
  type : Option String
  required : Bool
deriving DecidableEq

/-- One branch of a decision. -/
structure BranchModel where
  test : String
  thenTo : String
  elseTo : Option String
deriving DecidableEq

structure VariableModel where
  name : String
  value : Option Value
  expression : Option String

structure HandlerModel where
  on : String
  destination : String
deriving DecidableEq

structure TransitionModel where
  on : Option String
  onException : Option String
  destination : Option String
  actions : List ActionModel
  history : Option History
  attributes : Attributes

inductive StateKindModel where
  | view (view : Option String) (redirect popup : Bool) (vars : List VariableModel)
      (onRender : List ActionModel) (transitions : List TransitionModel)
  | action (actions : List ActionModel) (transitions : List TransitionModel)
  | decision (branches : List BranchModel)
  | subflow (flow : String) (inputs outputs : List MappingModel)
      (transitions : List TransitionModel)
  | final (view : Option String) (outputs : List MappingModel)

namespace StateKindModel

/-- The word that names the kind. -/
def name : StateKindModel → String
  | view .. => "view"
  | action .. => "action"
  | decision .. => "decision"
  | subflow .. => "subflow"
  | final .. => "end"

def transitions : StateKindModel → List TransitionModel
  | view _ _ _ _ _ transitions => transitions
  | action _ transitions => transitions
  | subflow _ _ _ transitions => transitions
  | decision _ => []
  | final .. => []

end StateKindModel

structure StateModel where
  id : String
  kind : StateKindModel
  onEntry : List ActionModel
  onExit : List ActionModel
  handlers : List HandlerModel
  attributes : Attributes

structure FlowModel where
  id : Option String
  start : Option String
  attributes : Attributes
  vars : List VariableModel
  inputs : List MappingModel
  outputs : List MappingModel
  onStart : List ActionModel
  onEnd : List ActionModel
  states : List StateModel
  globalTransitions : List TransitionModel
  handlers : List HandlerModel

namespace FlowModel

def empty : FlowModel := ⟨none, none, .empty, [], [], [], [], [], [], [], []⟩

end FlowModel

end Parley
