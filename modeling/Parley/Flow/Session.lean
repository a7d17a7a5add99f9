import Parley.Value.Attributes

/-!
# Parley.Flow.Session

Events, sessions and views: the data of a running flow that a store can keep.

A session is one flow under way. It is written over the type of what stands for the flow, so that
the same session holds the definition while it runs and only the flow's id while it is stored or
shown to an action.
-/

namespace Parley

structure Event where
  id : String
  attributes : Attributes
deriving Inhabited

namespace Event

def named (id : String) : Event := ⟨id, .empty⟩

def success : Event := named "success"

def yesOrNo (b : Bool) : Event := named (if b then "yes" else "no")

/-- The event of a guard that lets a transition pass. -/
def isSuccess (e : Event) : Bool := e.id = "success" || e.id = "yes" || e.id = "true"

def toValue (e : Event) : Value :=
  .object [("attributes", e.attributes.toValue), ("id", .text e.id)]

end Event

inductive SessionStatus where
  | starting
  | active
  | paused
  | suspended
  | ended
deriving DecidableEq

namespace SessionStatus

def name : SessionStatus → String
  | starting => "starting"
  | active => "active"
  | paused => "paused"
  | suspended => "suspended"
  | ended => "ended"

def all : List SessionStatus := [starting, active, paused, suspended, ended]

def ofName? (name : String) : Option SessionStatus := all.find? fun s => s.name = name

end SessionStatus

structure Session (φ : Type) where
  flow : φ
  state : Option String
  status : SessionStatus
  scope : Attributes
  viewScope : Attributes

namespace Session

variable {φ ψ : Type}

/-- A session of a flow that has not entered a state. -/
def fresh (flow : φ) : Session φ := ⟨flow, none, .starting, .empty, .empty⟩

/-- The same session with something else for its flow. -/
def map (f : φ → ψ) (s : Session φ) : Session ψ :=
  ⟨f s.flow, s.state, s.status, s.scope, s.viewScope⟩

end Session

/-- A view ready to be shown: its name and what it shows. -/
structure RenderedView where
  id : String
  model : Value

inductive ExecutionStatus where
  | notStarted
  | active
  | ended
deriving DecidableEq

namespace ExecutionStatus

def name : ExecutionStatus → String
  | notStarted => "not_started"
  | active => "active"
  | ended => "ended"

def all : List ExecutionStatus := [notStarted, active, ended]

def ofName? (name : String) : Option ExecutionStatus := all.find? fun s => s.name = name

end ExecutionStatus

/-- What becomes of the snapshots behind the current one. -/
inductive History where
  | preserve
  | discard
  | invalidate
deriving DecidableEq

namespace History

def name : History → String
  | preserve => "preserve"
  | discard => "discard"
  | invalidate => "invalidate"

def all : List History := [preserve, discard, invalidate]

def ofName? (name : String) : Option History := all.find? fun h => h.name = name

end History

end Parley
