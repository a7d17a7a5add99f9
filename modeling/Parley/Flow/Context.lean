import Parley.Fault
import Parley.Flow.Session

/-!
# Parley.Flow.Context

What a request shows to everything that a flow is made of: actions, guards, views, handlers,
criteria and mappings read it, and some of them write to it.

Of the sessions only the innermost one has scopes that can be written. A name without a scope in
front is looked for in the scopes from the narrowest to the widest; the first that has it holds the
property. Writing finds the same place, or else the flow scope.
-/

namespace Parley

inductive Scope where
  | request
  | flash
  | view
  | flow
  | conversation
deriving DecidableEq

namespace Scope

/-- The variable that names the scope in expressions. -/
def variableName : Scope → String
  | request => "requestScope"
  | flash => "flashScope"
  | view => "viewScope"
  | flow => "flowScope"
  | conversation => "conversationScope"

/-- The scopes in the order in which a plain name is looked for. -/
def searchOrder : List Scope := [request, flash, view, flow, conversation]

def ofVariable? (name : String) : Option Scope := searchOrder.find? fun s => s.variableName = name

end Scope

structure Context where
  /-- The flow that the execution was launched with. -/
  rootFlow : String
  status : ExecutionStatus
  /-- The sessions, innermost first. -/
  sessions : List (Session String)
  request : Attributes
  flash : Attributes
  conversation : Attributes
  event : Option Event
  transition : Option String
  parameters : Attributes
  requestId : String
  rendered : Option RenderedView
  /-- What actions and handlers have written down during the call. -/
  notes : List Value
  /-- The start state of a registered flow. -/
  startOf : String → Except LocateError String

namespace Context

def session? (c : Context) : Option (Session String) := c.sessions.head?

def flow? (c : Context) : Option String := c.session?.map (·.flow)

def state? (c : Context) : Option String := c.session?.bind (·.state)

def scope? (c : Context) : Scope → Option Attributes
  | .request => some c.request
  | .flash => some c.flash
  | .conversation => some c.conversation
  | .flow => c.session?.map (·.scope)
  | .view => c.session?.map (·.viewScope)

/-- The innermost session changed, if there is one. -/
def updateSession (c : Context) (f : Session String → Session String) : Context :=
  match c.sessions with
  | [] => c
  | s :: rest => { c with sessions := f s :: rest }

/-- The context with other attributes in a scope; a scope of the session needs a session. -/
def setScope (c : Context) (scope : Scope) (a : Attributes) : Context :=
  match scope with
  | .request => { c with request := a }
  | .flash => { c with flash := a }
  | .conversation => { c with conversation := a }
  | .flow => c.updateSession fun s => { s with scope := a }
  | .view => c.updateSession fun s => { s with viewScope := a }

def updateScope (c : Context) (scope : Scope) (f : Attributes → Attributes) : Context :=
  match c.scope? scope with
  | some a => c.setScope scope (f a)
  | none => c

def note (c : Context) (v : Value) : Context := { c with notes := c.notes ++ [v] }

/-- The first scope that has an attribute of the name. -/
def holder? (c : Context) (name : String) : Option Scope :=
  Scope.searchOrder.find? fun scope => ((c.scope? scope).map (·.contains name)).getD false

/-- The whole of some attributes, or what lies below them. -/
def within (a : Attributes) : Path → Option Value
  | [] => some a.toValue
  | path => a.getPath? path

/-- A property by a name without scope. -/
def searched? (c : Context) (first : String) (rest : Path) : Option Value :=
  match c.holder? first with
  | some scope => (c.scope? scope).bind fun a => a.getPath? (first :: rest)
  | none => none

def property? (c : Context) : Path → Option Value
  | [] => none
  | first :: rest =>
    match Scope.ofVariable? first with
    | some scope => (c.scope? scope).bind fun a => within a rest
    | none =>
      match first with
      | "currentEvent" => c.event.bind fun e => e.toValue.lookup? rest
      | "requestParameters" => within c.parameters rest
      | "currentState" =>
        if rest.isEmpty then c.state?.map .text else c.searched? first rest
      | _ => c.searched? first rest

/-- The names that no flow can write to. -/
def reserved : List String := ["currentEvent", "requestParameters", "currentState"]

/-- The scope with a value at the path. `whole` is the path as it was written. -/
def writeScope (c : Context) (whole : Path) (scope : Scope) (path : Path) (value : Value) :
    Except EvaluationError Context :=
  match c.scope? scope with
  | none => .error (.invalidAssignment whole.text "no active flow session")
  | some a =>
    match a.setPath path value with
    | .error e => .error e
    | .ok changed => .ok (c.setScope scope changed)

def setProperty (c : Context) (path : Path) (value : Value) : Except EvaluationError Context :=
  match path with
  | [] => .error (.invalidAssignment "" "empty path")
  | first :: rest =>
    match Scope.ofVariable? first with
    | some scope =>
      if rest.isEmpty then .error (.readOnlyProperty first)
      else c.writeScope path scope rest value
    | none =>
      if first ∈ reserved then .error (.readOnlyProperty path.text)
      else
        let fallback := if c.sessions.isEmpty then Scope.request else Scope.flow
        c.writeScope path ((c.holder? first).getD fallback) path value

instance : Properties Context where
  property? := Context.property?
  setProperty := Context.setProperty

end Context

end Parley
