import Parley.Execution.Listener
import Parley.Flow.Basic
import Parley.Json.Rereading
import Parley.Repository.Key

/-!
# Parley.Execution.Basic

Executions: a flow under way with its stack of sessions, and the snapshots that are kept of them.

A snapshot names flows by their ids. The view, the history and the outcome are no part of it, nor
is the conversation scope, which all snapshots of a conversation share.
-/

namespace Parley

/-- The flows that can be had by their ids. -/
abbrev Directory := String → Except LocateError Flow

/-- How an execution ended: the end state of its flow, and what came out. -/
structure Outcome where
  id : String
  output : Attributes

structure Execution where
  flow : Flow
  status : ExecutionStatus
  /-- The sessions, innermost first. -/
  sessions : List (Session Flow)
  conversation : Attributes
  flash : Attributes
  view : Option RenderedView
  history : History
  outcome : Option Outcome
  key : Option Key
  listeners : List Listener

structure Snapshot where
  flow : String
  status : ExecutionStatus
  /-- The sessions, innermost first. -/
  sessions : List (Session String)
  flash : Attributes

namespace Snapshot

def rereadSession (s : Session String) : Session String :=
  { s with scope := s.scope.reread, viewScope := s.viewScope.reread }

/-- The snapshot as it comes back from its written form. -/
def reread (s : Snapshot) : Snapshot :=
  { s with sessions := s.sessions.map rereadSession, flash := s.flash.reread }

end Snapshot

namespace Execution

/-- An execution that has not been started. Of the listeners those that are for its flow hear it. -/
def create (flow : Flow) (listeners : List Listener) : Execution where
  flow := flow
  status := .notStarted
  sessions := []
  conversation := .empty
  flash := .empty
  view := none
  history := .preserve
  outcome := none
  key := none
  listeners := Listener.choose listeners flow.id

def isActive (x : Execution) : Bool := x.status = .active

def hasEnded (x : Execution) : Bool := x.status = .ended

def session? (x : Execution) : Option (Session Flow) := x.sessions.head?

def state? (x : Execution) : Option String := x.session?.bind (·.state)

/-- The flow of the innermost session, or the execution's own. -/
def currentFlow (x : Execution) : Flow := (x.session?.map (·.flow)).getD x.flow

/-- The execution once it is stored under a key. -/
def withKey (x : Execution) (key : Key) : Execution := { x with key := some key }

/-- The view in which the execution waits asks for a redirect. -/
def redirectOnPause (x : Execution) : Bool :=
  match x.session?.bind fun s => s.state.bind s.flow.state? with
  | some ⟨_, _, _, _, _, .view part _⟩ => part.redirect
  | _ => false

def snapshot (x : Execution) : Snapshot where
  flow := x.flow.id
  status := x.status
  sessions := x.sessions.map (Session.map Flow.id)
  flash := x.flash

/-- A stored session with its flow; the root flow is not asked for again. -/
def restoreSession (directory : Directory) (root : Flow) (s : Session String) :
    Except LocateError (Session Flow) :=
  if s.flow = root.id then .ok (s.map fun _ => root)
  else
    match directory s.flow with
    | .ok flow => .ok (s.map fun _ => flow)
    | .error e => .error e

/-- All stored sessions with their flows, outermost first asked for. -/
def restoreSessions (directory : Directory) (root : Flow) :
    List (Session String) → Except LocateError (List (Session Flow))
  | [] => .ok []
  | s :: rest =>
    match restoreSessions directory root rest with
    | .error e => .error e
    | .ok outer =>
      match restoreSession directory root s with
      | .error e => .error e
      | .ok inner => .ok (inner :: outer)

/-- The execution that a snapshot was taken of, over the flows as they are now. -/
def restore (directory : Directory) (listeners : List Listener) (s : Snapshot)
    (conversation : Attributes) (key : Key) : Except LocateError Execution :=
  match directory s.flow with
  | .error e => .error e
  | .ok root =>
    match restoreSessions directory root s.sessions with
    | .error e => .error e
    | .ok sessions =>
      .ok { create root listeners with
        status := s.status, sessions := sessions, conversation := conversation, flash := s.flash,
        key := some key }

end Execution

end Parley
