import Parley.Execution.Run
import Parley.Repository.Store
import Parley.Value.Outline

/-!
# Parley.Executor

Requests from outside: launching a flow, and resuming a stored execution by its key. Whatever
happens, a request gives up the lock that it took.
-/

namespace Parley

/-- Where flows are found and who listens to their executions. -/
structure Executor where
  directory : Directory
  listeners : List Listener

/-- What the clock shows in the course of a request: when the lock is looked up, when the snapshot
is loaded, and when the execution is stored. -/
structure Clock where
  lookup : Time
  load : Time
  store : Time

namespace Clock

/-- A clock that shows one time all along. -/
def still (now : Time) : Clock := ⟨now, now, now⟩

instance : Coe Time Clock := ⟨still⟩

end Clock

inductive ExecutorError where
  | locator (cause : LocateError)
  | repository (cause : RepositoryError)
  | execution (cause : ExecutionError)
  /-- The request never came to rest. -/
  | endless
deriving DecidableEq

namespace ExecutorError

def ofStop : Stop → ExecutorError
  | .raised e => execution e
  | .endless => endless

def message : ExecutorError → String
  | locator cause => cause.message
  | repository cause => cause.message
  | execution cause => cause.message
  | endless => "Flow execution does not come to rest"

/-- Trying again can help. -/
def isRecoverable : ExecutorError → Bool
  | locator (.assembly ..) => false
  | _ => true

def isNoSuchExecution : ExecutorError → Bool
  | repository cause => cause.isNoSuchExecution
  | _ => false

end ExecutorError

inductive ExecutionResult where
  | paused (key : Key) (flow state : String) (view : Option RenderedView) (redirect : Bool)
  | ended (flow : String) (outcome : Outcome)

namespace ExecutionResult

/-- A view as it is written down. -/
def viewOutline (v : RenderedView) : Outline :=
  .fields [("view_id", .text v.id), ("model", .ofValue v.model)]

def outcomeOutline (o : Outcome) : Outline :=
  .fields [("id", .text o.id), ("output", .ofValue o.output.toValue)]

/-- The result as it is written down, its fields in a fixed order. -/
def toOutline : ExecutionResult → Outline
  | paused key flow state view redirect =>
    .fields [("status", .text "paused"), ("key", .text key.text), ("flow_id", .text flow),
      ("state_id", .text state), ("view", (view.map viewOutline).getD .null),
      ("redirect", .bool redirect)]
  | ended flow outcome =>
    .fields [("status", .text "ended"), ("flow_id", .text flow),
      ("outcome", outcomeOutline outcome)]

def key? : ExecutionResult → Option Key
  | paused key .. => some key
  | ended .. => none

/-- The state in which the execution waits. -/
def state? : ExecutionResult → Option String
  | paused _ _ state .. => some state
  | ended .. => none

def outcome? : ExecutionResult → Option Outcome
  | paused .. => none
  | ended _ outcome => some outcome

def isPaused (r : ExecutionResult) : Bool := r.key?.isSome

end ExecutionResult

/-- What a request comes to, what listeners and actions wrote down, and the store afterwards. -/
structure Reply where
  result : Except ExecutorError ExecutionResult
  written : List Value
  store : Store

namespace Executor

/-- An execution after its request: stored if it waits, dropped if it has ended. -/
def finish (now : Time) (fresh : ConversationId) (x : Execution) (s : Store) :
    Except ExecutorError ExecutionResult × Store :=
  if x.hasEnded then
    match s.remove x with
    | (.error e, s) => (.error (.repository e), s)
    | (.ok (), s) =>
      match x.outcome with
      | some outcome => (.ok (.ended x.flow.id outcome), s)
      | none => (.error (.execution (.illegalState "ended execution has no outcome")), s)
  else
    match s.put now fresh x with
    | (.error e, s) => (.error (.repository e), s)
    | (.ok key, s) =>
      (.ok (.paused key x.currentFlow.id (x.state?.getD "") x.view x.redirectOnPause), s)

/-- The reply from the answer of an execution. -/
def conclude (now : Time) (fresh : ConversationId) (a : Answer) (s : Store) : Reply :=
  let written := Listener.heard a.execution.listeners a.journal
  match a.result with
  | .error stop => ⟨.error (.ofStop stop), written, s⟩
  | .ok () =>
    let (result, s) := finish now fresh a.execution s
    ⟨result, written, s⟩

def launch (e : Executor) (now : Time) (fresh : ConversationId) (flow : String) (input : Attributes)
    (external : External) (s : Store) : Reply :=
  match e.directory flow with
  | .error cause => ⟨.error (.locator cause), [], s⟩
  | .ok flow =>
    conclude now fresh ((Execution.create flow e.listeners).start input external e.directory) s

/-- The request on a locked conversation. -/
def resumeLocked (e : Executor) (clock : Clock) (fresh : ConversationId) (key : Key)
    (event : Option Event) (external : External) (s : Store) : Reply :=
  match s.get e.directory e.listeners clock.load key with
  | (.error cause, s) => ⟨.error (.repository cause), [], s⟩
  | (.ok x, s) => conclude clock.store fresh (x.resume event external e.directory) s

/-- The request on a key: the lock is taken for the request and dropped after it. -/
def resumeKey (e : Executor) (clock : Clock) (fresh : ConversationId) (key : Key)
    (event : Option Event) (external : External) (s : Store) : Reply :=
  match s.getLock clock.lookup key with
  | (.error cause, s) => ⟨.error (.repository cause), [], s⟩
  | (.ok _, s) =>
    match s.acquire key.conversation external.requestId with
    | (.error cause, s) => ⟨.error (.repository cause), [], s⟩
    | (.ok (), s) =>
      let reply := e.resumeLocked clock fresh key event external s
      { reply with store := reply.store.dropGuard key.conversation external.requestId }

/-- The request on a key as it is written. -/
def resume (e : Executor) (clock : Clock) (fresh : ConversationId) (key : String)
    (event : Option Event) (external : External) (s : Store) : Reply :=
  match Key.ofText key with
  | .error fault => ⟨.error (.repository (.badFlowExecutionKey key fault)), [], s⟩
  | .ok key => e.resumeKey clock fresh key event external s

end Executor

end Parley
