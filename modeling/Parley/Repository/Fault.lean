import Parley.Fault
import Parley.Json.Refusal
import Parley.Repository.Key

/-!
# Parley.Repository.Fault

What goes wrong with stored executions.
-/

namespace Parley

inductive RepositoryError where
  | noSuchFlowExecution (key : Key)
  | flowExecutionExpired (key : Key)
  | badFlowExecutionKey (text : String) (fault : KeyFault)
  /-- Somebody else held the lock for too long; how long that was is not told. -/
  | lockTimeout (conversation owner : String)
  | invalidLockOwner (expected actual : String)
  | lockNotHeld (conversation : String)
  /-- The snapshot of the key is there and cannot be read. -/
  | snapshot (key : Key) (cause : Json.Refusal)
  | flowDefinition (cause : LocateError)
deriving DecidableEq

namespace RepositoryError

/-- The word for the kind of error. -/
def code : RepositoryError → String
  | noSuchFlowExecution .. => "no_such_flow_execution"
  | flowExecutionExpired .. => "flow_execution_expired"
  | badFlowExecutionKey .. => "bad_flow_execution_key"
  | lockTimeout .. => "lock_timeout"
  | invalidLockOwner .. => "invalid_lock_owner"
  | lockNotHeld .. => "lock_not_held"
  | snapshot .. => "snapshot"
  | flowDefinition .. => "flow_definition"

def message : RepositoryError → String
  | noSuchFlowExecution key => s!"No flow execution found for key '{key.text}'"
  | flowExecutionExpired key => s!"Flow execution '{key.text}' has expired"
  | badFlowExecutionKey encoded fault => s!"Bad flow execution key '{encoded}': {fault.message}"
  | lockTimeout conversation owner =>
    s!"Timed out waiting for lock on conversation '{conversation}' held by {owner}"
  | invalidLockOwner expected actual =>
    s!"Invalid lock owner: expected={expected}, actual={actual}"
  | lockNotHeld conversation => s!"Lock on conversation '{conversation}' is not held"
  | snapshot key cause =>
    s!"Snapshot for '{key.text}' could not be processed: {cause.message}"
  | flowDefinition cause => "Flow definition error: " ++ cause.message

/-- There is nothing under the key, or nothing any more. -/
def isNoSuchExecution : RepositoryError → Bool
  | noSuchFlowExecution _ => true
  | flowExecutionExpired _ => true
  | _ => false

end RepositoryError

/-- The key that somebody names. -/
def Key.parse (s : String) : Except RepositoryError Key :=
  (Key.ofText s).mapError (.badFlowExecutionKey s)

end Parley
