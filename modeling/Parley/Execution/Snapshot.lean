import Parley.Document.Record
import Parley.Execution.Basic
import Parley.Json.Refusal
import Parley.Value.Outline

/-!
# Parley.Execution.Snapshot

The written form of snapshots. Sessions are written from the outermost to the innermost.
-/

namespace Parley

namespace Snapshot

def attributesOutline (a : Attributes) : Outline := .ofValue a.toValue

def sessionOutline (s : Session String) : Outline :=
  .fields [("flow_id", .text s.flow), ("state_id", .option s.state),
    ("status", .text s.status.name), ("scope", attributesOutline s.scope),
    ("view_scope", attributesOutline s.viewScope)]

def toOutline (s : Snapshot) : Outline :=
  .fields [("flow_id", .text s.flow), ("status", .text s.status.name),
    ("sessions", .list (s.sessions.reverse.map sessionOutline)),
    ("flash_scope", attributesOutline s.flash)]

/-- The snapshot as it is read back from its written form, unless the reader refuses that. -/
def readBack (s : Snapshot) : Except Json.Refusal Snapshot :=
  match s.toOutline.pass Json.depthLimit 0 with
  | .error refusal => .error refusal
  | .ok _ => .ok s.reread

def readSessionStatus (d : Document) : Option SessionStatus :=
  (d.choice? .json (SessionStatus.all.map SessionStatus.name)).bind SessionStatus.ofName?

def readStatus (d : Document) : Option ExecutionStatus :=
  (d.choice? .json (ExecutionStatus.all.map ExecutionStatus.name)).bind ExecutionStatus.ofName?

def readSession (d : Document) : Option (Session String) :=
  let names := ["flow_id", "state_id", "status", "scope", "view_scope"]
  (Record.ofDocument .json names d).bind fun r => do
    let flow ← r.string "flow_id"
    let state ← r.optional "state_id"
    let status ← r.need "status" readSessionStatus
    let scope ← r.need "scope" (Document.attributes? .json)
    let viewScope ← r.need "view_scope" (Document.attributes? .json)
    return ⟨flow, state, status, scope, viewScope⟩

def ofDocument (d : Document) : Option Snapshot :=
  (Record.ofDocument .json ["flow_id", "status", "sessions", "flash_scope"] d).bind fun r => do
    let flow ← r.string "flow_id"
    let status ← r.need "status" readStatus
    let sessions ← r.need "sessions" (Document.listOf? .json readSession)
    let flash ← r.need "flash_scope" (Document.attributes? .json)
    return ⟨flow, status, sessions.reverse, flash⟩

end Snapshot

end Parley
