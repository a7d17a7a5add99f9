import Parley.Execution.Basic
import Parley.Registry.Holder
import Parley.Table

/-!
# Parley.Registry.Basic

Registries of flow definitions: holders by the ids of their flows, in the order in which the ids
were first registered. A registry may stand before another one, its parent, which is asked for what
it does not hold itself.
-/

namespace Parley

structure Registry where
  holders : Table String Holder
  /-- The number for the next edition. -/
  next : Nat

namespace Registry

def empty : Registry := ⟨[], 0⟩

def holder? (r : Registry) (id : String) : Option Holder := r.holders.get? id

def contains (r : Registry) (id : String) : Bool := (r.holder? id).isSome

def ids (r : Registry) : List String := r.holders.keys

def registerFlow (flow : Flow) (r : Registry) : Registry :=
  ⟨r.holders.put flow.id (.fixed ⟨flow, r.next⟩), r.next + 1⟩

def registerFile (id path : String) (tools : Toolbox) (refreshOnChange : Bool) (r : Registry) :
    Registry :=
  { r with holders := r.holders.put id (.file (.new path ⟨id, .empty, tools⟩ refreshOnChange)) }

/-- The definition under an id of this registry, if it has the id. -/
def get? (disk : Disk) (id : String) (r : Registry) :
    Option (Except LocateError Edition × Registry) :=
  (r.holder? id).map fun holder =>
    let (result, holder) := holder.get disk r.next
    (result, ⟨r.holders.put id holder, r.next + 1⟩)

/-- Every id looked up once, so that each definition that can be had is kept. -/
def settle (disk : Disk) (r : Registry) : Registry :=
  r.ids.foldl (fun r id => ((r.get? disk id).map Prod.snd).getD r) r

/-- All holders refreshed in order, up to the first that fails. -/
def refreshAll (disk : Disk) (next : Nat) :
    Table String Holder → Except LocateError Unit × Table String Holder
  | [] => (.ok (), [])
  | (id, holder) :: rest =>
    match holder.refresh disk next with
    | (.error e, holder) => (.error e, (id, holder) :: rest)
    | (.ok (), holder) =>
      let (result, rest) := refreshAll disk (next + 1) rest
      (result, (id, holder) :: rest)

def refresh (disk : Disk) (r : Registry) : Except LocateError Unit × Registry :=
  let (result, holders) := refreshAll disk r.next r.holders
  (result, ⟨holders, r.next + r.holders.length⟩)

/-- A definition from the first registry that has the id; each registry is the parent of the one
before it. -/
def locate (disk : Disk) (id : String) :
    List Registry → Except LocateError Edition × List Registry
  | [] => (.error (.noSuchFlowDefinition id), [])
  | r :: parents =>
    match r.get? disk id with
    | some (result, r) => (result, r :: parents)
    | none =>
      let (result, parents) := locate disk id parents
      (result, r :: parents)

/-- The registries as a directory, as long as the files stay as they are. -/
def directory (disk : Disk) (registries : List Registry) : Directory := fun id =>
  (locate disk id registries).1.map (·.flow)

end Registry

end Parley
