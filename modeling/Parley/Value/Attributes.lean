import Parley.Value.Path
import Parley.Value.Writing

/-!
# Parley.Value.Attributes

Named values: scopes, inputs and outputs, request parameters and event attributes.
-/

namespace Parley

structure Attributes where
  fields : List (String × Value)
deriving Inhabited

namespace Attributes

def empty : Attributes := ⟨[]⟩

def get? (a : Attributes) (name : String) : Option Value := Fields.get? name a.fields

def contains (a : Attributes) (name : String) : Bool := (a.get? name).isSome

def string? (a : Attributes) (name : String) : Option String := (a.get? name).bind Value.string?

def int? (a : Attributes) (name : String) : Option Int := (a.get? name).bind Value.int?

def put (a : Attributes) (name : String) (value : Value) : Attributes :=
  ⟨Fields.put name value a.fields⟩

def remove (a : Attributes) (name : String) : Attributes := ⟨Fields.remove name a.fields⟩

def size (a : Attributes) : Nat := a.fields.length

/-- All attributes, those of the second argument winning. -/
def extend (a b : Attributes) : Attributes :=
  ⟨b.fields.foldl (fun fields pair => Fields.put pair.1 pair.2 fields) a.fields⟩

def toValue (a : Attributes) : Value := .object a.fields

def getPath? (a : Attributes) : Path → Option Value
  | [] => none
  | first :: rest => (a.get? first).bind (Value.lookup? rest)

/-- The attributes with a value at the path. An attribute that is not there starts as nothing. -/
def setPath (a : Attributes) (path : Path) (value : Value) : Except EvaluationError Attributes :=
  match path with
  | [] => .error (.invalidAssignment "" "empty path")
  | first :: rest =>
    match ((a.get? first).getD .null).assign rest value with
    | .ok inner => .ok (a.put first inner)
    | .error e => .error e

end Attributes

end Parley
