import Parley.Text.Blank
import Parley.Value.Basic

/-!
# Parley.Value.Path

Reading and writing below a value. A path is a list of segments: the name of a field, or the
position of an item when the value is a list. Writing goes through objects only; it makes the
objects that are missing on the way and puts an object in place of nothing.
-/

namespace Parley

abbrev Path := List String

namespace Path

/-- The segments of a dotted path, blank ones left out. -/
def ofString (s : String) : Path :=
  ((Text.split '.' s).map Text.trim).filter (· ≠ "")

def text (path : Path) : String := Text.join "." path

end Path

/-- Why a value cannot be assigned. -/
inductive EvaluationError where
  | notSettable (expression : String)
  | readOnlyProperty (path : String)
  | invalidAssignment (path : String) (reason : String)
  | invalidResult (expression : String) (reason : String)
deriving DecidableEq

namespace EvaluationError

/-- The word for the kind of error. -/
def code : EvaluationError → String
  | notSettable .. => "not_settable"
  | readOnlyProperty .. => "read_only_property"
  | invalidAssignment .. => "invalid_assignment"
  | invalidResult .. => "invalid_result"

def message : EvaluationError → String
  | notSettable expression => s!"Expression '{expression}' is not settable"
  | readOnlyProperty path => s!"Property '{path}' is read-only"
  | invalidAssignment path reason => s!"Cannot assign '{path}': {reason}"
  | invalidResult expression reason =>
    s!"Expression '{expression}' produced an unusable result: {reason}"

end EvaluationError

namespace Value

/-- What one segment selects. -/
def child? (segment : String) : Value → Option Value
  | object fields => Fields.get? segment fields
  | list items => (Number.readNat 0x10000000000000000 segment.toList).bind (items[·]?)
  | _ => none

def lookup? : Path → Value → Option Value
  | [], v => some v
  | segment :: path, v => (v.child? segment).bind (lookup? path)

/-- The fields of a value that can be written into; nothing counts as an object without fields. -/
def fields? : Value → Option (List (String × Value))
  | null => some []
  | object fields => some fields
  | _ => none

/-- The value with another value at the path. Errors name the whole path. -/
def assignAt (whole : Path) (new : Value) : Path → Value → Except EvaluationError Value
  | [], _ => .ok new
  | [last], v =>
    match v.fields? with
    | some fields => .ok (object (Fields.put last new fields))
    | none => .error (.invalidAssignment whole.text s!"parent of '{last}' is not an object")
  | segment :: next :: path, v =>
    match v.fields? with
    | none => .error (.invalidAssignment whole.text s!"'{segment}' is not an object")
    | some fields =>
      match assignAt whole new (next :: path) ((Fields.get? segment fields).getD (object [])) with
      | .ok inner => .ok (object (Fields.put segment inner fields))
      | .error e => .error e

def assign (v : Value) (path : Path) (new : Value) : Except EvaluationError Value :=
  assignAt path new path v

end Value

end Parley
