import Parley.Number.Reading
import Parley.Value.Fields

/-!
# Parley.Value.Basic

The values that attributes, parameters and expressions hold: what a document can say, with the
fields of an object in the order of their names.
-/

namespace Parley

inductive Value where
  | null
  | bool (value : Bool)
  | number (value : Number)
  | text (value : String)
  | list (items : List Value)
  | object (fields : List (String × Value))

instance : Inhabited Value := ⟨.null⟩

namespace Value

def int (i : Int) : Value := .number (.int i)

def float (x : Double) : Value := .number (.float x)

def isNull : Value → Bool
  | null => true
  | _ => false

/-- The value as a condition: a truth value is itself, nothing is false, all else is true. -/
def truthy : Value → Bool
  | bool b => b
  | null => false
  | _ => true

/-- The value is nothing or the empty text. -/
def isBlank : Value → Bool
  | null => true
  | text s => s.isEmpty
  | _ => false

def string? : Value → Option String
  | text s => some s
  | _ => none

/-- A signed 64-bit integer. -/
def int? : Value → Option Int
  | number (.int i) => if Number.Fits64 i then some i else none
  | _ => none

mutual

/-- The same value, numbers by `Number.same`. -/
def same : Value → Value → Bool
  | null, null => true
  | bool a, bool b => a = b
  | number m, number n => m.same n
  | text s, text t => s = t
  | list xs, list ys => sameList xs ys
  | object fs, object gs => sameFields fs gs
  | _, _ => false

def sameList : List Value → List Value → Bool
  | [], [] => true
  | x :: xs, y :: ys => same x y && sameList xs ys
  | _, _ => false

def sameFields : List (String × Value) → List (String × Value) → Bool
  | [], [] => true
  | (k, x) :: fs, (l, y) :: gs => k = l && same x y && sameFields fs gs
  | _, _ => false

end

end Value

end Parley
