import Parley.Json.Literal
import Parley.Value.Attributes

/-!
# Parley.Json.Rereading

Values as they come back from their written form. Only numbers can change on the way.
-/

namespace Parley

namespace Json

mutual

def rereadValue : Value → Value
  | .number n => .number (reread n)
  | .list items => .list (rereadItems items)
  | .object fields => .object (rereadFields fields)
  | v => v

def rereadItems : List Value → List Value
  | [] => []
  | v :: vs => rereadValue v :: rereadItems vs

def rereadFields : List (String × Value) → List (String × Value)
  | [] => []
  | (name, v) :: fields => (name, rereadValue v) :: rereadFields fields

end

end Json

/-- The attributes as they come back from their written form. -/
def Attributes.reread (a : Attributes) : Attributes := ⟨Json.rereadFields a.fields⟩

end Parley
