import Parley.Number.Shortest

/-!
# Parley.Number.Basic

Numbers as documents hold them: integers and doubles, which stay apart. `1` and `1.0` are
different numbers, compare as equal, and are written differently.
-/

namespace Parley

inductive Number where
  | int (value : Int)
  | float (value : Double)
deriving DecidableEq

namespace Number

def text : Number → String
  | int i => toString i
  | float x => x.text

/-- The double nearest to the number; `none` only for integers beyond the range of doubles. -/
def toDouble? : Number → Option Double
  | int i => Double.ofInt? i
  | float x => some x

/-- The same number in the same form. The two zeros of doubles are one number. -/
def same : Number → Number → Bool
  | int i, int j => i = j
  | float x, float y => x.units = y.units
  | _, _ => false

/-- The signed 64-bit integers. -/
def Fits64 (i : Int) : Prop := -0x8000000000000000 ≤ i ∧ i < 0x8000000000000000

instance (i : Int) : Decidable (Fits64 i) := inferInstanceAs (Decidable (_ ∧ _))

/-- An integer cut off at the ends of the signed 64-bit range. -/
def clamp64 (i : Int) : Int := max (-0x8000000000000000) (min i 0x7fffffffffffffff)

end Number

end Parley
