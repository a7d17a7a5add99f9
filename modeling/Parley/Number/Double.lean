/-!
# Parley.Number.Double

Finite double-precision numbers as exact data: a sign, a mantissa below `2^53` and a power of two.

Mathematical meaning: `x.units` is the number counted in units of `2^-1074`, the least positive
one. Every double is a whole number of these units, so order, equality up to a tolerance and
wholeness are statements about integers. Numbers enter by `nearest?`, which rounds an exact
quotient once, a tie to the even mantissa.
-/

namespace Parley

/-- The one form in which a number is written: the mantissa is full unless the exponent is least. -/
def Double.Canonical (mantissa : Nat) (exponent : Int) : Prop :=
  mantissa < Nat.pow 2 53 ∧ -1074 ≤ exponent ∧ exponent ≤ 971 ∧
    (Nat.pow 2 52 ≤ mantissa ∨ exponent = -1074)

instance (mantissa : Nat) (exponent : Int) : Decidable (Double.Canonical mantissa exponent) :=
  inferInstanceAs (Decidable (_ ∧ _))

/-- A finite number: the mantissa times two to the exponent, with a sign that zero has too. -/
structure Double where
  negative : Bool
  mantissa : Nat
  exponent : Int
  canonical : Double.Canonical mantissa exponent
deriving DecidableEq

namespace Double

def zero (negative : Bool) : Double := ⟨negative, 0, -1074, by decide⟩

def ofParts? (negative : Bool) (mantissa : Nat) (exponent : Int) : Option Double :=
  if h : Canonical mantissa exponent then some ⟨negative, mantissa, exponent, h⟩ else none

/-- The quotient as a whole number; a half goes to the even neighbour. -/
def roundQuotient (num den : Nat) : Nat :=
  let whole := num / den
  let twice := 2 * (num % den)
  if twice < den then whole
  else if den < twice then whole + 1
  else whole + whole % 2

/-- The exponent at which the quotient has a mantissa of fifty-three binary digits, or the least
one. -/
def exponentFor (num den : Nat) : Int :=
  let e := max (-1074) ((num.log2 : Int) - den.log2 - 52)
  if -1074 < e ∧ num * Nat.pow 2 (-e).toNat < Nat.pow 2 52 * (den * Nat.pow 2 e.toNat) then e - 1
  else e

/-- The number nearest to a quotient, or `none` beyond the greatest one. -/
def nearest? (negative : Bool) (num den : Nat) : Option Double :=
  if num = 0 then some (zero negative)
  else
    let e := exponentFor num den
    let m := roundQuotient (num * Nat.pow 2 (-e).toNat) (den * Nat.pow 2 e.toNat)
    if m = Nat.pow 2 53 then ofParts? negative (Nat.pow 2 52) (e + 1) else ofParts? negative m e

def ofInt? (i : Int) : Option Double := nearest? (i < 0) i.natAbs 1

/-- The number nearest to a whole number of powers of ten. -/
def ofDecimal? (negative : Bool) (digits : Nat) (exponent : Int) : Option Double :=
  nearest? negative (digits * Nat.pow 10 exponent.toNat) (Nat.pow 10 (-exponent).toNat)

/-- The absolute value as a quotient. -/
def num (x : Double) : Nat := x.mantissa * Nat.pow 2 x.exponent.toNat
def den (x : Double) : Nat := Nat.pow 2 (-x.exponent).toNat

/-- The product, rounded once. -/
def mul? (x y : Double) : Option Double :=
  nearest? (x.negative != y.negative) (x.num * y.num) (x.den * y.den)

/-- The quotient, rounded once. -/
def div? (x y : Double) : Option Double :=
  if y.mantissa = 0 then none
  else nearest? (x.negative != y.negative) (x.num * y.den) (x.den * y.num)

/-- The number counted in units of `2^-1074`. -/
def units (x : Double) : Int :=
  let size : Int := x.mantissa * Nat.pow 2 (x.exponent + 1074).toNat
  if x.negative then -size else size

protected def compare (x y : Double) : Ordering := Ord.compare x.units y.units

/-- How far apart two numbers count as different: their rounded difference reaches `2^-52` from
here on. -/
def tolerance : Nat := Nat.pow 2 1022 - Nat.pow 2 968

/-- The rounded difference of the numbers lies below `2^-52`. -/
def near (x y : Double) : Bool := (x.units - y.units).natAbs < tolerance

def isZero (x : Double) : Bool := x.mantissa = 0

/-- The number as an integer, if it is one. -/
def whole? (x : Double) : Option Int :=
  if x.units % Nat.pow 2 1074 = 0 then some (x.units / Nat.pow 2 1074) else none

end Double

end Parley
