import Parley.Number.Double

/-!
# Parley.Number.Shortest

The text of a number: the fewest decimal digits that read back as the same number, the nearest to
it of those, an exact tie to the even digit.

`Double.readsBack` states which decimals stand for a number: those between the midpoints to its
two neighbours, the midpoints too when the mantissa is even. The search tries one digit, two
digits and so on, and on each grid of decimals only the two neighbours of the number.
-/

namespace Parley

/-- `digits * 10^exponent`. -/
structure Decimal where
  digits : Nat
  exponent : Int
deriving DecidableEq

namespace Decimal

/-- Compare with `n * 2^e`. -/
def compareBinary (d : Decimal) (n : Nat) (e : Int) : Ordering :=
  compare (d.digits * Nat.pow 10 d.exponent.toNat * Nat.pow 2 (-e).toNat)
    (n * Nat.pow 2 e.toNat * Nat.pow 10 (-d.exponent).toNat)

/-- The same number without zeros at the end; the fuel bounds how many are dropped. -/
def strip : Nat → Decimal → Decimal
  | 0, d => d
  | fuel + 1, d =>
    if d.digits ≠ 0 ∧ d.digits % 10 = 0 then strip fuel ⟨d.digits / 10, d.exponent + 1⟩ else d

end Decimal

namespace Double

/-- The decimal lies among the reals that round to the number. -/
def readsBack (x : Double) (d : Decimal) : Bool :=
  let narrow := x.mantissa = Nat.pow 2 52 ∧ -1074 < x.exponent
  let below := if narrow then 4 * x.mantissa - 1 else 4 * x.mantissa - 2
  let low := d.compareBinary below (x.exponent - 2)
  let high := d.compareBinary (4 * x.mantissa + 2) (x.exponent - 2)
  let ends := x.mantissa % 2 = 0
  (low = .gt || (ends && low = .eq)) && (high = .lt || (ends && high = .eq))

/-- The least `k` with the number below `10^k`. -/
def scale (x : Double) : Int :=
  let estimate := (((x.mantissa.log2 : Int) + x.exponent) * 30103).fdiv 100000 - 1
  let reaches (k : Int) := x.num * Nat.pow 10 (-k).toNat < x.den * Nat.pow 10 k.toNat
  let steps := ((List.range 5).find? fun (i : Nat) => reaches (estimate + i)).getD 5
  estimate + steps

/-- The better of the number's two neighbours on the grid of multiples of `10^grid`. -/
def onGrid? (x : Double) (grid : Int) : Option Decimal :=
  let num := x.num * Nat.pow 10 (-grid).toNat
  let den := x.den * Nat.pow 10 grid.toNat
  let below : Decimal := ⟨num / den, grid⟩
  let above : Decimal := ⟨num / den + 1, grid⟩
  match x.readsBack below, x.readsBack above with
  | false, false => none
  | true, false => some below
  | false, true => some above
  | true, true => some ⟨roundQuotient num den, grid⟩

/-- The exact decimal value: what is left should no grid of seventeen digits hold a decimal that
reads back. -/
def exact (x : Double) : Decimal :=
  if 0 ≤ x.exponent then ⟨x.num, 0⟩ else ⟨x.mantissa * Nat.pow 5 (-x.exponent).toNat, x.exponent⟩

def shortest (x : Double) : Decimal :=
  let k := x.scale
  let found := (List.range 17).findSome? fun (i : Nat) => x.onGrid? (k - (i + 1))
  Decimal.strip 1100 (found.getD x.exact)

/-- Digits with the point after the first `before` of them, padded with zeros on either side. -/
def positional (digits : List Char) (before : Int) : List Char :=
  if before ≤ 0 then '0' :: '.' :: List.replicate (-before).toNat '0' ++ digits
  else
    let n := before.toNat
    if digits.length ≤ n then digits ++ List.replicate (n - digits.length) '0' ++ ['.', '0']
    else digits.take n ++ '.' :: digits.drop n

/-- One digit, a point if more follow, and the power of ten with its sign. -/
def scientific (digits : List Char) (power : Int) : List Char :=
  let head := digits.take 1
  let rest := digits.drop 1
  head ++ (if rest.isEmpty then [] else '.' :: rest)
    ++ ['e', if power < 0 then '-' else '+'] ++ Nat.toDigits 10 power.natAbs

/-- Positional from `10^-5` up to `10^16`, otherwise scientific; a point or an exponent is always
there. -/
def text (x : Double) : String :=
  let sign := if x.negative then ['-'] else []
  if x.isZero then String.ofList (sign ++ ['0', '.', '0'])
  else
    let d := x.shortest
    let digits := Nat.toDigits 10 d.digits
    let before := (digits.length : Int) + d.exponent
    String.ofList (sign ++
      if -5 < before ∧ before ≤ 16 then positional digits before
      else scientific digits (before - 1))

end Double

end Parley
