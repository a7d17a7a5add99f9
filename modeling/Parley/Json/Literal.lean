import Parley.Number.Reading

/-!
# Parley.Json.Literal

Numbers in JSON text. A literal without point and exponent that fits 64 bits, signed or unsigned,
is an integer; every other literal is a double, and so is minus zero.

The double is found in steps that each round: the leading digits that fit 64 bits become a
double, which is then multiplied or divided by a power of ten. For literals of up to fifteen
digits with small exponents this is the nearest double; longer ones can be a neighbour of it.
-/

namespace Parley

namespace Json

/-- One more than the greatest unsigned 64-bit integer. -/
def limit64 : Nat := 0x10000000000000000

/-- The digits that fit, after those already taken, and how many of them were taken. -/
def takeFitting (significand taken : Nat) : List Char → Nat × Nat
  | [] => (significand, taken)
  | c :: cs =>
    let next := 10 * significand + Number.digitValue c
    if next < limit64 then takeFitting next (taken + 1) cs else (significand, taken)

/-- Scale by a power of ten. Powers beyond the doubles are applied in parts; `none` is overflow. -/
def scale : Nat → Double → Int → Option Double
  | 0, x, _ => some x
  | fuel + 1, x, exponent =>
    if exponent.natAbs ≤ 308 then
      match Double.ofDecimal? false 1 exponent.natAbs with
      | none => none
      | some power => if 0 ≤ exponent then x.mul? power else x.div? power
    else if x.isZero then some x
    else if 0 ≤ exponent then none
    else
      match Double.ofDecimal? false 1 308 with
      | none => none
      | some power => (x.div? power).bind fun y => scale fuel y (exponent + 308)

/-- A literal in its parts. -/
structure Literal where
  negative : Bool
  whole : List Char
  fraction : Option (List Char)
  exponent : Option Int

namespace Literal

def double? (l : Literal) : Option Double :=
  let (head, taken) := takeFitting 0 0 l.whole
  let dropped := l.whole.length - taken
  let (significand, places) := takeFitting head 0 (l.fraction.getD [])
  let exponent := (dropped : Int) - places + l.exponent.getD 0
  match Double.ofInt? significand with
  | none => none
  | some x =>
    if significand = 0 then some (.zero l.negative)
    else if 0x80000000 ≤ (l.exponent.getD 0).natAbs then
      if 0 < l.exponent.getD 0 then none else some (.zero l.negative)
    else (scale 4 x exponent).map fun y => { y with negative := l.negative }

/-- The number that the literal stands for; `none` if it is beyond the doubles. -/
def number? (l : Literal) : Option Number :=
  let n := Number.ofDigits l.whole
  if l.fraction.isNone && l.exponent.isNone && !l.negative && n < limit64 then some (.int n)
  else if l.fraction.isNone && l.exponent.isNone && l.negative && 0 < n
      && n ≤ 0x8000000000000000 then
    some (.int (-n))
  else l.double?.map .float

/-- A literal at the front of the text, and what follows it. Zero stands alone before the point;
digits are needed after a point and after an exponent mark. -/
def read (cs : List Char) : Option (Literal × List Char) :=
  let (negative, cs) := match cs with
    | '-' :: rest => (true, rest)
    | _ => (false, cs)
  let whole := cs.takeWhile Char.isDigit
  if whole.isEmpty || (whole.head? = some '0' && 1 < whole.length) then none
  else
    let rest := cs.dropWhile Char.isDigit
    let afterFraction : Option (Option (List Char) × List Char) := match rest with
      | '.' :: tail =>
        let digits := tail.takeWhile Char.isDigit
        if digits.isEmpty then none else some (some digits, tail.dropWhile Char.isDigit)
      | _ => some (none, rest)
    match afterFraction with
    | none => none
    | some (fraction, rest) =>
      match rest with
      | mark :: tail =>
        if mark = 'e' ∨ mark = 'E' then
          let (down, tail) := Number.takeSign tail
          let digits := tail.takeWhile Char.isDigit
          if digits.isEmpty then none
          else
            let size : Int := Number.ofDigits digits
            let exponent := if down then -size else size
            some (⟨negative, whole, fraction, some exponent⟩, tail.dropWhile Char.isDigit)
        else some (⟨negative, whole, fraction, none⟩, rest)
      | [] => some (⟨negative, whole, fraction, none⟩, [])

end Literal

/-- The number that a number's text is read as; `none` if that is beyond the doubles. -/
def reread? (n : Number) : Option Number :=
  match Literal.read n.text.toList with
  | some (l, []) => l.number?
  | _ => none

/-- The number that comes back when a number's text is read again. -/
def reread (n : Number) : Number := (reread? n).getD n

end Json

end Parley
