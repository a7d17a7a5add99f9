import Parley.Number.Basic

/-!
# Parley.Number.Reading

Numbers from text. An integer is an optional sign and decimal digits; a real is digits with an
optional point and exponent, or one of the words for infinity and for no number at all.
-/

namespace Parley

/-- What a text can stand for when it is read as a real. -/
inductive Extended where
  | finite (value : Double)
  | infinite (negative : Bool)
  | notANumber
deriving DecidableEq

namespace Extended

/-- Infinities lie beyond all finite numbers; what is no number has no place in the order. -/
def compare? : Extended → Extended → Option Ordering
  | notANumber, _ => none
  | _, notANumber => none
  | finite x, finite y => some (x.compare y)
  | infinite m, infinite n => some (if m = n then .eq else if m then .lt else .gt)
  | infinite m, finite _ => some (if m then .lt else .gt)
  | finite _, infinite n => some (if n then .gt else .lt)

def finite? : Extended → Option Double
  | finite x => some x
  | _ => none

end Extended

namespace Number

def digitValue (c : Char) : Nat := c.toNat - '0'.toNat

/-- The value of decimal digits. -/
def ofDigits (digits : List Char) : Nat :=
  digits.foldl (fun n c => 10 * n + digitValue c) 0

/-- All characters are decimal digits, and there is at least one. -/
def areDigits (cs : List Char) : Bool := !cs.isEmpty && cs.all Char.isDigit

/-- A sign in front, if there is one: whether it is a minus, and what follows. -/
def takeSign : List Char → Bool × List Char
  | '-' :: cs => (true, cs)
  | '+' :: cs => (false, cs)
  | cs => (false, cs)

/-- A signed 64-bit integer. -/
def readInt (cs : List Char) : Option Int :=
  let (negative, digits) := takeSign cs
  if areDigits digits then
    let size : Int := ofDigits digits
    let i := if negative then -size else size
    if Fits64 i then some i else none
  else none

/-- An unsigned integer below the limit; a plus sign may stand in front. -/
def readNat (limit : Nat) (cs : List Char) : Option Nat :=
  let digits := match cs with
    | '+' :: rest => rest
    | _ => cs
  if areDigits digits then
    let n := ofDigits digits
    if n < limit then some n else none
  else none

/-- Digits times a power of ten. Exponents far outside the range of doubles are decided by size
alone, so that no power is computed for them. -/
def extended (negative : Bool) (digits : List Char) (exponent : Int) : Extended :=
  let significant := digits.dropWhile (· = '0')
  let top := (significant.length : Int) + exponent
  if significant.isEmpty ∨ top < -400 then .finite (.zero negative)
  else if 400 < top then .infinite negative
  else
    match Double.ofDecimal? negative (ofDigits significant) exponent with
    | some x => .finite x
    | none => .infinite negative

/-- An exponent mark with its digits, or nothing at all. -/
def readExponent : List Char → Option Int
  | [] => some 0
  | mark :: cs =>
    if mark = 'e' ∨ mark = 'E' then
      let (negative, digits) := takeSign cs
      if areDigits digits then
        let size : Int := ofDigits digits
        some (if negative then -size else size)
      else none
    else none

/-- A real in decimal digits. Digits are needed before the point or after it. -/
def readDecimal (negative : Bool) (cs : List Char) : Option Extended :=
  let whole := cs.takeWhile Char.isDigit
  let rest := cs.dropWhile Char.isDigit
  let (fraction, tail) := match rest with
    | '.' :: after => (after.takeWhile Char.isDigit, after.dropWhile Char.isDigit)
    | _ => ([], rest)
  if whole.isEmpty && fraction.isEmpty then none
  else
    match readExponent tail with
    | none => none
    | some e => some (extended negative (whole ++ fraction) (e - fraction.length))

/-- A real, an infinity or the word for no number, the words in any case. -/
def readReal (cs : List Char) : Option Extended :=
  let (negative, body) := takeSign cs
  let word := body.map Char.toLower
  if word = ['i', 'n', 'f'] ∨ word = ['i', 'n', 'f', 'i', 'n', 'i', 't', 'y'] then
    some (.infinite negative)
  else if word = ['n', 'a', 'n'] then some .notANumber
  else readDecimal negative body

end Number

end Parley
