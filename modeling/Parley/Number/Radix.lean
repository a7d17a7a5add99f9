/-!
# Parley.Number.Radix

Digits in bases of up to sixteen, and characters given by the number of their code point.
-/

namespace Parley

namespace Number

def hexValue? (c : Char) : Option Nat :=
  if c.isDigit then some (c.toNat - '0'.toNat)
  else if 'a' ≤ c && c ≤ 'f' then some (c.toNat - 'a'.toNat + 10)
  else if 'A' ≤ c && c ≤ 'F' then some (c.toNat - 'A'.toNat + 10)
  else none

/-- The value of digits in a base of up to sixteen. -/
def readRadix (base : Nat) (cs : List Char) : Option Nat :=
  if cs.isEmpty then none
  else cs.foldl (fun n c =>
    match n, hexValue? c with
    | some n, some d => if d < base then some (n * base + d) else none
    | _, _ => none) (some 0)

/-- A number of hexadecimal digits at the front of a text, as a character. -/
def readNumbered (width : Nat) (cs : List Char) : Option (Char × List Char) :=
  if cs.length < width then none
  else
    match readRadix 16 (cs.take width) with
    | some n => if h : n.isValidChar then some (Char.ofNatAux n h, cs.drop width) else none
    | none => none

end Number

end Parley
