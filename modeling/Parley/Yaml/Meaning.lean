import Parley.Document.Basic
import Parley.Number.Radix
import Parley.Yaml.Token

/-!
# Parley.Yaml.Meaning

What unquoted spellings mean by the core schema, what scalars mean whose tag names a type, and what
spellings say to readers that expect a truth value, or perhaps nothing.
-/

namespace Parley

namespace Yaml

def isNullWord (s : String) : Bool := s ∈ ["~", "null", "Null", "NULL"]

def boolean? (s : String) : Option Bool :=
  if s ∈ ["true", "True", "TRUE"] then some true
  else if s ∈ ["false", "False", "FALSE"] then some false
  else none

/-- A zero in front of more digits: no number. -/
def hasLeadingZero (cs : List Char) : Bool :=
  let digits := (Number.takeSign cs).2
  1 < digits.length && digits.head? = some '0' && digits.all Char.isDigit

/-- An integer in base ten, or in the base that its beginning names. -/
def integer? (cs : List Char) : Option Int :=
  let (negative, body) := Number.takeSign cs
  let size := match body with
    | '0' :: 'x' :: digits => Number.readRadix 16 digits
    | '0' :: 'o' :: digits => Number.readRadix 8 digits
    | '0' :: 'b' :: digits => Number.readRadix 2 digits
    | digits =>
      if hasLeadingZero digits || !Number.areDigits digits then none
      else Number.readRadix 10 digits
  size.map fun n => if negative then -(n : Int) else n

/-- An integer that values hold in 64 bits, or one in twice as many, where none of them does. -/
def integerMeaning? (cs : List Char) : Option Scalar :=
  match integer? cs with
  | none => none
  | some i =>
    if -0x8000000000000000 ≤ i ∧ i < 0x10000000000000000 then some (.number (.int i))
    else if -0x80000000000000000000000000000000 ≤ i ∧ i < 0x100000000000000000000000000000000 then
      some .misfit
    else none

/-- A real; the words for infinities and for no number start with a point. -/
def realMeaning? (cs : List Char) : Option Scalar :=
  let unsigned := match cs with
    | '+' :: rest => rest
    | _ => cs
  if (Number.takeSign cs).2 ∈ [".inf".toList, ".Inf".toList, ".INF".toList] then some .unreal
  else if cs ∈ [".nan".toList, ".NaN".toList, ".NAN".toList] then some .unreal
  else if cs.head? = some '+' && (unsigned.head? = some '+' || unsigned.head? = some '-') then none
  else
    match Number.readReal unsigned with
    | some (.finite x) => some (.number (.float x))
    | _ => none

/-- What an unquoted spelling means. -/
def meaning (s : String) : Scalar :=
  if s.isEmpty || isNullWord s then .null
  else
    match boolean? s with
    | some b => .bool b
    | none =>
      match integerMeaning? s.toList with
      | some i => i
      | none =>
        if hasLeadingZero s.toList then .text s else (realMeaning? s.toList).getD (.text s)

/-- The beginning of the tags that name types. -/
def typeTag (name : String) : String := "tag:yaml.org,2002:" ++ name

/-- What a scalar means whose tag may name a type. -/
def typedMeaning (tag s : String) : Scalar :=
  if tag = typeTag "null" then if isNullWord s then .null else .misfit
  else if tag = typeTag "bool" then ((boolean? s).map .bool).getD .misfit
  else if tag = typeTag "int" then (integerMeaning? s.toList).getD .misfit
  else if tag = typeTag "float" then (realMeaning? s.toList).getD .misfit
  else .text s

/-- The truth value of a scalar, whatever else its tag says. -/
def truth? (style : Style) (tag : Option String) (s : String) : Option Bool :=
  if style = .plain || (style = .literal && tag = some (typeTag "bool")) then boolean? s else none

/-- Whether a scalar stands for nothing at all: only an unquoted one can, and one with a tag only if
the tag says so. -/
def isAbsent? (style : Style) (tag : Option String) (s : String) : Option Bool :=
  if style = .plain then
    match tag with
    | none => some (s.isEmpty || isNullWord s)
    | some tag =>
      if tag = typeTag "null" then if isNullWord s then some true else none else some false
  else some false

def spelling (style : Style) (tag : Option String) (s : String) : Spelling :=
  ⟨s, style = .plain, truth? style tag s, isAbsent? style tag s⟩

end Yaml

end Parley
