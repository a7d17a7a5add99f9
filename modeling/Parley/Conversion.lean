import Parley.Text.Blank
import Parley.Value.Writing

/-!
# Parley.Conversion

Conversion of values to a named type. Nothing converts to nothing; names are read without regard
to case, and several of them name one type.
-/

namespace Parley

inductive ConversionError where
  | unsupportedType (name : String)
  | invalidValue (value : String) (target : String)
deriving DecidableEq

namespace ConversionError

/-- The word for the kind of error. -/
def code : ConversionError → String
  | unsupportedType .. => "unsupported_type"
  | invalidValue .. => "invalid_value"

def message : ConversionError → String
  | unsupportedType name => s!"No converter registered for type '{name}'"
  | invalidValue value target => s!"Cannot convert {value} to {target}"

end ConversionError

/-- The types that values convert to. -/
inductive ValueType where
  | text
  | integer
  | number
  | boolean
deriving DecidableEq

namespace ValueType

def ofName? (name : String) : Option ValueType :=
  match Text.lower name with
  | "string" => some text
  | "integer" => some integer
  | "int" => some integer
  | "long" => some integer
  | "number" => some number
  | "float" => some number
  | "double" => some number
  | "boolean" => some boolean
  | "bool" => some boolean
  | _ => none

end ValueType

namespace Conversion

def toText : Value → Value
  | .text s => .text s
  | v => .text v.json

/-- The integer that a number is; beyond the signed 64-bit range the nearest one inside. -/
def integerOf : Number → Option Int
  | .int i =>
    if Number.Fits64 i then some i
    else (Double.ofInt? i).bind fun x => x.whole?.map Number.clamp64
  | .float x => x.whole?.map Number.clamp64

def toInteger? : Value → Option Value
  | .number n => (integerOf n).map .int
  | .text s => (Number.readInt (Text.trimChars s.toList)).map .int
  | .bool b => some (.int (if b then 1 else 0))
  | _ => none

def toNumber? : Value → Option Value
  | .number n => n.toDouble?.map .float
  | .text s => ((Number.readReal (Text.trimChars s.toList)).bind Extended.finite?).map .float
  | _ => none

def booleanWord? (word : String) : Option Bool :=
  match Text.lower (Text.trim word) with
  | "true" => some true
  | "yes" => some true
  | "on" => some true
  | "1" => some true
  | "false" => some false
  | "no" => some false
  | "off" => some false
  | "0" => some false
  | _ => none

def toBoolean? : Value → Option Value
  | .bool b => some (.bool b)
  | .text s => (booleanWord? s).map .bool
  | .number n => some (.bool ((n.toDouble?.map fun x => !x.isZero).getD false))
  | _ => none

/-- A result, or the complaint about the value and the type's name. -/
def orInvalid (v : Value) (target : String) (converted : Option Value) :
    Except ConversionError Value :=
  match converted with
  | some w => .ok w
  | none => .error (.invalidValue v.json target)

def convertTo (type : ValueType) (v : Value) : Except ConversionError Value :=
  match type with
  | .text => .ok (toText v)
  | .integer => orInvalid v "integer" (toInteger? v)
  | .number => orInvalid v "number" (toNumber? v)
  | .boolean => orInvalid v "boolean" (toBoolean? v)

end Conversion

/-- The value as the named type. -/
def convert (typeName : String) (v : Value) : Except ConversionError Value :=
  match ValueType.ofName? typeName with
  | none => .error (.unsupportedType typeName)
  | some type => if v.isNull then .ok .null else Conversion.convertTo type v

def supportsType (typeName : String) : Bool := (ValueType.ofName? typeName).isSome

end Parley
