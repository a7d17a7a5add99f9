import Parley.Conversion
import Parley.Expression.Basic

/-!
# Parley.Mapping

Mappings copy values from one thing with properties to another: a source expression, a target
expression, a conversion between them and the question whether a value is required. A mapper runs
its mappings in order; one that fails leaves the target as it is and does not stop the others.
-/

namespace Parley

inductive MappingError where
  | required (source target : String)
  | sourceAccess (source message : String)
  | targetAccess (target message : String)
  | typeConversion (source type message : String)
deriving DecidableEq

namespace MappingError

/-- The word for the kind of error. -/
def code : MappingError → String
  | required .. => "required"
  | sourceAccess .. => "source_access"
  | targetAccess .. => "target_access"
  | typeConversion .. => "type_conversion"

def message : MappingError → String
  | required source target => s!"Required value '{source}' is missing for '{target}'"
  | sourceAccess source message => s!"Could not read '{source}': {message}"
  | targetAccess target message => s!"Could not write '{target}': {message}"
  | typeConversion source type message => s!"Could not convert '{source}' to {type}: {message}"

end MappingError

structure Mapping where
  source : Expression
  target : Expression
  type : Option String
  required : Bool

/-- What became of one mapping. -/
structure MappingResult where
  source : String
  target : String
  outcome : Except MappingError Value

namespace MappingResult

def error? (r : MappingResult) : Option MappingError :=
  match r.outcome with
  | .error e => some e
  | .ok _ => none

end MappingResult

namespace Mapping

variable {σ τ : Type} [Properties σ] [Properties τ]

/-- The value to write: read, checked and converted. -/
def valueFrom (m : Mapping) (source : σ) : Except MappingError Value :=
  let value := m.source.eval source
  if m.required && value.isBlank then .error (.required m.source.source m.target.source)
  else
    match m.type with
    | none => .ok value
    | some type =>
      match convert type value with
      | .ok converted => .ok converted
      | .error e => .error (.typeConversion m.source.source type e.message)

/-- The value written, and the target with it. -/
def apply (m : Mapping) (source : σ) (target : τ) : Except MappingError (Value × τ) :=
  match m.valueFrom source with
  | .error e => .error e
  | .ok value =>
    match m.target.assign value target with
    | .ok changed => .ok (value, changed)
    | .error e => .error (.targetAccess m.target.source e.message)

/-- The outcome, and the target afterwards. -/
def run (m : Mapping) (source : σ) (target : τ) : MappingResult × τ :=
  match m.apply source target with
  | .ok (value, changed) => (⟨m.source.source, m.target.source, .ok value⟩, changed)
  | .error e => (⟨m.source.source, m.target.source, .error e⟩, target)

end Mapping

abbrev Mapper := List Mapping

namespace Mapper

variable {σ τ : Type} [Properties σ] [Properties τ]

def run (source : σ) : Mapper → τ → List MappingResult × τ
  | [], target => ([], target)
  | m :: rest, target =>
    let (result, target) := m.run source target
    let (results, target) := run source rest target
    (result :: results, target)

end Mapper

/-- The errors among the results, in order. -/
def MappingResult.errors (results : List MappingResult) : List MappingError :=
  results.filterMap MappingResult.error?

end Parley
