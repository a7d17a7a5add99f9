import Parley.Fault
import Parley.Json.Reading
import Parley.Model.Reading
import Parley.Text.FileName
import Parley.Toml.Reading
import Parley.Yaml.Reading

/-!
# Parley.Model.Format

Models as texts: the formats that they are written in, told by the extension of a file's name.
-/

namespace Parley

inductive ModelFormat where
  | json
  | yaml
  | toml
deriving DecidableEq

namespace ModelFormat

/-- The format of a file, by its extension in any case. -/
def ofPath? (path : String) : Option ModelFormat :=
  match (FileName.ofPath? path).bind FileName.extension? with
  | none => none
  | some extension =>
    match Text.lower extension with
    | "json" => some json
    | "yaml" => some yaml
    | "yml" => some yaml
    | "toml" => some toml
    | _ => none

def read : ModelFormat → String → Option Document
  | json => Json.read
  | yaml => Yaml.read
  | toml => Toml.read

def manner : ModelFormat → Manner
  | json => .json
  | yaml => .yaml
  | toml => .toml

end ModelFormat

namespace FlowModel

/-- The reason given for a text that is no model in its format. -/
def illFormed : String := "not a flow model"

/-- The reason given for a file whose format is not known. -/
def unsupported : String := "unsupported file extension"

/-- The model that a text says; `resource` names the text in errors. -/
def ofText (source : String) (format : ModelFormat) (resource : String) :
    Except BuildError FlowModel :=
  match (format.read source).bind (ofDocument format.manner) with
  | some model => .ok model
  | none => .error (.malformedModel resource illFormed)

/-- The model in a file. The file is not asked for its content when its format is not known. -/
def ofFile (path : String) (content : Except BuildError String) : Except BuildError FlowModel :=
  match ModelFormat.ofPath? path with
  | none => .error (.malformedModel path unsupported)
  | some format =>
    match content with
    | .error e => .error e
    | .ok source => ofText source format path

/-- The model's own id, or else the stem of its file's name. -/
def idOrStem? (m : FlowModel) (path : String) : Option String :=
  m.id <|> (FileName.ofPath? path).map FileName.stem

end FlowModel

end Parley
