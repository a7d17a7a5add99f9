import Parley.Document.Manner

/-!
# Parley.Document.Record

Records in documents. A record names each of its fields at most once, unknown names are passed
over, and a field that is missing or has the wrong form makes the whole record unusable. In some
manners a record may also be a list of its fields in their order, of which the last ones may be
missing.
-/

namespace Parley

/-- The fields of a record by name, and how they are read; a field that is missing is not there. -/
structure Record where
  manner : Manner
  fields : List (String × Document)

namespace Record

/-- No name in the list has two fields. -/
def unrepeated (names : List String) (fields : List (String × Document)) : Bool :=
  names.all fun name => (fields.filter fun field => field.1 = name).length ≤ 1

/-- Named fields as a record that has these names. -/
def ofNamed (m : Manner) (names : List String) (fields : List (String × Document)) :
    Option Record :=
  if unrepeated names fields then some ⟨m, fields⟩ else none

/-- The fields under the names that the document gives them. -/
def named? (m : Manner) (names : List String) (fields : List (Document × Document)) :
    Option (List (String × Document)) :=
  fields.mapM fun (k, d) => (k.nameOf? m names).map fun name => (name, d)

/-- The document as a record with these fields, in their order. -/
def ofDocument (m : Manner) (names : List String) (d : Document) : Option Record :=
  match d with
  | .list items => (m.positional? names.length items).map fun items => ⟨m, names.zip items⟩
  | d => ((d.fields? m).bind (named? m names)).bind (ofNamed m names)

/-- A field that has to be there. -/
def need {α : Type} (r : Record) (name : String) (read : Document → Option α) : Option α :=
  (Fields.get? name r.fields).bind read

/-- A field with a default. -/
def orElse {α : Type} (r : Record) (name : String) (default : α) (read : Document → Option α) :
    Option α :=
  match Fields.get? name r.fields with
  | some d => read d
  | none => some default

def string (r : Record) (name : String) : Option String := r.need name (Document.string? r.manner)

def optional (r : Record) (name : String) : Option (Option String) :=
  r.orElse name none (Document.optional? r.manner (Document.string? r.manner))

def bool (r : Record) (name : String) : Option Bool :=
  r.orElse name false (Document.bool? r.manner)

def list {α : Type} (r : Record) (name : String) (read : Document → Option α) : Option (List α) :=
  r.orElse name [] (Document.listOf? r.manner read)

def attributes (r : Record) (name : String) : Option Attributes :=
  r.orElse name .empty (Document.attributes? r.manner)

end Record

end Parley
