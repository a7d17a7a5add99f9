import Parley.Document.Basic
import Parley.Value.Attributes

/-!
# Parley.Document.Manner

How documents are read. Each format has its manner, and there is one more: where a text leaves open
what it stands for, it is first read for its own sake as a whole, and then its scalars mean what
they mean and no longer what they look like.

The manners differ in what a scalar says to a reader of strings, in what stands for an empty list
or record, in whether a list may stand for a record, and in how a choice may be written out.
-/

namespace Parley

inductive Manner where
  | json
  | yaml
  | toml
  /-- After reading as a whole; `numbered` tells whether a number may stand for the name at its
  place. -/
  | settled (numbered : Bool)
deriving DecidableEq

namespace Manner

/-- The manner for what was read as a whole first. -/
def settle : Manner → Manner
  | json => settled true
  | yaml => settled true
  | toml => settled false
  | settled numbered => settled numbered

/-- The fields that a list stands for, given how many the record has. -/
def positional? (m : Manner) (count : Nat) (items : List Document) : Option (List Document) :=
  match m with
  | json => if items.length ≤ count then some items else none
  | settled _ => if items.length ≤ count then some items else none
  | toml => some (items.take count)
  | yaml => none

end Manner

namespace Document

/-- What a reader of strings reads. -/
def string? : Manner → Document → Option String
  | .yaml, .scalar _ (some spelling) => some spelling.text
  | .yaml, .tagged _ (.scalar _ (some spelling)) => some spelling.text
  | _, .scalar (.text s) _ => some s
  | _, _ => none

/-- An unquoted scalar without any characters stands for an empty list and an empty record. -/
def isVoid : Manner → Document → Bool
  | .yaml, .scalar _ (some spelling) => spelling.plain && spelling.text.isEmpty
  | .yaml, .tagged _ (.scalar _ (some spelling)) => spelling.plain && spelling.text.isEmpty
  | _, _ => false

def isNull : Document → Bool
  | .scalar .null _ => true
  | _ => false

/-- Whether the document stands for nothing at all; `none` if it only claims to. -/
def isAbsent? : Manner → Document → Option Bool
  | .yaml, .scalar _ (some spelling) => spelling.absent
  | _, d => some d.isNull

/-- What a reader reads where there may also be nothing. -/
def optional? {α : Type} (m : Manner) (read : Document → Option α) (d : Document) :
    Option (Option α) :=
  match d.isAbsent? m with
  | some true => some none
  | some false => (read d).map some
  | none => none

def bool? : Manner → Document → Option Bool
  | .yaml, .scalar _ (some spelling) => spelling.truth
  | .yaml, .tagged _ (.scalar _ (some spelling)) => spelling.truth
  | _, .scalar (.bool b) _ => some b
  | _, _ => none

mutual

/-- The value that the document says; of repeated fields the last one counts. -/
def toValue? (m : Manner) : Document → Option Value
  | .scalar meaning _ => meaning.toValue?
  | .list items => (toValues? m items).map .list
  | .fields fs => (toFields? m fs).map fun fs => .object (Fields.ofPairs fs)
  | .tagged _ _ => none
  | .unreadable => none

def toValues? (m : Manner) : List Document → Option (List Value)
  | [] => some []
  | d :: ds =>
    match toValue? m d, toValues? m ds with
    | some v, some vs => some (v :: vs)
    | _, _ => none

def toFields? (m : Manner) : List (Document × Document) → Option (List (String × Value))
  | [] => some []
  | (k, d) :: fs =>
    match k.string? m, toValue? m d, toFields? m fs with
    | some name, some v, some fs => some ((name, v) :: fs)
    | _, _, _ => none

end

/-- The fields of a record, also of one that asks for some form. -/
def fields? (m : Manner) : Document → Option (List (Document × Document))
  | .fields fs => some fs
  | .tagged _ (.fields fs) => some fs
  | d => if d.isVoid m then some [] else none

def items? (m : Manner) : Document → Option (List Document)
  | .list items => some items
  | .tagged _ (.list items) => some items
  | d => if d.isVoid m then some [] else none

def attributes? (m : Manner) (d : Document) : Option Attributes :=
  ((d.fields? m).bind (toFields? m)).map fun fs => ⟨Fields.ofPairs fs⟩

/-- A list of things that are all of one form. -/
def listOf? {α : Type} (m : Manner) (read : Document → Option α) (d : Document) : Option (List α) :=
  (d.items? m).bind fun items => items.mapM read

/-- What stands behind a choice that has nothing to add. -/
def isUnit : Manner → Document → Bool
  | .json, d => d.isNull
  | .toml, .list [] => true
  | .toml, .fields [] => true
  | .settled _, .fields [] => true
  | .settled _, d => d.isNull
  | _, _ => false

/-- The name that a document gives to one of several things: a word, or where numbers stand for
names, the place of the name. -/
def nameOf? (m : Manner) (names : List String) (d : Document) : Option String :=
  match m, d with
  | .settled numbered, .scalar (.number (.int i)) _ =>
    if numbered && 0 ≤ i then some (names[i.toNat]?.getD "") else none
  | m, d => d.string? m

/-- One of several names: the name itself, a record of it and nothing more, or a tag. -/
def choice? (m : Manner) (names : List String) : Document → Option String
  | .tagged tag (.scalar .null (some spelling)) => if spelling.plain then some tag else none
  | .tagged _ _ => none
  | .fields [(name, d)] => if d.isUnit m then name.nameOf? m names else none
  | d => d.string? m

end Document

end Parley
