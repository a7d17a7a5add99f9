import Parley.Value.Basic

/-!
# Parley.Document.Basic

What a source text says before anyone has decided what it is for: fields in the order of the
text, a name perhaps more than once, and for a scalar its spelling beside its meaning where the
format keeps the two apart.

A text can say things that no value holds. They do no harm where nothing reads them, so a
document has a place for them.
-/

namespace Parley

inductive Scalar where
  | null
  | bool (value : Bool)
  | number (value : Number)
  | text (value : String)
  /-- An infinity or no number at all. -/
  | unreal
  /-- An integer beyond 64 bits, or a scalar that is not what its text says it is. -/
  | misfit

/-- How a scalar was written, and what its spelling says to those who do not ask for its meaning. -/
structure Spelling where
  text : String
  /-- Without quotes or other marks around it. -/
  plain : Bool
  /-- What a reader of truth values reads. -/
  truth : Option Bool
  /-- Whether it stands for nothing at all; `none` if it only claims to. -/
  absent : Option Bool
deriving DecidableEq

inductive Document where
  | scalar (meaning : Scalar) (spelling : Option Spelling)
  | list (items : List Document)
  /-- Each field is named by a document, in most formats by a text. -/
  | fields (fields : List (Document × Document))
  /-- A document that names the form in which it wants to be read. -/
  | tagged (tag : String) (document : Document)
  /-- What is well formed but nothing can hold. -/
  | unreadable

instance : Inhabited Document := ⟨.unreadable⟩

namespace Scalar

/-- Values know finite numbers only. -/
def toValue? : Scalar → Option Value
  | null => some .null
  | bool b => some (.bool b)
  | number n => some (.number n)
  | text s => some (.text s)
  | unreal => some .null
  | misfit => none

end Scalar

namespace Document

def null : Document := .scalar .null none
def bool (b : Bool) : Document := .scalar (.bool b) none
def number (n : Number) : Document := .scalar (.number n) none
def text (s : String) : Document := .scalar (.text s) none

mutual

/-- The document that says a value. -/
def ofValue : Value → Document
  | .null => null
  | .bool b => bool b
  | .number n => number n
  | .text s => text s
  | .list items => .list (ofValues items)
  | .object fs => .fields (ofFields fs)

def ofValues : List Value → List Document
  | [] => []
  | v :: vs => ofValue v :: ofValues vs

def ofFields : List (String × Value) → List (Document × Document)
  | [] => []
  | (k, v) :: fs => (text k, ofValue v) :: ofFields fs

end

mutual

/-- Every part of the document can be read for its own sake. -/
def isWhole : Document → Bool
  | .scalar .misfit _ => false
  | .scalar _ _ => true
  | .list items => areWhole items
  | .fields fs => areWholeFields fs
  | .tagged _ _ => false
  | .unreadable => false

def areWhole : List Document → Bool
  | [] => true
  | d :: ds => isWhole d && areWhole ds

def areWholeFields : List (Document × Document) → Bool
  | [] => true
  | (k, d) :: fs => isWhole k && isWhole d && areWholeFields fs

end

end Document

end Parley
