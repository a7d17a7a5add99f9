import Parley.Value.Writing

/-!
# Parley.Value.Outline

A value whose fields stand in an order of their own, and its text for readers: JSON with one item
or field on a line, two spaces further in than what it belongs to. What is empty stays on its line.

Each writer takes the text that follows, as those of `Parley.Value.Writing` do.
-/

namespace Parley

inductive Outline where
  | null
  | bool (value : Bool)
  | number (value : Number)
  | text (value : String)
  | list (items : List Outline)
  | fields (fields : List (String × Outline))

namespace Outline

mutual

def ofValue : Value → Outline
  | .null => null
  | .bool b => bool b
  | .number n => number n
  | .text s => text s
  | .list items => list (ofValues items)
  | .object fs => fields (ofFields fs)

def ofValues : List Value → List Outline
  | [] => []
  | v :: vs => ofValue v :: ofValues vs

def ofFields : List (String × Value) → List (String × Outline)
  | [] => []
  | (k, v) :: fs => (k, ofValue v) :: ofFields fs

end

mutual

/-- The value that the outline shows; of repeated fields the last one counts. -/
def toValue : Outline → Value
  | null => .null
  | bool b => .bool b
  | number n => .number n
  | text s => .text s
  | list items => .list (toValues items)
  | fields fs => .object (Fields.ofPairs (toFields fs))

def toValues : List Outline → List Value
  | [] => []
  | o :: os => toValue o :: toValues os

def toFields : List (String × Outline) → List (String × Value)
  | [] => []
  | (k, o) :: fs => (k, toValue o) :: toFields fs

end

/-- A text that may be missing. -/
def option (s : Option String) : Outline := (s.map text).getD null

/-- A new line that begins at the given depth. -/
def lineAt (depth : Nat) (rest : List Char) : List Char :=
  '\n' :: (List.replicate (2 * depth) ' ' ++ rest)

mutual

def write (depth : Nat) : Outline → List Char → List Char
  | null, rest => Value.null.write rest
  | bool b, rest => (Value.bool b).write rest
  | number n, rest => (Value.number n).write rest
  | text s, rest => (Value.text s).write rest
  | list [], rest => '[' :: ']' :: rest
  | list (o :: os), rest => '[' :: writeItems (depth + 1) (o :: os) (lineAt depth (']' :: rest))
  | fields [], rest => '\x7b' :: '\x7d' :: rest
  | fields (f :: fs), rest =>
    '\x7b' :: writeFields (depth + 1) (f :: fs) (lineAt depth ('\x7d' :: rest))

def writeItems (depth : Nat) : List Outline → List Char → List Char
  | [], rest => rest
  | [o], rest => lineAt depth (write depth o rest)
  | o :: p :: os, rest => lineAt depth (write depth o (',' :: writeItems depth (p :: os) rest))

def writeFields (depth : Nat) : List (String × Outline) → List Char → List Char
  | [], rest => rest
  | [(k, o)], rest => lineAt depth (Json.quote k (':' :: ' ' :: write depth o rest))
  | (k, o) :: f :: fs, rest =>
    lineAt depth
      (Json.quote k (':' :: ' ' :: write depth o (',' :: writeFields depth (f :: fs) rest)))

end

/-- The outline as indented JSON. -/
def indented (o : Outline) : String := String.ofList (o.write 0 [])

end Outline

end Parley
