/-!
# Parley.Yaml.Token

What YAML text is made of: marks that open and close documents, blocks and brackets, marks in front
of items, keys and values, what a node says about itself, and scalars.
-/

namespace Parley

namespace Yaml

/-- How a scalar is written. -/
inductive Style where
  | plain
  | singleQuoted
  | doubleQuoted
  | literal
  | folded
deriving DecidableEq

inductive Token where
  /-- A directive with the version of the format. -/
  | version (major minor : Nat)
  /-- A directive that gives a meaning to the handle of tags. -/
  | handle (name meaning : String)
  | documentStart
  | documentEnd
  | openBlockList
  | openBlockFields
  | closeBlock
  | openList
  | closeList
  | openFields
  | closeFields
  | comma
  /-- The dash in front of an item. -/
  | item
  /-- What stands before a key; for most keys there is no mark in the text. -/
  | key
  | value
  | reference (name : String)
  | anchor (name : String)
  /-- A tag with its handle, which is empty for a tag that is written out. -/
  | tag (handle suffix : String)
  | scalar (style : Style) (text : String)
deriving DecidableEq

end Yaml

end Parley
