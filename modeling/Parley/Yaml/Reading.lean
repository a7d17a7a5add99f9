import Parley.Yaml.Meaning
import Parley.Yaml.Node
import Parley.Yaml.Tokens

/-!
# Parley.Yaml.Reading

YAML text to a document. Aliases become what they refer to. What stands deeper than 128 lists and
records cannot be read, and neither can aliases beyond a hundred for each part of the text, so that
no text says endlessly much.
-/

namespace Parley

namespace Yaml

namespace Node

mutual

/-- The parts of a node in the text; lists and records have a beginning and an end. -/
def parts : Node → Nat
  | reference _ => 1
  | scalar .. => 1
  | list _ items => 2 + partsOfItems items
  | fields _ fs => 2 + partsOfFields fs

def partsOfItems : List Node → Nat
  | [] => 0
  | n :: ns => parts n + partsOfItems ns

def partsOfFields : List (Node × Node) → Nat
  | [] => 0
  | (k, n) :: fs => parts k + parts n + partsOfFields fs

end

def properties : Node → Properties
  | reference _ => ⟨none, none⟩
  | scalar p .. => p
  | list p _ => p
  | fields p _ => p

/-- The node under its number, if it has one, in front of others. -/
def number (n : Node) (rest : List (Nat × Node)) : List (Nat × Node) :=
  match n.properties.anchor with
  | some number => (number, n) :: rest
  | none => rest

mutual

/-- All nodes with numbers, in the order of the text. -/
def numbered : Node → List (Nat × Node)
  | reference _ => []
  | scalar p style text => (scalar p style text).number []
  | list p items => (list p items).number (numberedItems items)
  | fields p fs => (fields p fs).number (numberedFields fs)

def numberedItems : List Node → List (Nat × Node)
  | [] => []
  | n :: ns => numbered n ++ numberedItems ns

def numberedFields : List (Node × Node) → List (Nat × Node)
  | [] => []
  | (k, n) :: fs => numbered k ++ numbered n ++ numberedFields fs

end

/-- A document under the tag of its node. Tags that start with an exclamation mark name a form. -/
def withTag (tag : Option String) (d : Document) : Document :=
  match tag.map String.toList with
  | some ['!'] => .tagged "!" d
  | some ('!' :: name) => .tagged (.ofList name) d
  | _ => d

def ofScalar (p : Properties) (style : Style) (text : String) : Document :=
  let spelling := spelling style p.tag text
  let bare := if style = .plain then meaning text else .text text
  match p.tag with
  | none => .scalar bare (some spelling)
  | some tag =>
    if tag.startsWith "!" then withTag (some tag) (.scalar bare (some spelling))
    else .scalar (typedMeaning tag text) (some spelling)

/-- Readings one after the other, each of which uses up some aliases. -/
def readEach {α β : Type} (read : α → Nat → β × Nat) : List α → Nat → List β × Nat
  | [], left => ([], left)
  | a :: as, left =>
    let (b, left) := read a left
    let (bs, left) := readEach read as left
    (b :: bs, left)

/-- The document that a node says, and how many aliases are left after it; so many lists and records
may still open. `target` tells what an alias refers to. -/
def toDocument (target : Nat → Option Node) : Nat → Node → Nat → Document × Nat
  | depth, n, left =>
    let (n, left) := match n with
      | reference number => if left = 0 then (none, 0) else (target number, left - 1)
      | n => (some n, left)
    match n, depth with
    | some (scalar p style text), _ => (ofScalar p style text, left)
    | some (list p items), depth + 1 =>
      let (ds, left) := readEach (toDocument target depth) items left
      (withTag p.tag (.list ds), left)
    | some (fields p fs), depth + 1 =>
      let readField (field : Node × Node) (left : Nat) : (Document × Document) × Nat :=
        let (k, left) := toDocument target depth field.1 left
        let (d, left) := toDocument target depth field.2 left
        ((k, d), left)
      let (ds, left) := readEach readField fs left
      (withTag p.tag (.fields ds), left)
    | _, _ => (.unreadable, left)

end Node

def read (s : String) : Option Document :=
  match (tokens? (match s.toList with
    | '\uFEFF' :: cs => cs
    | cs => cs)).bind Node.ofTokens? with
  | none => none
  | some n =>
    let numbered := n.numbered.reverse
    let target (number : Nat) : Option Node :=
      (numbered.find? fun entry => entry.1 = number).map Prod.snd
    some (n.toDocument target 128 (100 * n.parts)).1

end Yaml

end Parley
