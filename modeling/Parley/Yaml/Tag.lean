import Parley.Number.Reading
import Parley.Number.Radix
import Parley.Yaml.Cursor
import Parley.Yaml.Token

/-!
# Parley.Yaml.Tag

What nodes and documents say about themselves: anchors and aliases, tags, and the directives in
front of a document.
-/

namespace Parley

namespace Yaml

/-- The name of an anchor or alias behind its mark; a gap or one of a few marks ends it. -/
def readName (c : Cursor) : Option (String × Cursor) :=
  let (name, c) := c.span isWord
  let ended := match c.peek? with
    | none => true
    | some ch => isGap (some ch) || ch ∈ "?:,]%@`".toList || ch = '\x7d'
  if name.isEmpty || !ended then none else some (String.ofList name, c)

/-- A character of a tag. Commas and brackets belong to tags that are written out only. -/
def isTagChar (full : Bool) (c : Char) : Bool :=
  isWord c || c ∈ ";/?:@&=+$.%!~*'()".toList || (full && (c = ',' || c = '[' || c = ']'))

/-- One byte behind a percent sign. -/
def readByte : List Char → Option (Nat × List Char)
  | '%' :: a :: b :: rest => (Number.readRadix 16 [a, b]).map fun n => (n, rest)
  | _ => none

/-- How many bytes follow a first one in the same character, and what the first one says. -/
def leading? (byte : Nat) : Option (Nat × Nat) :=
  if byte < 0x80 then some (0, byte)
  else if 0xC0 ≤ byte ∧ byte < 0xE0 then some (1, byte - 0xC0)
  else if 0xE0 ≤ byte ∧ byte < 0xF0 then some (2, byte - 0xE0)
  else if 0xF0 ≤ byte ∧ byte < 0xF8 then some (3, byte - 0xF0)
  else none

/-- The bytes that a character needs after its first one. -/
def readTrailing : Nat → Nat → List Char → Option (Nat × List Char)
  | 0, point, cs => some (point, cs)
  | count + 1, point, cs =>
    match readByte cs with
    | some (byte, cs) =>
      if 0x80 ≤ byte ∧ byte < 0xC0 then readTrailing count (64 * point + (byte - 0x80)) cs else none
    | none => none

/-- A character written in bytes. -/
def readBytes (cs : List Char) : Option (Char × List Char) := do
  let (byte, cs) ← readByte cs
  let (count, point) ← leading? byte
  let (point, cs) ← readTrailing count point cs
  return (Char.ofNat point, cs)

/-- The characters of a tag from here on. -/
def tagChars (full : Bool) : Nat → List Char → List Char → Option (List Char × List Char)
  | 0, _, _ => none
  | fuel + 1, done, cs =>
    match cs with
    | [] => some (done.reverse, [])
    | c :: rest =>
      if c = '%' then
        match readBytes cs with
        | some (c, rest) => tagChars full fuel (c :: done) rest
        | none => none
      else if isTagChar full c then tagChars full fuel (c :: done) rest
      else some (done.reverse, cs)

/-- The characters of a tag, of which there is at least one, behind what was read of it already. -/
def readTagChars (full : Bool) (before : Option (List Char)) (c : Cursor) :
    Option (String × Cursor) :=
  match tagChars full (c.rest.length + 1) [] c.rest with
  | none => none
  | some (text, rest) =>
    let taken := c.rest.length - rest.length
    if taken = 0 && before.isNone then none
    else some (String.ofList (before.getD [] ++ text), c.advance taken)

/-- An exclamation mark with a word behind it, and perhaps another exclamation mark. -/
def readHandle (c : Cursor) : Option (List Char × Cursor) :=
  if c.isAt '!' then
    let (word, c) := (c.advance 1).span isWord
    if c.isAt '!' then some ('!' :: word ++ ['!'], c.advance 1) else some ('!' :: word, c)
  else none

/-- A handle that is complete: the shortest one, or one with a mark at both ends. -/
def isHandle (handle : List Char) : Bool := 1 < handle.length && handle.getLast? = some '!'

/-- The handle and the suffix of a tag. A tag with an incomplete handle is all suffix. -/
def readTagParts (c : Cursor) : Option (String × String × Cursor) :=
  if c.rest.take 2 = ['!', '<'] then
    match readTagChars true none (c.advance 2) with
    | some (suffix, c) => if c.isAt '>' then some ("", suffix, c.advance 1) else none
    | none => none
  else
    match readHandle c with
    | none => none
    | some (handle, c) =>
      if isHandle handle then
        (readTagChars false none c).map fun (suffix, c) => (String.ofList handle, suffix, c)
      else
        match readTagChars false (some (handle.drop 1)) c with
        | some (suffix, c) => some (if suffix.isEmpty then ("", "!", c) else ("!", suffix, c))
        | none => none

/-- A tag, with a gap behind it, or inside brackets a comma. -/
def readTag (bracketed : Bool) (c : Cursor) : Option (Token × Cursor) :=
  match readTagParts c with
  | some (handle, suffix, c) =>
    if c.atGap || (bracketed && c.isAt ',') then some (.tag handle suffix, c) else none
  | none => none

/-- One part of a version: up to nine digits. -/
def readVersionPart (c : Cursor) : Option (Nat × Cursor) :=
  let (digits, c) := c.span Char.isDigit
  if digits.isEmpty || 9 < digits.length then none else some (Number.ofDigits digits, c)

def readVersion (c : Cursor) : Option (Token × Cursor) := do
  let (major, c) ← readVersionPart (c.skipWhile isBlank)
  if c.isAt '.' then
    let (minor, c) ← readVersionPart (c.advance 1)
    return (.version major minor, c)
  else none

/-- A handle and the beginning of tags that it stands for. -/
def readHandleMeaning (c : Cursor) : Option (Token × Cursor) := do
  let (handle, c) ← readHandle (c.skipWhile isBlank)
  if (handle.length = 1 || isHandle handle) && c.atBlank then
    let (meaning, c) ← readTagChars true none (c.skipWhile isBlank)
    if c.atGap then return (.handle (String.ofList handle) meaning, c) else none
  else none

/-- A directive behind its percent sign, with its line. -/
def readDirective (c : Cursor) : Option (Token × Cursor) := do
  let (name, c) := c.span isWord
  let (token, c) ←
    if !c.atGap then none
    else if name = ['Y', 'A', 'M', 'L'] then readVersion c
    else if name = ['T', 'A', 'G'] then readHandleMeaning c
    else none
  let c ← c.nextLine?
  return (token, c)

end Yaml

end Parley
