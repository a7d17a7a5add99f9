import Parley.Toml.Moment
import Parley.Toml.Table

/-!
# Parley.Toml.Reading

TOML text to a document: line by line, each line a header, a key with its value, or nothing. At
most 80 arrays and inline tables stand inside each other.
-/

namespace Parley

namespace Toml

def isKeyChar (c : Char) : Bool := c.isAlphanum || c = '_' || c = '-'

/-- A character of a number, a truth value, a moment or the like. -/
def isWordChar (c : Char) : Bool := isKeyChar c || c = '+' || c = '.' || c = ':'

/-- The text after a comment, which may hold no control character. -/
def dropComment : List Char → Option (List Char)
  | [] => some []
  | c :: cs => if isBreak c then some (c :: cs) else if isControl c then none else dropComment cs

/-- The lines after this one; only gaps and a comment may be left on it. -/
def readLineEnd (cs : List Char) : Option (List Char) :=
  let ended (rest : List Char) : Option (List Char) :=
    if rest.isEmpty then some [] else afterBreak? rest
  match dropGaps cs with
  | '#' :: rest => (dropComment rest).bind ended
  | rest => ended rest

/-- Gaps, line breaks and comments dropped. -/
def skipSpace : Nat → List Char → Option (List Char)
  | 0, _ => none
  | fuel + 1, cs =>
    match cs.dropWhile isSpace with
    | '#' :: rest => (dropComment rest).bind (skipSpace fuel)
    | rest => some rest

/-- One key, bare or quoted. -/
def readSimpleKey (cs : List Char) : Option (String × List Char) :=
  match cs with
  | '"' :: rest => readLine (rest.length + 1) [] rest
  | '\'' :: rest => readLiteralLine [] rest
  | _ =>
    match cs.takeWhile isKeyChar with
    | [] => none
    | key => some (String.ofList key, cs.dropWhile isKeyChar)

/-- Keys with dots between them. -/
def readKey : Nat → List Char → Option (List String × List Char)
  | 0, _ => none
  | fuel + 1, cs =>
    match readSimpleKey (dropGaps cs) with
    | none => none
    | some (key, rest) =>
      match dropGaps rest with
      | '.' :: rest => (readKey fuel rest).map fun (keys, rest) => (key :: keys, rest)
      | rest => some ([key], rest)

/-- A key, an equals sign, and what follows. -/
def readAssigned (cs : List Char) : Option (List String × List Char) :=
  match readKey (cs.length + 1) cs with
  | some (key, '=' :: rest) => some (key, dropGaps rest)
  | _ => none

/-- The same inside braces, where all space counts as a gap. -/
def readAssignedInside (cs : List Char) : Option (List String × List Char) := do
  let (key, rest) ← readKey (cs.length + 1) cs
  let rest ← (skipSpace (rest.length + 1) rest).bind (takeChar ['='])
  let rest ← skipSpace (rest.length + 1) rest
  return (key, rest)

/-- What stands without quotes: a moment, a number, or one of a few words. -/
def readPlain (cs : List Char) : Option (Document × List Char) :=
  let size := momentLength (fun cs => (cs.takeWhile isWordChar).length) cs
  let word := cs.take size
  match moment? word with
  | some text => some (ofMoment text, cs.drop size)
  | none => (readWord word).map fun scalar => (.scalar scalar none, cs.drop size)

/-- All keys but the last, and the last one. -/
def splitKey (key : List String) : List String × String := (key.dropLast, key.getLast?.getD "")

mutual

/-- A value; `depth` is how many arrays and inline tables may still open. -/
def readValue : Nat → Nat → List Char → Option (Document × List Char)
  | 0, _, _ => none
  | fuel + 1, depth, cs =>
    match cs with
    | '[' :: rest =>
      if depth = 0 then none
      else (readItems fuel (depth - 1) [] rest).map fun (ds, rest) => (.list ds, rest)
    | '{' :: rest =>
      if depth = 0 then none
      else
        (readPairs fuel (depth - 1) [] rest).map fun (entries, rest) =>
          (.fields (documents entries), rest)
    | '"' :: _ => (readQuoted cs).map fun (s, rest) => (.text s, rest)
    | '\'' :: _ => (readQuoted cs).map fun (s, rest) => (.text s, rest)
    | _ => readPlain cs

/-- The items of an array up to its closing bracket; a comma may follow the last one. -/
def readItems : Nat → Nat → List Document → List Char → Option (List Document × List Char)
  | 0, _, _, _ => none
  | fuel + 1, depth, done, cs =>
    match skipSpace (cs.length + 1) cs with
    | none => none
    | some (']' :: rest) => some (done.reverse, rest)
    | some rest =>
      match readValue fuel depth rest with
      | none => none
      | some (d, rest) =>
        match skipSpace (rest.length + 1) rest with
        | some (',' :: rest) => readItems fuel depth (d :: done) rest
        | some (']' :: rest) => some ((d :: done).reverse, rest)
        | _ => none

/-- The fields of an inline table up to its closing brace; a comma may follow the last one. -/
def readPairs : Nat → Nat → Entries → List Char → Option (Entries × List Char)
  | 0, _, _, _ => none
  | fuel + 1, depth, done, cs =>
    match skipSpace (cs.length + 1) cs with
    | none => none
    | some ('}' :: rest) => some (done, rest)
    | some rest =>
      match readAssignedInside rest with
      | none => none
      | some (key, rest) =>
        match readValue fuel depth rest with
        | none => none
        | some (d, rest) =>
          let (path, last) := splitKey key
          match done.addDotted path last d, skipSpace (rest.length + 1) rest with
          | some done, some (',' :: rest) => readPairs fuel depth done rest
          | some done, some ('}' :: rest) => some (done, rest)
          | _, _ => none

end

/-- What was read so far, and the header of the table under way. -/
structure Progress where
  entries : Entries
  table : List String

namespace Progress

/-- The change of the table under way. -/
def extend (p : Progress) (key : List String) (d : Document) : Option Progress :=
  let (path, last) := splitKey key
  let add (_ : Opening) (entries : Entries) : Option Entries := entries.addDotted path last d
  (Entries.below .passing add p.table .header p.entries).map fun entries =>
    { p with entries := entries }

def openHeader (p : Progress) (add : String → Entries → Option Entries) (key : List String) :
    Option Progress :=
  let (path, last) := splitKey key
  (Entries.below .passing (fun _ entries => add last entries) path .header p.entries).map
    fun entries => ⟨entries, key⟩

/-- One line of the text, and what follows. -/
def readStep (p : Progress) (cs : List Char) : Option (Progress × List Char) :=
  match dropGaps cs with
  | [] => some (p, [])
  | '\n' :: rest => some (p, rest)
  | '\r' :: rest => (afterBreak? ('\r' :: rest)).map fun rest => (p, rest)
  | '#' :: rest => (readLineEnd ('#' :: rest)).map fun rest => (p, rest)
  | '[' :: '[' :: rest =>
    match readKey (rest.length + 1) rest with
    | some (key, ']' :: ']' :: rest) =>
      match p.openHeader Entries.openItem key, readLineEnd rest with
      | some p, some rest => some (p, rest)
      | _, _ => none
    | _ => none
  | '[' :: rest =>
    match readKey (rest.length + 1) rest with
    | some (key, ']' :: rest) =>
      match p.openHeader Entries.openTable key, readLineEnd rest with
      | some p, some rest => some (p, rest)
      | _, _ => none
    | _ => none
  | rest =>
    match readAssigned rest with
    | none => none
    | some (key, rest) =>
      match readValue (2 * rest.length + 2) 80 rest with
      | none => none
      | some (d, rest) =>
        match p.extend key d, readLineEnd rest with
        | some p, some rest => some (p, rest)
        | _, _ => none

/-- All lines; each takes at least one character. -/
def readAll : Nat → Progress → List Char → Option Progress
  | 0, _, _ => none
  | fuel + 1, p, cs =>
    if cs.isEmpty then some p
    else
      match p.readStep cs with
      | some (p, rest) => readAll fuel p rest
      | none => none

end Progress

/-- Carriage returns stand in line breaks only. -/
def hasWholeBreaks : List Char → Bool
  | [] => true
  | '\r' :: '\n' :: cs => hasWholeBreaks cs
  | c :: cs => c ≠ '\r' && hasWholeBreaks cs

/-- A whole text; a mark of its byte order may stand in front. -/
def read (s : String) : Option Document :=
  let cs := match s.toList with
    | '\uFEFF' :: cs => cs
    | cs => cs
  if hasWholeBreaks cs then
    (Progress.readAll (cs.length + 1) ⟨[], []⟩ cs).map fun p => .fields (documents p.entries)
  else none

end Toml

end Parley
