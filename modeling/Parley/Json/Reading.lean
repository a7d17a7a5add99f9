import Parley.Document.Basic
import Parley.Json.Refusal
import Parley.Number.Radix

/-!
# Parley.Json.Reading

JSON text to a document. Fields keep the order of the text and may repeat.

What stands deeper than 127 lists and objects, numbers beyond the doubles, and texts with half of a
pair of units in them are well formed, but nothing can read them.
-/

namespace Parley

namespace Json

def isSpace (c : Char) : Bool := c = ' ' || c = '\n' || c = '\r' || c = '\t'

def skipSpace (cs : List Char) : List Char := cs.dropWhile isSpace

/-- Four hexadecimal digits at the front of the text. -/
def readUnit : List Char → Option (Nat × List Char)
  | a :: b :: c :: d :: rest =>
    match Number.hexValue? a, Number.hexValue? b, Number.hexValue? c, Number.hexValue? d with
    | some a, some b, some c, some d => some (((a * 16 + b) * 16 + c) * 16 + d, rest)
    | _, _, _, _ => none
  | _ => none

/-- The character of an escape given by number; two units make one character beyond 16 bits, and
one of them alone makes none. -/
def readEscapedUnit (cs : List Char) : Option (Option Char × List Char) :=
  match readUnit cs with
  | none => none
  | some (unit, rest) =>
    if 0xDC00 ≤ unit && unit ≤ 0xDFFF then some (none, rest)
    else if 0xD800 ≤ unit && unit ≤ 0xDBFF then
      match rest with
      | '\\' :: 'u' :: tail =>
        match readUnit tail with
        | some (low, after) =>
          if 0xDC00 ≤ low && low ≤ 0xDFFF then
            some (some (Char.ofNat (0x10000 + (unit - 0xD800) * 0x400 + (low - 0xDC00))), after)
          else some (none, rest)
        | none => none
      | _ => some (none, rest)
    else some (some (Char.ofNat unit), rest)

def letter? : Char → Option Char
  | '"' => some '"'
  | '\\' => some '\\'
  | '/' => some '/'
  | 'b' => some '\x08'
  | 'f' => some '\x0c'
  | 'n' => some '\n'
  | 'r' => some '\r'
  | 't' => some '\t'
  | _ => none

/-- The text up to the closing quote, if it is one; the fuel bounds its length. -/
def readQuoted : Nat → Option (List Char) → List Char → Option (Option String × List Char)
  | 0, _, _ => none
  | fuel + 1, done, cs =>
    match cs with
    | [] => none
    | '"' :: rest => some (done.map fun done => String.ofList done.reverse, rest)
    | '\\' :: 'u' :: rest =>
      match readEscapedUnit rest with
      | some (some c, rest) => readQuoted fuel (done.map (c :: ·)) rest
      | some (none, rest) => readQuoted fuel none rest
      | none => none
    | '\\' :: e :: rest =>
      match letter? e with
      | some c => readQuoted fuel (done.map (c :: ·)) rest
      | none => none
    | c :: rest =>
      if c = '\\' ∨ c.toNat < 32 then none else readQuoted fuel (done.map (c :: ·)) rest

/-- A text as a document. -/
def textual (s : Option String) : Document := (s.map Document.text).getD .unreadable

def readWord (cs : List Char) : Option (Document × List Char) :=
  match cs with
  | 'n' :: 'u' :: 'l' :: 'l' :: rest => some (.null, rest)
  | 't' :: 'r' :: 'u' :: 'e' :: rest => some (.bool true, rest)
  | 'f' :: 'a' :: 'l' :: 's' :: 'e' :: rest => some (.bool false, rest)
  | _ =>
    match Literal.read cs with
    | some (l, rest) => some ((l.number?.map Document.number).getD .unreadable, rest)
    | none => none

/-- The document, unless it stands too deep: none of the depth is left. -/
def within (depth : Nat) (d : Document) : Document := if depth = 0 then .unreadable else d

mutual

/-- A value at the front of the text; `depth` is how many lists and objects may still open. -/
def readValue : Nat → Nat → List Char → Option (Document × List Char)
  | 0, _, _ => none
  | fuel + 1, depth, cs =>
    match skipSpace cs with
    | '"' :: rest => (readQuoted fuel (some []) rest).map fun (s, rest) => (textual s, rest)
    | '[' :: rest =>
      match skipSpace rest with
      | ']' :: rest => some (within depth (.list []), rest)
      | rest =>
        (readItems fuel (depth - 1) [] rest).map fun (ds, rest) => (within depth (.list ds), rest)
    | '{' :: rest =>
      match skipSpace rest with
      | '}' :: rest => some (within depth (.fields []), rest)
      | rest =>
        (readFields fuel (depth - 1) [] rest).map fun (fs, rest) =>
          (within depth (.fields fs), rest)
    | rest => readWord rest

def readItems : Nat → Nat → List Document → List Char → Option (List Document × List Char)
  | 0, _, _, _ => none
  | fuel + 1, depth, done, cs =>
    match readValue fuel depth cs with
    | none => none
    | some (d, rest) =>
      match skipSpace rest with
      | ']' :: rest => some ((d :: done).reverse, rest)
      | ',' :: rest => readItems fuel depth (d :: done) rest
      | _ => none

def readFields : Nat → Nat → List (Document × Document) → List Char →
    Option (List (Document × Document) × List Char)
  | 0, _, _, _ => none
  | fuel + 1, depth, done, cs =>
    match skipSpace cs with
    | '"' :: rest =>
      match readQuoted fuel (some []) rest with
      | none => none
      | some (name, rest) =>
        match skipSpace rest with
        | ':' :: rest =>
          match readValue fuel depth rest with
          | none => none
          | some (d, rest) =>
            match skipSpace rest with
            | '}' :: rest => some (((textual name, d) :: done).reverse, rest)
            | ',' :: rest => readFields fuel depth ((textual name, d) :: done) rest
            | _ => none
        | _ => none
    | _ => none

end

/-- A whole text: one value with nothing but space around it. -/
def read (s : String) : Option Document :=
  let cs := s.toList
  match readValue (2 * cs.length + 2) depthLimit cs with
  | some (d, rest) => if (skipSpace rest).isEmpty then some d else none
  | none => none

end Json

end Parley
