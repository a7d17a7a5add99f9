import Parley.Number.Radix
import Parley.Number.Reading
import Parley.Yaml.Cursor

/-!
# Parley.Yaml.Scalar

The written forms of scalars: without quotes, in single and in double quotes, and as blocks of
text. Line breaks inside a scalar fold: one alone becomes a space, of more the first is dropped.
-/

namespace Parley

namespace Yaml

/-- What stands between two pieces of text in a scalar. -/
structure Interval where
  /-- The blanks, if there is no line break. -/
  blanks : List Char
  /-- There is a line break. -/
  broken : Bool
  /-- The first line break, or nothing for one that is escaped. -/
  first : List Char
  /-- All further line breaks. -/
  more : List Char

namespace Interval

def empty : Interval := ⟨[], false, [], []⟩

/-- What the interval says when text follows it. -/
def text (i : Interval) : List Char :=
  if !i.broken then i.blanks
  else if i.first = ['\n'] then if i.more.isEmpty then [' '] else i.more
  else i.first ++ i.more

/-- The interval up to the next text. In front of column `bound` no tab may stand on a new line. -/
def read (bound : Int) : Nat → Interval → Cursor → Option (Interval × Cursor)
  | 0, _, _ => none
  | fuel + 1, i, c =>
    if c.atBlank then
      if i.broken then
        if c.column < bound && c.isAt '\t' then none else read bound fuel i (c.advance 1)
      else
        let (blanks, c) := c.span isBlank
        read bound fuel { i with blanks := i.blanks ++ blanks } c
    else if c.atBreak then
      let i := if i.broken then { i with more := i.more ++ c.breakText }
        else { i with blanks := [], broken := true, first := c.breakText }
      read bound fuel i c.skipBreak
    else some (i, c)

end Interval

/-- An unquoted scalar can start here. Marks of structure cannot start one, save a dash, a question
mark or a colon right before other text. -/
def startsPlain (bracketed : Bool) (cs : List Char) : Bool :=
  match cs with
  | [] => false
  | c :: rest =>
    !(isBlank c || isBreak c || isFlowMark c || c ∈ "-?:#&*!|>'\"%@`".toList)
      || (c = '-' && !(rest.head?.map isBlank).getD false)
      || (!bracketed && (c = '?' || c = ':') && !isGap rest.head?)

/-- The part of an unquoted scalar up to a gap or a mark that ends it. Inside brackets a colon in
front of another mark is an error. -/
def plainPiece (bracketed : Bool) : List Char → Option (List Char)
  | [] => some []
  | c :: cs =>
    if isBlank c || isBreak c then some []
    else if bracketed && c = ':' && (cs.head?.map fun d => isFlowMark d || d = '?').getD false then
      none
    else if (c = ':' && isGap cs.head?) || (bracketed && isFlowMark c) then some []
    else (plainPiece bracketed cs).map (c :: ·)

/-- An unquoted scalar of a block at column `bound` or further, and whether line breaks follow it.
Text so far, and the interval behind it. -/
def readPlain (bracketed : Bool) (bound : Int) :
    Nat → List Char → Interval → Cursor → Option (List Char × Bool × Cursor)
  | 0, _, _, _ => none
  | fuel + 1, done, i, c =>
    if c.atBound || c.isAt '#' then some (done, i.broken, c)
    else
      match plainPiece bracketed c.rest with
      | none => none
      | some piece =>
        let done := if piece.isEmpty then done else done ++ i.text ++ piece
        let i := if piece.isEmpty then i else .empty
        let c := c.advance piece.length
        if c.rest.isEmpty || !c.atGap then some (done, i.broken, c)
        else
          match i.read bound (c.rest.length + 1) c with
          | none => none
          | some (i, c) =>
            if !bracketed && c.column < bound then some (done, i.broken, c)
            else readPlain bracketed bound fuel done i c

def escape? : Char → Option Char
  | '0' => some '\x00'
  | 'a' => some '\x07'
  | 'b' => some '\x08'
  | 't' => some '\t'
  | '\t' => some '\t'
  | 'n' => some '\n'
  | 'v' => some '\x0b'
  | 'f' => some '\x0c'
  | 'r' => some '\r'
  | 'e' => some '\x1b'
  | ' ' => some ' '
  | '"' => some '"'
  | '/' => some '/'
  | '\\' => some '\\'
  | 'N' => some '\u0085'
  | '_' => some '\u00a0'
  | 'L' => some '\u2028'
  | 'P' => some '\u2029'
  | _ => none

/-- The number of hexadecimal digits behind the letter of an escape. -/
def escapeWidth? : Char → Option Nat
  | 'x' => some 2
  | 'u' => some 4
  | 'U' => some 8
  | _ => none

/-- The character of an escape, and how many characters it takes behind its backslash. -/
def readEscape : List Char → Option (Char × Nat)
  | [] => none
  | e :: rest =>
    match escapeWidth? e with
    | some width => (Number.readNumbered width rest).map fun (ch, _) => (ch, 1 + width)
    | none => (escape? e).map fun ch => (ch, 1)

/-- The text inside quotes up to a gap or the closing quote, added to what was read in reverse, and
whether an escaped line break ends it. -/
def quotedPiece (quote : Char) : Nat → List Char → Cursor → Option (List Char × Bool × Cursor)
  | 0, _, _ => none
  | fuel + 1, done, c =>
    match c.rest with
    | [] => some (done, false, c)
    | ch :: rest =>
      if isBlank ch || isBreak ch then some (done, false, c)
      else if ch = '\'' && quote = '\'' && rest.head? = some '\'' then
        quotedPiece quote fuel (ch :: done) (c.advance 2)
      else if ch = quote then some (done, false, c)
      else if ch = '\\' && quote = '"' then
        if (rest.head?.map isBreak).getD false then some (done, true, (c.advance 1).skipBreak)
        else
          match readEscape rest with
          | some (ch, size) => quotedPiece quote fuel (ch :: done) (c.advance (1 + size))
          | none => none
      else quotedPiece quote fuel (ch :: done) (c.advance 1)

/-- A scalar behind its opening quote, up to its closing one; what was read stands in reverse. -/
def readQuoted (quote : Char) : Nat → List Char → Cursor → Option (List Char × Cursor)
  | 0, _, _ => none
  | fuel + 1, done, c =>
    if c.atBound || c.rest.isEmpty then none
    else
      match quotedPiece quote (c.rest.length + 1) done c with
      | none => none
      | some (done, escaped, c) =>
        if c.isAt quote then some (done.reverse, c.advance 1)
        else
          match Interval.read 0 (c.rest.length + 1) { Interval.empty with broken := escaped } c with
          | none => none
          | some (i, c) => readQuoted quote fuel (i.text.reverse ++ done) c

/-- What becomes of the line breaks at the end of a block of text. -/
inductive Chomping where
  | strip
  | clip
  | keep
deriving DecidableEq

/-- The marks behind the one that opens a block of text. -/
structure BlockHeader where
  chomping : Chomping
  /-- How much further in than its surroundings the block is, if that is said. -/
  increment : Option Nat

namespace BlockHeader

def chomping? (c : Cursor) : Option Chomping :=
  if c.isAt '+' then some .keep else if c.isAt '-' then some .strip else none

/-- A digit, which may not be zero; `none` is an error. -/
def digit? (c : Cursor) : Option (Option Nat) :=
  match c.peek? with
  | some ch =>
    if ch.isDigit then if ch = '0' then none else some (some (Number.digitValue ch)) else some none
  | none => some none

/-- The two marks in any order. -/
def read (c : Cursor) : Option (BlockHeader × Cursor) :=
  match chomping? c with
  | some chomping =>
    (digit? (c.advance 1)).map fun increment =>
      (⟨chomping, increment⟩, c.advance (if increment.isSome then 2 else 1))
  | none =>
    match digit? c with
    | none => none
    | some none => some (⟨.clip, none⟩, c)
    | some (some n) =>
      match chomping? (c.advance 1) with
      | some chomping => some (⟨chomping, some n⟩, c.advance 2)
      | none => some (⟨.clip, some n⟩, c.advance 1)

end BlockHeader

/-- Empty lines in front of text: their breaks, the furthest column reached, and the place behind
them. Where the column of the block is not known, all spaces are passed over; no tab may stand in
front of it. -/
def readBlankLines (column : Option Nat) :
    Nat → List Char → Nat → Cursor → Option (List Char × Nat × Cursor)
  | 0, _, _, _ => none
  | fuel + 1, breaks, furthest, c =>
    let spaces := (c.rest.takeWhile (· = ' ')).length
    let c := c.advance (match column with
      | some n => min spaces (n - c.column)
      | none => spaces)
    let furthest := max furthest c.column
    let early := match column with
      | some n => c.column < n
      | none => true
    if early && c.isAt '\t' then none
    else if c.atBreak then
      readBlankLines column fuel (breaks ++ c.breakText) furthest c.skipBreak
    else some (breaks, furthest, c)

/-- The lines of a block of text at a column. `first` is the break behind the last line, `more` are
the breaks of the empty lines after it, and `gapped` tells whether that line started with a blank.
A single break between two lines that start without a blank folds in a folded block. -/
def readBlockLines (folded : Bool) (column : Nat) :
    Nat → List Char → List Char → List Char → Bool → Cursor →
      Option (List Char × List Char × List Char × Cursor)
  | 0, _, _, _, _, _ => none
  | fuel + 1, done, first, more, gapped, c =>
    if c.column ≠ column || c.rest.isEmpty then some (done, first, more, c)
    else
      let gap := c.atBlank
      let join :=
        if folded && first = ['\n'] && !gapped && !gap then if more.isEmpty then [' '] else more
        else first ++ more
      let (line, c) := c.span fun ch => !isBreak ch
      let first := c.breakText
      match readBlankLines (some column) (c.rest.length + 1) [] 0 c.skipBreak with
      | none => none
      | some (more, _, c) =>
        readBlockLines folded column fuel (done ++ join ++ line) first more gap c

/-- A block of text behind the mark that opens it; `indent` is the column of what it stands in. -/
def readBlock (folded : Bool) (indent : Int) (c : Cursor) : Option (List Char × Cursor) := do
  let (header, c) ← BlockHeader.read c
  let c ← c.nextLine?
  let given := header.increment.map fun n => (max indent 0).toNat + n
  let (more, furthest, c) ← readBlankLines given (c.rest.length + 1) [] 0 c
  let column := given.getD (max furthest (max (indent + 1).toNat 1))
  let (text, first, more, c) ←
    readBlockLines folded column (c.rest.length + 1) [] [] more false c
  let ending := match header.chomping with
    | .strip => []
    | .clip => first
    | .keep => first ++ more
  return (text ++ ending, c)

end Yaml

end Parley
