/-!
# Parley.Yaml.Cursor

The characters of YAML text, and a place in it: what is still to be read, and how far it is from the
start of the text and from the start of the line. Blocks are told by columns, keys by lines and
distances.
-/

namespace Parley

namespace Yaml

/-- A character that may stand in a text at all. -/
def isAllowed (c : Char) : Bool :=
  let n := c.toNat
  n = 0x09 || n = 0x0A || n = 0x0D || (0x20 ≤ n && n ≤ 0x7E) || n = 0x85
    || (0xA0 ≤ n && n ≤ 0xFFFD) || 0x10000 ≤ n

def isBlank (c : Char) : Bool := c = ' ' || c = '\t'

/-- Line feed, carriage return, next line, and the separators of lines and paragraphs. -/
def isBreak (c : Char) : Bool :=
  c = '\n' || c = '\r' || c = '\u0085' || c = '\u2028' || c = '\u2029'

/-- A blank, a line break or the end of the text. -/
def isGap : Option Char → Bool
  | none => true
  | some c => isBlank c || isBreak c

/-- A character of the names of anchors, directives and tags. -/
def isWord (c : Char) : Bool := c.isAlphanum || c = '_' || c = '-'

/-- The marks that end an unquoted scalar inside brackets and braces. -/
def isFlowMark (c : Char) : Bool := c = ',' || c = '[' || c = ']' || c = '{' || c = '}'

structure Cursor where
  rest : List Char
  /-- Characters since the start of the text. -/
  index : Nat
  line : Nat
  column : Nat

namespace Cursor

def ofChars (cs : List Char) : Cursor := ⟨cs, 0, 0, 0⟩

def peek? (c : Cursor) : Option Char := c.rest.head?

def atBlank (c : Cursor) : Bool := (c.peek?.map isBlank).getD false

def atBreak (c : Cursor) : Bool := (c.peek?.map isBreak).getD false

def atGap (c : Cursor) : Bool := isGap c.peek?

def isAt (c : Cursor) (ch : Char) : Bool := c.peek? = some ch

/-- Past so many characters of the line. -/
def advance (c : Cursor) (count : Nat) : Cursor :=
  { c with rest := c.rest.drop count, index := c.index + count, column := c.column + count }

/-- The characters of the line from here on that are all of one class, and the place behind them. -/
def span (c : Cursor) (p : Char → Bool) : List Char × Cursor :=
  let taken := c.rest.takeWhile p
  (taken, c.advance taken.length)

def skipWhile (c : Cursor) (p : Char → Bool) : Cursor := (c.span p).2

/-- Behind a line break that stands here. -/
def skipBreak (c : Cursor) : Cursor :=
  match c.rest with
  | '\r' :: '\n' :: rest => ⟨rest, c.index + 2, c.line + 1, 0⟩
  | ch :: rest => if isBreak ch then ⟨rest, c.index + 1, c.line + 1, 0⟩ else c
  | [] => c

/-- What a line break that stands here says: separators of lines and paragraphs stand for
themselves, all others for a line feed. -/
def breakText (c : Cursor) : List Char :=
  match c.rest with
  | [] => []
  | ch :: _ =>
    if ch = '\u2028' || ch = '\u2029' then [ch] else if isBreak ch then ['\n'] else []

/-- Behind the comment that may stand here, at the end of its line. -/
def skipComment (c : Cursor) : Cursor :=
  if c.isAt '#' then c.skipWhile fun ch => !isBreak ch else c

/-- Three of one mark, with a gap behind them, at the start of a line. -/
def isBound (c : Cursor) (mark : Char) : Bool :=
  c.column = 0 && c.rest.take 3 = [mark, mark, mark] && isGap (c.rest.drop 3).head?

/-- A document starts or ends here. -/
def atBound (c : Cursor) : Bool := c.isBound '-' || c.isBound '.'

/-- The start of the next line, if only blanks and a comment are left on this one. -/
def nextLine? (c : Cursor) : Option Cursor :=
  let c := (c.skipWhile isBlank).skipComment
  if c.atBreak then some c.skipBreak else if c.rest.isEmpty then some c else none

end Cursor

end Yaml

end Parley
