import Parley.Yaml.Scalar
import Parley.Yaml.Tag

/-!
# Parley.Yaml.Tokens

The tokens of a text. Indentation becomes tokens that open and close blocks, and a key gets its
token when the colon behind it is found: until then the place where the key may have started is
kept in mind.

A key that has no mark of its own ends on its line and takes at most 1024 characters.
-/

namespace Parley

namespace Yaml

/-- Where a key may have started. -/
structure KeyStart where
  /-- No other token can stand here, as a field of a block has to follow. -/
  required : Bool
  /-- How many tokens stand before it. -/
  number : Nat
  index : Nat
  line : Nat
  column : Nat

/-- The tokens so far, last first, and what is known about the place behind them. -/
structure Scan where
  cursor : Cursor
  tokens : List Token
  /-- The column of the innermost block; less than zero outside of all blocks. -/
  indent : Int
  /-- The columns of the blocks around it. -/
  outer : List Int
  /-- Where a key may have started: outside of brackets, and in each bracket that is open; the
  innermost one first. -/
  keys : List (Option KeyStart)
  /-- A key may start here. -/
  keyAllowed : Bool

namespace Scan

def ofChars (cs : List Char) : Scan := ⟨.ofChars cs, [], -1, [], [none], true⟩

/-- Inside brackets or braces. -/
def bracketed (s : Scan) : Bool := 1 < s.keys.length

def push (s : Scan) (t : Token) : Scan := { s with tokens := t :: s.tokens }

/-- A token in front of all but the first ones. -/
def insert (s : Scan) (number : Nat) (t : Token) : Scan :=
  { s with tokens := s.tokens.insertIdx (s.tokens.length - number) t }

def key? (s : Scan) : Option KeyStart := (s.keys.head?).getD none

def setKey (s : Scan) (key : Option KeyStart) : Scan := { s with keys := key :: s.keys.drop 1 }

/-- No key started here after all. -/
def dropKey (s : Scan) : Option Scan :=
  match s.key? with
  | some key => if key.required then none else some (s.setKey none)
  | none => some s

/-- A key may start here, if one is allowed. -/
def saveKey (s : Scan) : Option Scan :=
  if s.keyAllowed then
    let c := s.cursor
    let required := !s.bracketed && s.indent = c.column
    s.dropKey.map fun s => s.setKey (some ⟨required, s.tokens.length, c.index, c.line, c.column⟩)
  else some s

/-- Without the keys that would be too long by now. -/
def dropStale (s : Scan) : Option Scan :=
  let fresh (key : Option KeyStart) : Option (Option KeyStart) :=
    match key with
    | none => some none
    | some key =>
      if key.line < s.cursor.line || key.index + 1024 < s.cursor.index then
        if key.required then none else some none
      else some (some key)
  (s.keys.mapM fresh).map fun keys => { s with keys := keys }

/-- A new block at the column, if it is further in than the one around it. -/
def openBlock (s : Scan) (column : Nat) (number : Nat) (t : Token) : Scan :=
  if !s.bracketed && s.indent < column then
    { s.insert number t with indent := column, outer := s.indent :: s.outer }
  else s

/-- All blocks closed that are further in than the column. -/
def closeBlocks (column : Int) : List Int → Scan → Scan
  | [], s => s
  | indent :: outer, s =>
    if column < s.indent then
      closeBlocks column outer { s.push .closeBlock with indent := indent, outer := outer }
    else s

def unroll (s : Scan) (column : Int) : Scan :=
  if s.bracketed then s else closeBlocks column s.outer s

/-- The place of the next token. A tab is no gap where a key may start outside of brackets. -/
def skipGaps : Nat → Scan → Scan
  | 0, s => s
  | fuel + 1, s =>
    let c := s.cursor
    let c := if c.column = 0 && c.isAt '\uFEFF' then c.advance 1 else c
    let c := c.skipWhile fun ch => ch = ' ' || (ch = '\t' && (s.bracketed || !s.keyAllowed))
    let c := c.skipComment
    if c.atBreak then
      skipGaps fuel { s with cursor := c.skipBreak, keyAllowed := s.keyAllowed || !s.bracketed }
    else { s with cursor := c }

/-- Outside of all blocks, where no key may start. -/
def leaveBlocks (s : Scan) : Option Scan :=
  (s.unroll (-1)).dropKey.map fun s => { s with keyAllowed := false }

/-- A token of so many characters. -/
def take (s : Scan) (size : Nat) (t : Token) : Scan :=
  { s.push t with cursor := s.cursor.advance size }

def readBoundary (s : Scan) (t : Token) : Option Scan := s.leaveBlocks.map fun s => s.take 3 t

def readOpening (s : Scan) (t : Token) : Option Scan :=
  s.saveKey.map fun s => { s.take 1 t with keys := none :: s.keys, keyAllowed := true }

def readClosing (s : Scan) (t : Token) : Option Scan :=
  s.dropKey.map fun s =>
    let keys := if s.bracketed then s.keys.drop 1 else s.keys
    { s.take 1 t with keys := keys, keyAllowed := false }

def readComma (s : Scan) : Option Scan :=
  s.dropKey.map fun s => { s.take 1 .comma with keyAllowed := true }

def readItemMark (s : Scan) : Option Scan :=
  if !s.bracketed && !s.keyAllowed then none
  else
    (s.openBlock s.cursor.column s.tokens.length .openBlockList).dropKey.map fun s =>
      { s.take 1 .item with keyAllowed := true }

def readKeyMark (s : Scan) : Option Scan :=
  if !s.bracketed && !s.keyAllowed then none
  else
    (s.openBlock s.cursor.column s.tokens.length .openBlockFields).dropKey.map fun s =>
      { s.take 1 .key with keyAllowed := !s.bracketed }

/-- A colon: it shows that what started a while ago is a key. -/
def readValueMark (s : Scan) : Option Scan :=
  match s.key? with
  | some key =>
    let s := (s.insert key.number .key).openBlock key.column key.number .openBlockFields
    some { (s.setKey none).take 1 .value with keyAllowed := false }
  | none =>
    if !s.bracketed && !s.keyAllowed then none
    else
      let s := s.openBlock s.cursor.column s.tokens.length .openBlockFields
      some { s.take 1 .value with keyAllowed := !s.bracketed }

def readNamed (s : Scan) (t : String → Token) : Option Scan := do
  let s ← s.saveKey
  let (name, c) ← readName (s.cursor.advance 1)
  return { s.push (t name) with cursor := c, keyAllowed := false }

def readTagged (s : Scan) : Option Scan := do
  let s ← s.saveKey
  let (t, c) ← readTag s.bracketed s.cursor
  return { s.push t with cursor := c, keyAllowed := false }

def readDirectiveLine (s : Scan) : Option Scan := do
  let s ← s.leaveBlocks
  let (t, c) ← readDirective (s.cursor.advance 1)
  return { s.push t with cursor := c }

def readBlockScalar (s : Scan) (style : Style) : Option Scan := do
  let s ← s.dropKey
  let (text, c) ← readBlock (style = .folded) s.indent (s.cursor.advance 1)
  return { s.push (.scalar style (.ofList text)) with cursor := c, keyAllowed := true }

def readQuotedScalar (s : Scan) (style : Style) (quote : Char) : Option Scan := do
  let s ← s.saveKey
  let c := s.cursor.advance 1
  let (text, c) ← readQuoted quote (c.rest.length + 1) [] c
  return { s.push (.scalar style (.ofList text)) with cursor := c, keyAllowed := false }

def readPlainScalar (s : Scan) : Option Scan := do
  let s ← s.saveKey
  let c := s.cursor
  let (text, broken, c) ←
    readPlain s.bracketed (s.indent + 1) (c.rest.length + 1) [] .empty c
  return { s.push (.scalar .plain (.ofList text)) with cursor := c, keyAllowed := broken }

/-- The token at the cursor, by its first character. -/
def readToken (s : Scan) (first : Char) : Option Scan :=
  let c := s.cursor
  let gapped := isGap (c.rest.drop 1).head?
  if c.column = 0 && first = '%' then s.readDirectiveLine
  else if c.isBound '-' then s.readBoundary .documentStart
  else if c.isBound '.' then s.readBoundary .documentEnd
  else if first = '[' then s.readOpening .openList
  else if first = '{' then s.readOpening .openFields
  else if first = ']' then s.readClosing .closeList
  else if first = '}' then s.readClosing .closeFields
  else if first = ',' then s.readComma
  else if first = '-' && gapped then s.readItemMark
  else if first = '?' && (s.bracketed || gapped) then s.readKeyMark
  else if first = ':' && (s.bracketed || gapped) then s.readValueMark
  else if first = '*' then s.readNamed .reference
  else if first = '&' then s.readNamed .anchor
  else if first = '!' then s.readTagged
  else if first = '|' && !s.bracketed then s.readBlockScalar .literal
  else if first = '>' && !s.bracketed then s.readBlockScalar .folded
  else if first = '\'' then s.readQuotedScalar .singleQuoted '\''
  else if first = '"' then s.readQuotedScalar .doubleQuoted '"'
  else if startsPlain s.bracketed c.rest then s.readPlainScalar
  else none

/-- All tokens from here on; each takes at least one character. -/
def readAll : Nat → Scan → Option (List Token)
  | 0, _ => none
  | fuel + 1, s =>
    match (skipGaps (s.cursor.rest.length + 1) s).dropStale with
    | none => none
    | some s =>
      let s := s.unroll s.cursor.column
      match s.cursor.peek? with
      | none => s.leaveBlocks.map fun s => s.tokens.reverse
      | some first =>
        match s.readToken first with
        | some s => readAll fuel s
        | none => none

end Scan

/-- The tokens of a text. -/
def tokens? (cs : List Char) : Option (List Token) :=
  if cs.all isAllowed then Scan.readAll (cs.length + 1) (.ofChars cs) else none

end Yaml

end Parley
