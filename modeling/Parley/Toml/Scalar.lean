import Parley.Document.Basic
import Parley.Number.Radix

/-!
# Parley.Toml.Scalar

Scalars in TOML text: the four quoted forms, and the numbers, truth values and words for infinities
that stand without quotes.
-/

namespace Parley

namespace Toml

/-- A space or a tab. -/
def isGap (c : Char) : Bool := c = ' ' || c = '\t'

def dropGaps (cs : List Char) : List Char := cs.dropWhile isGap

/-- A character of a line break, which is a line feed that may stand behind a carriage return. -/
def isBreak (c : Char) : Bool := c = '\n' || c = '\r'

def isSpace (c : Char) : Bool := isGap c || isBreak c

/-- The text after a line break, if one stands here. -/
def afterBreak? : List Char → Option (List Char)
  | '\n' :: cs => some cs
  | '\r' :: '\n' :: cs => some cs
  | _ => none

/-- A control character other than the tab; none may stand in a text as it is. -/
def isControl (c : Char) : Bool := (c.toNat < 32 && c ≠ '\t') || c.toNat = 127

def escape? : Char → Option Char
  | 'b' => some '\x08'
  | 't' => some '\t'
  | 'n' => some '\n'
  | 'f' => some '\x0c'
  | 'r' => some '\r'
  | 'e' => some '\x1b'
  | '"' => some '"'
  | '\\' => some '\\'
  | _ => none

/-- The character that an escape stands for, after its backslash. -/
def readEscape : List Char → Option (Char × List Char)
  | 'x' :: cs => Number.readNumbered 2 cs
  | 'u' :: cs => Number.readNumbered 4 cs
  | 'U' :: cs => Number.readNumbered 8 cs
  | c :: cs => (escape? c).map fun e => (e, cs)
  | [] => none

/-- Text on one line up to its closing quote. -/
def readLine : Nat → List Char → List Char → Option (String × List Char)
  | 0, _, _ => none
  | fuel + 1, done, cs =>
    match cs with
    | [] => none
    | '"' :: rest => some (String.ofList done.reverse, rest)
    | '\\' :: rest =>
      match readEscape rest with
      | some (c, rest) => readLine fuel (c :: done) rest
      | none => none
    | c :: rest => if isControl c then none else readLine fuel (c :: done) rest

/-- A line as it stands up to its closing quote. -/
def readLiteralLine (done : List Char) : List Char → Option (String × List Char)
  | [] => none
  | c :: rest =>
    if c = '\'' then some (String.ofList done.reverse, rest)
    else if isControl c then none
    else readLiteralLine (c :: done) rest

/-- The end of a text in triple quotes: up to two of five quotes in a row belong to the text. -/
def closing? (quote : Char) (cs : List Char) : Option (List Char × List Char) :=
  let count := min 5 (cs.takeWhile (· = quote)).length
  if count < 3 then none else some (List.replicate (count - 3) quote, cs.drop count)

/-- A backslash at the end of a line drops all space up to the next text. -/
def joined? (cs : List Char) : Option (List Char) :=
  (afterBreak? (dropGaps cs)).map fun rest => rest.dropWhile isSpace

/-- Text over several lines up to its three closing quotes. -/
def readLines : Nat → List Char → List Char → Option (String × List Char)
  | 0, _, _ => none
  | fuel + 1, done, cs =>
    match closing? '"' cs with
    | some (quotes, rest) => some (String.ofList (done.reverse ++ quotes), rest)
    | none =>
      match cs with
      | [] => none
      | '\\' :: rest =>
        match joined? rest with
        | some rest => readLines fuel done rest
        | none =>
          match readEscape rest with
          | some (c, rest) => readLines fuel (c :: done) rest
          | none => none
      | c :: rest => if isControl c && !isBreak c then none else readLines fuel (c :: done) rest

/-- Several lines as they stand up to their three closing quotes. -/
def readLiteralLines : Nat → List Char → List Char → Option (String × List Char)
  | 0, _, _ => none
  | fuel + 1, done, cs =>
    match closing? '\'' cs with
    | some (quotes, rest) => some (String.ofList (done.reverse ++ quotes), rest)
    | none =>
      match cs with
      | [] => none
      | c :: rest =>
        if isControl c && !isBreak c then none else readLiteralLines fuel (c :: done) rest

/-- A line break right after the opening quotes is no part of the text. -/
def dropBreak (cs : List Char) : List Char := (afterBreak? cs).getD cs

/-- A quoted text at the front of the input. -/
def readQuoted (cs : List Char) : Option (String × List Char) :=
  match cs with
  | '"' :: '"' :: '"' :: rest => readLines (rest.length + 1) [] (dropBreak rest)
  | '\'' :: '\'' :: '\'' :: rest => readLiteralLines (rest.length + 1) [] (dropBreak rest)
  | '"' :: rest => readLine (rest.length + 1) [] rest
  | '\'' :: rest => readLiteralLine [] rest
  | _ => none

/-- The characters after the beginning `0x` are hexadecimal digits, all others decimal ones. -/
def isDigitOf (cs : List Char) (c : Char) : Bool :=
  match cs with
  | '0' :: 'x' :: _ => (Number.hexValue? c).isSome
  | _ => c.isDigit

/-- Underscores may stand between two digits and nowhere else; the digits without them. -/
def dropUnderscores (cs : List Char) : Option (List Char) := go (isDigitOf cs) false cs
where
  go (isDigit : Char → Bool) (afterDigit : Bool) : List Char → Option (List Char)
    | [] => some []
    | '_' :: c :: rest => if afterDigit && isDigit c then go isDigit false (c :: rest) else none
    | c :: rest => if c = '_' then none else (go isDigit (isDigit c) rest).map (c :: ·)

/-- Decimal digits that do not begin with a needless zero. -/
def isPlainInteger (cs : List Char) : Bool :=
  Number.areDigits cs && (cs.length = 1 || cs.head? ≠ some '0')

def readInteger (cs : List Char) : Option Int :=
  match cs with
  | '0' :: 'x' :: digits => (Number.readRadix 16 digits).map Int.ofNat
  | '0' :: 'o' :: digits => (Number.readRadix 8 digits).map Int.ofNat
  | '0' :: 'b' :: digits => (Number.readRadix 2 digits).map Int.ofNat
  | _ =>
    let (negative, digits) := Number.takeSign cs
    if isPlainInteger digits then
      let size : Int := Number.ofDigits digits
      some (if negative then -size else size)
    else none

/-- The digits around a point or before an exponent have the form that numbers need. -/
def isPlainReal (cs : List Char) : Bool :=
  let digits := (Number.takeSign cs).2
  let rest := digits.dropWhile Char.isDigit
  isPlainInteger (digits.takeWhile Char.isDigit) &&
    match rest with
    | '.' :: c :: _ => c.isDigit
    | 'e' :: _ => true
    | 'E' :: _ => true
    | _ => false

/-- A real that is finite, or one of the words for those that are not. -/
def readReal (cs : List Char) : Option Scalar :=
  let word := (Number.takeSign cs).2
  if word = ['i', 'n', 'f'] ∨ word = ['n', 'a', 'n'] then some .unreal
  else if isPlainReal cs then
    match Number.readReal cs with
    | some (.finite x) => some (.number (.float x))
    | _ => none
  else none

/-- An integer in the 64 bits that values hold, or in twice as many, where none of them does. -/
def ofInteger (i : Int) : Option Scalar :=
  if -0x8000000000000000 ≤ i ∧ i < 0x10000000000000000 then some (.number (.int i))
  else if -0x80000000000000000000000000000000 ≤ i ∧ i < 0x100000000000000000000000000000000 then
    some .misfit
  else none

/-- What a word without quotes stands for. -/
def readWord (cs : List Char) : Option Scalar :=
  if cs = ['t', 'r', 'u', 'e'] then some (.bool true)
  else if cs = ['f', 'a', 'l', 's', 'e'] then some (.bool false)
  else
    match dropUnderscores cs with
    | none => none
    | some cs =>
      match readInteger cs with
      | some i => ofInteger i
      | none => readReal cs

end Toml

end Parley
