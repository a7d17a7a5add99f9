import Parley.Text.Letter
import Parley.Text.Blank
import Parley.Text.Quoted
import Parley.Value.Basic

/-!
# Parley.Expression.Token

The words of an expression. `Token.scan` takes one token, or one blank, off the front of a text;
`tokens` repeats it to the end. A minus sign belongs to a number only where an operand is
expected, so the token before decides.
-/

namespace Parley

inductive Comparison where
  | equal
  | notEqual
  | greater
  | less
  | greaterOrEqual
  | lessOrEqual
  | contains
deriving DecidableEq

inductive Token where
  | path (text : String)
  | number (value : Number)
  | text (value : String)
  | comparison (op : Comparison)
  | andWord
  | orWord
  | notWord
  | trueWord
  | falseWord
  | nullWord
  | opening
  | closing
deriving DecidableEq

/-- Why a text is no expression. -/
inductive ExpressionError where
  | invalidFormat (reason expression : String)
  | unexpectedToken (token expression : String)
  | unterminatedString (expression : String)
  | unterminatedTemplate (expression : String)
deriving DecidableEq

namespace ExpressionError

/-- The word for the kind of error. -/
def code : ExpressionError → String
  | invalidFormat .. => "invalid_format"
  | unexpectedToken .. => "unexpected_token"
  | unterminatedString .. => "unterminated_string"
  | unterminatedTemplate .. => "unterminated_template"

def message : ExpressionError → String
  | invalidFormat reason expression => s!"Invalid expression '{expression}': {reason}"
  | unexpectedToken token expression =>
    s!"Unexpected token '{token}' in '{expression}'. "
      ++ "Supported: ==, !=, >, <, >=, <=, contains, and, or, not"
  | unterminatedString expression => s!"Unterminated string literal in '{expression}'"
  | unterminatedTemplate expression => "Unterminated '$\x7b' in template '" ++ expression ++ "'"

end ExpressionError

namespace Comparison

/-- The operator as it is written. -/
def symbol : Comparison → String
  | equal => "=="
  | notEqual => "!="
  | greater => ">"
  | less => "<"
  | greaterOrEqual => ">="
  | lessOrEqual => "<="
  | contains => "contains"

/-- The operator's name in messages. -/
def name : Comparison → String
  | equal => "Equals"
  | notEqual => "NotEquals"
  | greater => "GreaterThan"
  | less => "LessThan"
  | greaterOrEqual => "GreaterThanOrEqual"
  | lessOrEqual => "LessThanOrEqual"
  | contains => "Contains"

end Comparison

namespace Token

/-- The token as messages show it. -/
def describe : Token → String
  | path s => "Ident(" ++ Text.quoted s ++ ")"
  | number n => "Number(Number(" ++ n.text ++ "))"
  | text s => "Str(" ++ Text.quoted s ++ ")"
  | comparison op => "Op(" ++ op.name ++ ")"
  | andWord => "And"
  | orWord => "Or"
  | notWord => "Not"
  | trueWord => "True"
  | falseWord => "False"
  | nullWord => "Null"
  | opening => "LParen"
  | closing => "RParen"

/-- What can go wrong inside a text before there are tokens. -/
inductive Fault where
  | unexpected (c : Char)
  | badNumber (spelling : List Char)
  | openString
deriving DecidableEq

namespace Fault

def inExpression (source : String) : Fault → ExpressionError
  | unexpected c => .unexpectedToken (String.singleton c) source
  | badNumber spelling =>
    .invalidFormat ("invalid number '" ++ String.ofList spelling ++ "'") source
  | openString => .unterminatedString source

end Fault

/-- An operand comes next: at the start, and after an operator, a word or an opening parenthesis. -/
def expectsOperand : Option Token → Bool
  | none => true
  | some (comparison _) => true
  | some andWord => true
  | some orWord => true
  | some notWord => true
  | some opening => true
  | some _ => false

/-- The string up to the closing quote, and what follows. A backslash takes the next character as
it is. -/
def readString (quote : Char) : List Char → Option (List Char × List Char)
  | [] => none
  | ['\\'] => none
  | '\\' :: c :: cs => (readString quote cs).map fun (value, rest) => (c :: value, rest)
  | c :: cs =>
    if c = quote then some ([], cs)
    else (readString quote cs).map fun (value, rest) => (c :: value, rest)

/-- An integer if there is no point and it fits 64 bits, otherwise a finite double. -/
def readNumber (spelling : List Char) : Option Number :=
  match if spelling.contains '.' then none else Number.readInt spelling with
  | some i => some (.int i)
  | none => ((Number.readReal spelling).bind Extended.finite?).map .float

def ofWord (word : List Char) : Token :=
  if word = ['a', 'n', 'd'] then andWord
  else if word = ['o', 'r'] then orWord
  else if word = ['n', 'o', 't'] then notWord
  else if word = ['t', 'r', 'u', 'e'] then trueWord
  else if word = ['f', 'a', 'l', 's', 'e'] then falseWord
  else if word = ['n', 'u', 'l', 'l'] then nullWord
  else if word = ['c', 'o', 'n', 't', 'a', 'i', 'n', 's'] then comparison .contains
  else path (String.ofList word)

def startsWord (c : Char) : Bool := Text.isAlphabetic c || c = '_'

def continuesWord (c : Char) : Bool := Text.isAlphanumeric c || c = '_' || c = '.'

def continuesNumber (c : Char) : Bool := c.isDigit || c = '.'

/-- The operators of two characters. -/
def pair? (c d : Char) : Option Token :=
  match c, d with
  | '=', '=' => some (comparison .equal)
  | '!', '=' => some (comparison .notEqual)
  | '>', '=' => some (comparison .greaterOrEqual)
  | '<', '=' => some (comparison .lessOrEqual)
  | '&', '&' => some andWord
  | '|', '|' => some orWord
  | _, _ => none

/-- The tokens of one character. -/
def single? : Char → Option Token
  | '(' => some opening
  | ')' => some closing
  | '!' => some notWord
  | '>' => some (comparison .greater)
  | '<' => some (comparison .less)
  | _ => none

/-- A number at `c` or a word at `c`. -/
def scanLong (previous : Option Token) (c : Char) (cs : List Char) :
    Except Fault (Option Token × List Char) :=
  let negative := c = '-' && (cs.head?.map Char.isDigit).getD false && expectsOperand previous
  if c.isDigit || negative then
    let spelling := c :: cs.takeWhile continuesNumber
    match readNumber spelling with
    | some n => .ok (some (number n), cs.dropWhile continuesNumber)
    | none => .error (.badNumber spelling)
  else if startsWord c then
    .ok (some (ofWord (c :: cs.takeWhile continuesWord)), cs.dropWhile continuesWord)
  else .error (.unexpected c)

/-- The token that starts with `c`, or nothing for a blank, and the text that follows. -/
def scan (previous : Option Token) (c : Char) (cs : List Char) :
    Except Fault (Option Token × List Char) :=
  if Text.isBlank c then .ok (none, cs)
  else if c = '\'' ∨ c = '"' then
    match readString c cs with
    | some (value, rest) => .ok (some (text (String.ofList value)), rest)
    | none => .error .openString
  else
    match cs.head?.bind (pair? c) with
    | some token => .ok (some token, cs.tail)
    | none =>
      match single? c with
      | some token => .ok (some token, cs)
      | none => scanLong previous c cs

/-- All tokens of a text that follows the token `previous`. The fuel bounds its length. -/
def scanAll : Nat → Option Token → List Char → Except Fault (List Token)
  | 0, _, _ => .ok []
  | _ + 1, _, [] => .ok []
  | fuel + 1, previous, c :: cs =>
    match scan previous c cs with
    | .error e => .error e
    | .ok (none, rest) => scanAll fuel previous rest
    | .ok (some token, rest) =>
      match scanAll fuel (some token) rest with
      | .error e => .error e
      | .ok tokens => .ok (token :: tokens)

end Token

/-- The tokens of a text. -/
def tokens (cs : List Char) : Except Token.Fault (List Token) :=
  Token.scanAll cs.length none cs

end Parley
