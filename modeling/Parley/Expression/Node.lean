import Parley.Expression.Token
import Parley.Value.Path

/-!
# Parley.Expression.Node

Expression trees and their grammar:

    or         := and ("or" and)*
    and        := unary ("and" unary)*
    unary      := "not" unary | comparison
    comparison := primary [op primary]
    primary    := path | number | string | true | false | null | "(" or ")"

Chains of `or` and of `and` lean to the left. Every function of the grammar takes fuel, which
`Node.ofTokens` sets high enough for any list of tokens.
-/

namespace Parley

inductive Node where
  | literal (value : Value)
  | path (segments : Path)
  | not (inner : Node)
  | and (left right : Node)
  | or (left right : Node)
  | compare (op : Comparison) (left right : Node)

namespace Node

/-- Why a list of tokens is no expression. -/
inductive Fault where
  | unexpectedEnd
  | missingClosing
  | unexpected (token : Token)

namespace Fault

def inExpression (source : String) : Fault → ExpressionError
  | unexpectedEnd => .invalidFormat "unexpected end of expression" source
  | missingClosing => .invalidFormat "missing ')'" source
  | unexpected token => .unexpectedToken token.describe source

end Fault

/-- A tree and the tokens after it. -/
abbrev Parsed := Except Fault (Node × List Token)

mutual

def parseOr : Nat → List Token → Parsed
  | 0, _ => .error .unexpectedEnd
  | fuel + 1, ts =>
    match parseAnd fuel ts with
    | .error e => .error e
    | .ok (left, rest) => moreOr fuel left rest

def moreOr : Nat → Node → List Token → Parsed
  | fuel + 1, left, .orWord :: ts =>
    match parseAnd fuel ts with
    | .error e => .error e
    | .ok (right, rest) => moreOr fuel (.or left right) rest
  | _, left, ts => .ok (left, ts)

def parseAnd : Nat → List Token → Parsed
  | 0, _ => .error .unexpectedEnd
  | fuel + 1, ts =>
    match parseUnary fuel ts with
    | .error e => .error e
    | .ok (left, rest) => moreAnd fuel left rest

def moreAnd : Nat → Node → List Token → Parsed
  | fuel + 1, left, .andWord :: ts =>
    match parseUnary fuel ts with
    | .error e => .error e
    | .ok (right, rest) => moreAnd fuel (.and left right) rest
  | _, left, ts => .ok (left, ts)

def parseUnary : Nat → List Token → Parsed
  | 0, _ => .error .unexpectedEnd
  | fuel + 1, .notWord :: ts =>
    match parseUnary fuel ts with
    | .error e => .error e
    | .ok (inner, rest) => .ok (.not inner, rest)
  | fuel + 1, ts => parseComparison fuel ts

def parseComparison : Nat → List Token → Parsed
  | 0, _ => .error .unexpectedEnd
  | fuel + 1, ts =>
    match parsePrimary fuel ts with
    | .error e => .error e
    | .ok (left, .comparison op :: rest) =>
      match parsePrimary fuel rest with
      | .error e => .error e
      | .ok (right, rest) => .ok (.compare op left right, rest)
    | .ok (left, rest) => .ok (left, rest)

def parsePrimary : Nat → List Token → Parsed
  | 0, _ => .error .unexpectedEnd
  | _ + 1, [] => .error .unexpectedEnd
  | fuel + 1, token :: ts =>
    match token with
    | .path s => .ok (.path (Path.ofString s), ts)
    | .number n => .ok (.literal (.number n), ts)
    | .text s => .ok (.literal (.text s), ts)
    | .trueWord => .ok (.literal (.bool true), ts)
    | .falseWord => .ok (.literal (.bool false), ts)
    | .nullWord => .ok (.literal .null, ts)
    | .opening =>
      match parseOr fuel ts with
      | .error e => .error e
      | .ok (inner, .closing :: rest) => .ok (inner, rest)
      | .ok _ => .error .missingClosing
    | other => .error (.unexpected other)

end

/-- The tree of a whole list of tokens. -/
def ofTokens (ts : List Token) : Except Fault Node :=
  match parseOr (8 * ts.length + 8) ts with
  | .error e => .error e
  | .ok (node, []) => .ok node
  | .ok (_, token :: _) => .error (.unexpected token)

/-- The tree of a text. -/
def ofChars (cs : List Char) : Except ExpressionError Node :=
  let source := String.ofList cs
  match tokens cs with
  | .error fault => .error (fault.inExpression source)
  | .ok [] => .error (.invalidFormat "empty expression" source)
  | .ok ts =>
    match ofTokens ts with
    | .error fault => .error (fault.inExpression source)
    | .ok node => .ok node

def ofString (source : String) : Except ExpressionError Node := ofChars source.toList

end Node

end Parley
