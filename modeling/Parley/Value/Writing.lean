import Parley.Value.Basic

/-!
# Parley.Value.Writing

The text of a value: compact JSON without spaces, characters beyond ASCII as themselves.

Each writer takes the text that follows, so that the text of a whole value is built once from the
end.
-/

namespace Parley

namespace Json

/-- A character inside quotes. Control characters have a letter or four hexadecimal digits. -/
def escaped (c : Char) : List Char :=
  match c with
  | '"' => ['\\', '"']
  | '\\' => ['\\', '\\']
  | '\n' => ['\\', 'n']
  | '\r' => ['\\', 'r']
  | '\t' => ['\\', 't']
  | '\x08' => ['\\', 'b']
  | '\x0c' => ['\\', 'f']
  | c =>
    if c.toNat < 32 then
      let digits := Nat.toDigits 16 c.toNat
      '\\' :: 'u' :: List.replicate (4 - digits.length) '0' ++ digits
    else [c]

def quote (s : String) (rest : List Char) : List Char :=
  '"' :: s.toList.foldr (fun c after => escaped c ++ after) ('"' :: rest)

end Json

namespace Value

mutual

def write : Value → List Char → List Char
  | null, rest => 'n' :: 'u' :: 'l' :: 'l' :: rest
  | bool true, rest => 't' :: 'r' :: 'u' :: 'e' :: rest
  | bool false, rest => 'f' :: 'a' :: 'l' :: 's' :: 'e' :: rest
  | number n, rest => n.text.toList ++ rest
  | text s, rest => Json.quote s rest
  | list xs, rest => '[' :: writeList xs (']' :: rest)
  | object fs, rest => '{' :: writeFields fs ('}' :: rest)

def writeList : List Value → List Char → List Char
  | [], rest => rest
  | [x], rest => write x rest
  | x :: y :: xs, rest => write x (',' :: writeList (y :: xs) rest)

def writeFields : List (String × Value) → List Char → List Char
  | [], rest => rest
  | [(k, x)], rest => Json.quote k (':' :: write x rest)
  | (k, x) :: f :: fs, rest => Json.quote k (':' :: write x (',' :: writeFields (f :: fs) rest))

end

/-- The value as JSON. -/
def json (v : Value) : String := String.ofList (v.write [])

/-- The value as it appears inside other text: a text is itself, nothing is empty. -/
def display : Value → String
  | text s => s
  | null => ""
  | v => v.json

end Value

end Parley
