import Parley.Text.Hidden

/-!
# Parley.Text.Quoted

Text in double quotes for messages. A quote and a backslash stand behind a backslash, line ends,
tabs and the null character have letters, and any other hidden character is given by its number.
-/

namespace Parley.Text

/-- The number of a hidden character in braces, in lower-case hexadecimal. -/
def numbered (c : Char) : List Char :=
  '\\' :: 'u' :: '{' :: Nat.toDigits 16 c.toNat ++ ['}']

def quotedChar (c : Char) : List Char :=
  match c with
  | '"' => ['\\', '"']
  | '\\' => ['\\', '\\']
  | '\n' => ['\\', 'n']
  | '\r' => ['\\', 'r']
  | '\t' => ['\\', 't']
  | '\x00' => ['\\', '0']
  | c => if isHidden c then numbered c else [c]

def quoted (s : String) : String :=
  String.ofList ('"' :: s.toList.flatMap quotedChar ++ ['"'])

/-- A list of quoted texts in square brackets. -/
def quotedList (texts : List String) : String :=
  "[" ++ (", ".intercalate (texts.map quoted)) ++ "]"

end Parley.Text
