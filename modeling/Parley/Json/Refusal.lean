import Parley.Json.Literal
import Parley.Value.Outline

/-!
# Parley.Json.Refusal

What the reader refuses of a text that was written: lists and objects that stand too deep inside
each other, and numbers beyond the doubles. The text itself is not needed for that. The reader
passes through it from column to column, and so does `Outline.pass` through the outline.

The attributes of a scope stand in the text in any order. Columns are counted as if they stood in
the order of their names.
-/

namespace Parley

namespace Json

/-- How many lists and objects may stand inside each other, the outermost one included. -/
def depthLimit : Nat := 127

/-- Why a text is not read back, with the column at which reading stops. -/
inductive Refusal where
  /-- A list or an object begins that stands too deep. -/
  | depth (column : Nat)
  /-- A number ends that is beyond the doubles. -/
  | range (column : Nat)
deriving DecidableEq

namespace Refusal

def message : Refusal → String
  | depth column => s!"recursion limit exceeded at line 1 column {column}"
  | range column => s!"number out of range at line 1 column {column}"

end Refusal

end Json

namespace Outline

def textSize (s : String) : Nat := (String.ofList (Json.quote s [])).utf8ByteSize

mutual

/-- The column that the reader comes to behind the compact text of the outline, from the column
before it; `depth` is how many lists and objects may still open. -/
def pass (depth column : Nat) : Outline → Except Json.Refusal Nat
  | null => .ok (column + 4)
  | bool b => .ok (column + if b then 4 else 5)
  | number n =>
    if (Json.reread? n).isSome then .ok (column + n.text.utf8ByteSize)
    else .error (.range (column + n.text.utf8ByteSize))
  | text s => .ok (column + textSize s)
  | list [] => if depth = 0 then .error (.depth (column + 1)) else .ok (column + 2)
  | list (o :: os) =>
    if depth = 0 then .error (.depth (column + 1))
    else passItems (depth - 1) (column + 1) (o :: os)
  | fields [] => if depth = 0 then .error (.depth (column + 1)) else .ok (column + 2)
  | fields (f :: fs) =>
    if depth = 0 then .error (.depth (column + 1))
    else passFields (depth - 1) (column + 1) (f :: fs)

/-- Behind each item stands a comma, or the end of the list. -/
def passItems (depth column : Nat) : List Outline → Except Json.Refusal Nat
  | [] => .ok column
  | o :: os => (pass depth column o).bind fun reached => passItems depth (reached + 1) os

def passFields (depth column : Nat) : List (String × Outline) → Except Json.Refusal Nat
  | [] => .ok column
  | (k, o) :: fs =>
    (pass depth (column + textSize k + 1) o).bind fun reached => passFields depth (reached + 1) fs

end

end Outline

end Parley
