import Parley.Text.Blank

/-!
# Parley.Text.FileName

The last name on a path, and its two halves around the last point. A name that begins with its only
point has no extension.
-/

namespace Parley

namespace FileName

/-- The last name on a path with slashes. A path that ends by going up names nothing. -/
def ofPath? (path : String) : Option String :=
  match ((Text.split '/' path).filter fun name => name ≠ "" && name ≠ ".").getLast? with
  | some ".." => none
  | other => other

/-- The halves of a name around its last point, unless nothing stands before the point. -/
def halves? (name : String) : Option (String × String) :=
  let reversed := name.toList.reverse
  match reversed.dropWhile (· ≠ '.') with
  | [] => none
  | [_] => none
  | _ :: stem =>
    some (String.ofList stem.reverse, String.ofList (reversed.takeWhile (· ≠ '.')).reverse)

def stem (name : String) : String := ((halves? name).map (·.1)).getD name

def extension? (name : String) : Option String := (halves? name).map (·.2)

end FileName

end Parley
