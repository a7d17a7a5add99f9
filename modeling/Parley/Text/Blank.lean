/-!
# Parley.Text.Blank

White space, and cutting text at its edges and at a separator. The functions work on lists of
characters; those on strings are the same functions behind `String.toList`.
-/

namespace Parley.Text

/-- White space: the twenty-five characters with that Unicode property. -/
def isBlank (c : Char) : Bool :=
  let n := c.toNat
  (9 ≤ n && n ≤ 13) || n = 0x20 || n = 0x85 || n = 0xA0 || n = 0x1680 || (0x2000 ≤ n && n ≤ 0x200A)
    || n = 0x2028 || n = 0x2029 || n = 0x202F || n = 0x205F || n = 0x3000

/-- The text without the white space around it. -/
def trimChars (cs : List Char) : List Char :=
  ((cs.dropWhile isBlank).reverse.dropWhile isBlank).reverse

def trim (s : String) : String := String.ofList (trimChars s.toList)

/-- The parts between the separators: always one more than there are separators. -/
def splitChars (sep : Char) : List Char → List (List Char)
  | [] => [[]]
  | c :: cs =>
    if c = sep then [] :: splitChars sep cs
    else
      match splitChars sep cs with
      | [] => [[c]]
      | part :: parts => (c :: part) :: parts

def split (sep : Char) (s : String) : List String :=
  (splitChars sep s.toList).map String.ofList

/-- The parts between runs of white space. -/
def words (s : String) : List String :=
  let spaced := s.toList.map fun c => if isBlank c then ' ' else c
  ((splitChars ' ' spaced).filter (· ≠ [])).map String.ofList

/-- The lines of a text; what follows the last line end is a line unless it is empty. -/
def lines (s : String) : List String :=
  match (split '\n' s).reverse with
  | "" :: before => before.reverse
  | all => all.reverse

/-- The text with spaces after it up to a number of characters. -/
def padRight (width : Nat) (s : String) : String :=
  s ++ String.ofList (List.replicate (width - s.length) ' ')

/-- The parts with the separator between neighbours. -/
def join (sep : String) : List String → String
  | [] => ""
  | [part] => part
  | part :: parts => part ++ sep ++ join sep parts

/-- What stands before and after the first separator. -/
def splitOnce (sep : Char) (cs : List Char) : Option (List Char × List Char) :=
  match cs.dropWhile (· ≠ sep) with
  | [] => none
  | _ :: after => some (cs.takeWhile (· ≠ sep), after)

/-- What follows the given beginning, if the text has it. -/
def dropBeginning : List Char → List Char → Option (List Char)
  | [], cs => some cs
  | _ :: _, [] => none
  | p :: ps, c :: cs => if p = c then dropBeginning ps cs else none

/-- The pattern occurs in the text. -/
def occursIn (pattern : List Char) : List Char → Bool
  | [] => pattern.isEmpty
  | c :: cs => (dropBeginning pattern (c :: cs)).isSome || occursIn pattern cs

def contains (text pattern : String) : Bool := occursIn pattern.toList text.toList

/-- Letters A to Z in lower case, all other characters as they are. -/
def lower (s : String) : String := String.ofList (s.toList.map Char.toLower)

@[simp] theorem trimChars_nil : trimChars [] = [] := rfl

theorem splitChars_ne_nil (sep : Char) (cs : List Char) : splitChars sep cs ≠ [] := by
  cases cs with
  | nil => simp [splitChars]
  | cons c cs =>
    rw [splitChars]
    split
    · simp
    · split <;> simp

theorem splitChars_eq_splitOn {sep : Char} {cs : List Char} :
    splitChars sep cs = cs.splitOn sep := by
  induction cs with
  | nil => rfl
  | cons c cs ih =>
    rw [splitChars, List.splitOn_cons_eq_if_modifyHead, ← ih]
    by_cases here : c = sep
    · simp [here]
    · obtain ⟨part, parts, found⟩ := List.exists_cons_of_ne_nil (splitChars_ne_nil sep cs)
      simp [here, found]

/-- A text without separator is its only part. -/
theorem splitChars_of_not_mem {sep : Char} {cs : List Char} (h : sep ∉ cs) :
    splitChars sep cs = [cs] := by
  rw [splitChars_eq_splitOn, List.splitOn_eq_singleton h]

theorem splitChars_append {sep : Char} {cs : List Char} (free : sep ∉ cs) (ds : List Char) :
    splitChars sep (cs ++ sep :: ds) = cs :: splitChars sep ds := by
  rw [splitChars_eq_splitOn, List.splitOn_append_cons_self_of_not_mem free, splitChars_eq_splitOn]

theorem dropBeginning_eq_some_iff {pattern cs rest : List Char} :
    dropBeginning pattern cs = some rest ↔ pattern ++ rest = cs := by
  induction pattern generalizing cs with
  | nil => simp [dropBeginning, eq_comm]
  | cons p ps ih =>
    cases cs with
    | nil => simp [dropBeginning]
    | cons c cs =>
      rw [dropBeginning, List.cons_append, List.cons.injEq, ← ih]
      by_cases same : p = c <;> simp [same]

theorem dropBeginning_isSome_iff {pattern cs : List Char} :
    (dropBeginning pattern cs).isSome = true ↔ pattern <+: cs := by
  rw [Option.isSome_iff_exists]
  exact exists_congr fun _ => dropBeginning_eq_some_iff

theorem occursIn_iff {pattern cs : List Char} :
    occursIn pattern cs = true ↔ pattern <:+: cs := by
  induction cs with
  | nil => simp [occursIn]
  | cons c cs ih =>
    rw [occursIn, Bool.or_eq_true, dropBeginning_isSome_iff, ih, List.infix_cons_iff]

theorem contains_iff {text pattern : String} :
    contains text pattern = true ↔ pattern.toList <:+: text.toList := occursIn_iff

end Parley.Text
