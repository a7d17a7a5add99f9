import Parley.Document.Basic

/-!
# Parley.Toml.Table

Tables under construction. A table is opened by its own header, by a longer header that goes
through it, or by a dotted key; which of these it was decides what may still be added to it. No key
is ever given twice.
-/

namespace Parley

namespace Toml

/-- How a table came to be. -/
inductive Opening where
  /-- By a header of its own, or as the text's outermost table. -/
  | header
  /-- On the way of a longer header. -/
  | passing
  /-- By a dotted key. -/
  | dotted
deriving DecidableEq

inductive Entry where
  | value (document : Document)
  | table (opening : Opening) (entries : List (String × Entry))
  /-- An array of tables: those that are finished, last first, and the one that can still grow. -/
  | tables (finished : List Document) (entries : List (String × Entry))

abbrev Entries := List (String × Entry)

mutual

def Entry.toDocument : Entry → Document
  | .value d => d
  | .table _ entries => .fields (documents entries)
  | .tables finished entries => .list (finished.reverse ++ [.fields (documents entries)])

def documents : List (String × Entry) → List (Document × Document)
  | [] => []
  | (key, entry) :: rest => (.text key, entry.toDocument) :: documents rest

end

namespace Entries

/-- The entries with one of them changed, or added if there was none. -/
def update (key : String) (change : Option Entry → Option Entry) : Entries → Option Entries
  | [] => (change none).map fun entry => [(key, entry)]
  | (other, entry) :: rest =>
    if other = key then (change (some entry)).map fun changed => (key, changed) :: rest
    else (update key change rest).map ((other, entry) :: ·)

/-- A table changed inside an entry. Tables on the way of a header may be of any kind; a dotted key
goes through no table that has a header. Of an array of tables the last one is meant. -/
def inside (way : Opening) (change : Opening → Entries → Option Entries) :
    Option Entry → Option Entry
  | none => (change way []).map (.table way)
  | some (.value _) => none
  | some (.tables finished entries) => (change .header entries).map (.tables finished)
  | some (.table opening entries) =>
    if way = .dotted && opening = .header then none
    else (change opening entries).map (.table opening)

/-- A change of the table at the end of a path. -/
def below (way : Opening) (change : Opening → Entries → Option Entries) :
    List String → Opening → Entries → Option Entries
  | [], opening, entries => change opening entries
  | key :: path, _, entries => update key (inside way (below way change path)) entries

/-- A value under a new key. -/
def addValue (key : String) (d : Document) : Entries → Option Entries :=
  update key fun
    | none => some (.value d)
    | some _ => none

/-- A value under a key with dots. All tables on its way belong to dotted keys alone. -/
def addDotted (path : List String) (key : String) (d : Document) (entries : Entries) :
    Option Entries :=
  if path.isEmpty then addValue key d entries
  else
    let add (opening : Opening) (entries : Entries) : Option Entries :=
      if opening = .dotted then addValue key d entries else none
    below .dotted add path .header entries

/-- A table opened by its header: a new one, or one that longer headers went through. -/
def openTable (key : String) : Entries → Option Entries :=
  update key fun
    | none => some (.table .header [])
    | some (.table .passing entries) => some (.table .header entries)
    | some _ => none

/-- One more table of an array of tables. -/
def openItem (key : String) : Entries → Option Entries :=
  update key fun
    | none => some (.tables [] [])
    | some (.tables finished entries) => some (.tables (.fields (documents entries) :: finished) [])
    | some _ => none

end Entries

end Toml

end Parley
