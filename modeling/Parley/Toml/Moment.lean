import Parley.Toml.Scalar

/-!
# Parley.Toml.Moment

Dates, times, and dates with times in TOML text, and their one written form: a capital `T` between
date and time, seconds always, no zeros at the end of a fraction, and a capital `Z` for no offset.

A document says a moment as a record whose one field holds its text.
-/

namespace Parley

namespace Toml

/-- A number of exactly so many digits at the front of the text. -/
def takeNumber (width : Nat) (cs : List Char) : Option (Nat × List Char) :=
  let digits := cs.takeWhile Char.isDigit
  if digits.length = width then some (Number.ofDigits digits, cs.dropWhile Char.isDigit) else none

def takeChar (allowed : List Char) : List Char → Option (List Char)
  | c :: cs => if c ∈ allowed then some cs else none
  | [] => none

def isLeapYear (year : Nat) : Bool := year % 4 = 0 && (year % 100 ≠ 0 || year % 400 = 0)

def daysIn (year month : Nat) : Nat :=
  if month = 2 then if isLeapYear year then 29 else 28
  else if month = 4 ∨ month = 6 ∨ month = 9 ∨ month = 11 then 30
  else 31

/-- A number in at least so many digits. -/
def padded (width n : Nat) : String :=
  let digits := Nat.toDigits 10 n
  String.ofList (List.replicate (width - digits.length) '0' ++ digits)

/-- A date at the front of the text, in its written form. -/
def readDate (cs : List Char) : Option (String × List Char) := do
  let (year, cs) ← takeNumber 4 cs
  let (month, cs) ← (takeChar ['-'] cs).bind (takeNumber 2)
  let (day, cs) ← (takeChar ['-'] cs).bind (takeNumber 2)
  if 1 ≤ month ∧ month ≤ 12 ∧ 1 ≤ day ∧ day ≤ daysIn year month then
    some (padded 4 year ++ "-" ++ padded 2 month ++ "-" ++ padded 2 day, cs)
  else none

/-- The digits of a fraction down to a billionth, without zeros at the end, behind a point. -/
def fraction (digits : List Char) : String :=
  match ((digits.take 9).reverse.dropWhile (· = '0')).reverse with
  | [] => ""
  | digits => "." ++ String.ofList digits

/-- Seconds with a fraction, if they stand at the front of the text. -/
def readSeconds (cs : List Char) : Option (String × List Char) :=
  match cs with
  | ':' :: cs =>
    match takeNumber 2 cs with
    | some (second, cs) =>
      if 60 < second then none
      else
        match cs with
        | '.' :: tail =>
          let digits := tail.takeWhile Char.isDigit
          if digits.isEmpty then none
          else some (padded 2 second ++ fraction digits, tail.dropWhile Char.isDigit)
        | cs => some (padded 2 second, cs)
    | none => none
  | cs => some ("00", cs)

/-- A time at the front of the text, in its written form. -/
def readTime (cs : List Char) : Option (String × List Char) := do
  let (hour, cs) ← takeNumber 2 cs
  let (minute, cs) ← (takeChar [':'] cs).bind (takeNumber 2)
  let (seconds, cs) ← readSeconds cs
  if hour ≤ 23 ∧ minute ≤ 59 then
    some (padded 2 hour ++ ":" ++ padded 2 minute ++ ":" ++ seconds, cs)
  else none

/-- The offset behind a time, if there is one. An offset of nothing has a plus sign. -/
def readOffset (cs : List Char) : Option String :=
  match cs with
  | [] => some ""
  | ['Z'] => some "Z"
  | ['z'] => some "Z"
  | sign :: cs => do
    let (hours, cs) ← takeNumber 2 cs
    let (minutes, cs) ← (takeChar [':'] cs).bind (takeNumber 2)
    if sign ∉ ['+', '-'] ∨ 23 < hours ∨ 59 < minutes ∨ !cs.isEmpty then none
    else
      let shown := if sign = '-' ∧ 0 < hours + minutes then "-" else "+"
      some (shown ++ padded 2 hours ++ ":" ++ padded 2 minutes)

/-- The written form of a moment. -/
def moment? (cs : List Char) : Option String :=
  match readDate cs with
  | some (date, []) => some date
  | some (date, rest) => do
    let (time, rest) ← (takeChar ['T', 't', ' '] rest).bind readTime
    let offset ← readOffset rest
    some (date ++ "T" ++ time ++ offset)
  | none =>
    match readTime cs with
    | some (time, []) => some time
    | _ => none

/-- The field that holds the text of a moment. -/
def momentField : String := "$__toml_private_datetime"

def ofMoment (text : String) : Document := .fields [(.text momentField, .text text)]

/-- How much of a text is a moment that may hold one space between date and time. -/
def momentLength (word : List Char → Nat) (cs : List Char) : Nat :=
  let size := word cs
  match readDate (cs.take size), cs.drop size with
  | some (_, []), ' ' :: c :: rest => if c.isDigit then size + 1 + word (c :: rest) else size
  | _, _ => size

end Toml

end Parley
