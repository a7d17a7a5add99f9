import Parley.Text.Blank

/-!
# Parley.Console.Arguments

The command line: which flows to read, which settings to use, and what to do. Words are read from
left to right; the first one that does not fit is a misuse, and a request for help ends the reading.

The value of an option is the rest of its word or the next word. After `--` nothing is an option.
-/

namespace Parley

inductive Command where
  /-- Lists the states of every flow. -/
  | check
  /-- Launches a flow and resumes it with events. -/
  | run (flow : String) (input : List (String × String))
deriving DecidableEq

structure Arguments where
  flows : List String
  config : Option String
  command : Command
deriving DecidableEq

/-- What a command line is about. -/
inductive Topic where
  | program
  | check
  | run
deriving DecidableEq

/-- Why a command line asks for nothing to be done. -/
inductive Detour where
  | help (topic : Topic)
  | misuse
deriving DecidableEq

namespace Arguments

/-- A name and its value on both sides of the first `=`, without white space around them. -/
def pair? (s : String) : Option (String × String) :=
  match Text.splitOnce '=' s.toList with
  | none => none
  | some (name, value) =>
    match Text.trimChars name with
    | [] => none
    | c :: cs => some (String.ofList (c :: cs), String.ofList (Text.trimChars value))

/-- The form of a word. -/
inductive Word where
  | escape
  | long (name : String) (attached : Option String)
  | short (letter : Char) (attached : Option String)
  | plain (text : String)

namespace Word

/-- What is attached to a short option, with or without `=` in front. -/
def attachment : List Char → Option String
  | [] => none
  | '=' :: cs => some (String.ofList cs)
  | cs => some (String.ofList cs)

def ofString (s : String) : Word :=
  match s.toList with
  | ['-', '-'] => escape
  | '-' :: '-' :: cs =>
    match Text.splitOnce '=' cs with
    | some (name, value) => long (String.ofList name) (some (String.ofList value))
    | none => long (String.ofList cs) none
  | '-' :: c :: cs => short c (attachment cs)
  | _ => plain s

end Word

/-- The options that have a value. -/
inductive Setting where
  | flow
  | config
  | input

/-- What has been read. -/
structure Progress where
  topic : Topic
  /-- The last command asked for help. -/
  helping : Bool
  /-- The option whose value is the next word. -/
  pending : Option Setting
  /-- No more options follow. -/
  escaped : Bool
  flows : List String
  config : Option String
  flow : Option String
  input : List (String × String)

namespace Progress

def start : Progress where
  topic := .program
  helping := false
  pending := none
  escaped := false
  flows := []
  config := none
  flow := none
  input := []

/-- The value of an option. The settings can be named once. -/
def take (p : Progress) (setting : Setting) (value : String) : Except Detour Progress :=
  match setting with
  | .flow =>
    if value.isEmpty then .error .misuse
    else .ok { p with pending := none, flows := p.flows ++ [value] }
  | .config =>
    if value.isEmpty || p.config.isSome then .error .misuse
    else .ok { p with pending := none, config := some value }
  | .input =>
    match pair? value with
    | none => .error .misuse
    | some entry => .ok { p with pending := none, input := p.input ++ [entry] }

/-- An option with the value that is attached to it, or else the next word. -/
def option (p : Progress) (setting : Setting) : Option String → Except Detour Progress
  | some value => p.take setting value
  | none => .ok { p with pending := some setting }

/-- A word that is neither an option nor the value of one. -/
def plain (p : Progress) (text : String) : Except Detour Progress :=
  match p.topic with
  | .program =>
    if p.escaped then .error .misuse
    else
      match text with
      | "check" => .ok { p with topic := .check }
      | "run" => .ok { p with topic := .run }
      | "help" => if p.helping then .error .misuse else .ok { p with helping := true }
      | _ => .error .misuse
  | .check => .error .misuse
  | .run =>
    if p.helping then .error .misuse
    else
      match p.flow with
      | none => .ok { p with flow := some text }
      | some _ => .error .misuse

def long (p : Progress) (name : String) (attached : Option String) : Except Detour Progress :=
  match p.topic, name with
  | .program, "flow" => p.option .flow attached
  | .program, "config" => p.option .config attached
  | .run, "input" => p.option .input attached
  | topic, "help" => if attached.isSome then .error .misuse else .error (.help topic)
  | _, _ => .error .misuse

def short (p : Progress) (letter : Char) (attached : Option String) : Except Detour Progress :=
  match p.topic, letter with
  | .program, 'f' => p.option .flow attached
  | topic, 'h' => .error (.help topic)
  | _, _ => .error .misuse

def word (p : Progress) (s : String) : Except Detour Progress :=
  if p.escaped then p.plain s
  else
    match Word.ofString s, p.pending with
    | .plain text, some setting => p.take setting text
    | _, some _ => .error .misuse
    | .plain text, none => p.plain text
    | w, none =>
      if p.helping then .error .misuse
      else
        match w with
        | .long name attached => p.long name attached
        | .short letter attached => p.short letter attached
        | _ => .ok { p with escaped := true }

/-- The command that the words make up, if none is missing. -/
def command (p : Progress) : Except Detour Command :=
  match p.topic, p.flow with
  | .check, _ => .ok .check
  | .run, some flow => .ok (.run flow p.input)
  | _, _ => .error .misuse

def finish (p : Progress) : Except Detour Arguments :=
  if p.helping then .error (.help p.topic)
  else if p.pending.isSome || p.flows.isEmpty then .error .misuse
  else p.command.map fun command => ⟨p.flows, p.config, command⟩

end Progress

def ofWords (words : List String) : Except Detour Arguments :=
  match words.foldlM Progress.word .start with
  | .error detour => .error detour
  | .ok p => p.finish

end Arguments

end Parley
