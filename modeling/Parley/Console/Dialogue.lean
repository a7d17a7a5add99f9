import Parley.Console.Arguments
import Parley.Executor
import Parley.Registry.Basic

/-!
# Parley.Console.Dialogue

A dialogue with one execution: it is launched, and each line is an event on which it resumes, until
it has ended or somebody leaves. A request that fails leaves the dialogue where it was.
-/

namespace Parley

/-- What is written, for the user and about failures. -/
structure Output where
  out : String
  err : String
deriving DecidableEq

namespace Output

def empty : Output := ⟨"", ""⟩

def line (s : String) : Output := ⟨s ++ "\n", ""⟩

def complaint (s : String) : Output := ⟨"", s ++ "\n"⟩

instance : Append Output := ⟨fun a b => ⟨a.out ++ b.out, a.err ++ b.err⟩⟩

end Output

/-- What a line asks for. -/
inductive Utterance where
  | quit
  | event (event : Option Event) (parameters : Attributes)

namespace Utterance

/-- JSON means what it says; all other text is itself. -/
def value (s : String) : Value :=
  ((Json.read s).bind (Document.toValue? .json)).getD (.text s)

/-- The attributes that pairs of names and texts say; of repeated names the last one counts. -/
def attributes (pairs : List (String × String)) : Attributes :=
  pairs.foldl (fun a entry => a.put entry.1 (value entry.2)) .empty

/-- The first word is the event, words with `=` are its attributes and the parameters of the
request, and all other words mean nothing. -/
def ofLine (s : String) : Utterance :=
  if Text.trim s = "quit" then quit
  else
    match Text.words s with
    | [] => event none .empty
    | id :: rest =>
      let given := attributes (rest.filterMap Arguments.pair?)
      event (some ⟨id, given⟩) given

end Utterance

/-- An execution that somebody talks to. -/
structure Dialogue where
  registry : Registry
  store : Store
  /-- What the last request came to. -/
  result : ExecutionResult

namespace Dialogue

/-- The output that shows a result. -/
def shown (r : ExecutionResult) : Output := .line r.toOutline.indented

def executor (disk : Disk) (registry : Registry) : Executor :=
  ⟨Registry.directory disk [registry], []⟩

/-- A request of its own has an id of its own. -/
def external (fresh : ConversationId) (parameters : Attributes) : External :=
  ⟨fresh.text, parameters⟩

/-- The dialogue that begins with a flow. -/
def launch (disk : Disk) (now : Time) (fresh : ConversationId) (settings : StoreSettings)
    (registry : Registry) (flow : String) (input : Attributes) : Except ExecutorError Dialogue :=
  let registry := registry.settle disk
  let reply := (executor disk registry).launch now fresh flow input (external fresh .empty)
    (.empty settings)
  reply.result.map fun result => ⟨registry, reply.store, result⟩

/-- The words that ask for a line, as long as the execution waits for one. -/
def prompt? (d : Dialogue) : Option String := d.result.state?.map (· ++ "> ")

/-- The dialogue after an event, if it goes on. -/
def resume (disk : Disk) (now : Time) (fresh : ConversationId) (key : Key) (event : Option Event)
    (parameters : Attributes) (d : Dialogue) : Option Dialogue × Output :=
  let registry := d.registry.settle disk
  let external := external fresh parameters
  let reply := (executor disk registry).resumeKey now fresh key event external d.store
  match reply.result with
  | .ok result => (some ⟨registry, reply.store, result⟩, shown result)
  | .error e =>
    if e.isNoSuchExecution then (none, .complaint (e.message ++ "; launch the flow again"))
    else (some ⟨registry, reply.store, d.result⟩, .complaint ("request failed: " ++ e.message))

/-- The dialogue after a line, if it goes on. -/
def hear (disk : Disk) (now : Time) (fresh : ConversationId) (line : String) (d : Dialogue) :
    Option Dialogue × Output :=
  match d.result.key?, Utterance.ofLine line with
  | some key, .event event parameters => d.resume disk now fresh key event parameters
  | _, _ => (none, .empty)

/-- All that is written while the lines are heard. The time and the disk stay as they are. -/
def transcript (disk : Disk) (now : Time) (fresh : ConversationId) : List String → Dialogue → Output
  | [], d => ⟨d.prompt?.getD "", ""⟩
  | line :: lines, d =>
    match d.prompt? with
    | none => .empty
    | some prompt =>
      match d.hear disk now fresh line with
      | (none, output) => ⟨prompt, ""⟩ ++ output
      | (some d, output) => ⟨prompt, ""⟩ ++ output ++ d.transcript disk now fresh lines

end Dialogue

end Parley
