import Parley.Console.Dialogue
import Parley.Console.Help

/-!
# Parley.Console.Basic

The program at the console: the flows of the command line are registered under their ids, then they
are checked or one of them is launched. What the program writes is a function of its words, the disk
and the lines that it hears.
-/

namespace Parley

inductive ConsoleError where
  | unreadable (path : String)
  | nameless (path : String)
  | locator (cause : LocateError)
  | executor (cause : ExecutorError)
deriving DecidableEq

namespace ConsoleError

def message : ConsoleError → String
  | unreadable path => "reading flow model " ++ path
  | nameless path => "no flow id for " ++ path
  | locator cause => cause.message
  | executor cause => cause.message

end ConsoleError

/-- What the program leaves behind: what it wrote, and a status that is zero if all went well. -/
structure Report where
  status : Nat
  output : Output
deriving DecidableEq

namespace Report

/-- The output before an error, and the error. -/
def failed (output : Output) (e : ConsoleError) : Report :=
  ⟨1, output ++ .complaint ("Error: " ++ e.message)⟩

def ofDetour : Detour → Report
  | .help topic => ⟨0, topic.help, ""⟩
  | .misuse => ⟨2, .empty⟩

end Report

namespace Console

/-- Every flow can use an action `log`, which succeeds. -/
def tools : Toolbox := .ofActions [("log", fun c => (.ok .success, c))]

/-- The settings at the named place or the default one. -/
def settings (disk : Disk) (a : Arguments) : Settings :=
  Settings.loadOrDefault (disk (a.config.getD Settings.defaultPath)).content.toOption

/-- The registry with one more file, under the id that its model or its name gives. -/
def registerFile (disk : Disk) (refreshOnChange : Bool) (registry : Registry) (path : String) :
    Except ConsoleError Registry :=
  match FlowModel.ofFile path (disk path).content with
  | .error _ => .error (.unreadable path)
  | .ok model =>
    match model.idOrStem? path with
    | none => .error (.nameless path)
    | some id => .ok (registry.registerFile id path tools refreshOnChange)

/-- A registry of the flows in files; of two with one id the later one counts. -/
def registry (disk : Disk) (refreshOnChange : Bool) (paths : List String) :
    Except ConsoleError Registry :=
  paths.foldlM (registerFile disk refreshOnChange) .empty

/-- When a transition applies and where it leads, as far as that is known. -/
def describeTransition (t : Transition) : String :=
  let target := match t.target with
    | none => "<none>"
    | some target => target.fixed?.getD "<dynamic>"
  t.criteria.text ++ " -> " ++ target

/-- A state with its kind and its own transitions, in columns. -/
def describeState (s : State) : String :=
  "  " ++ Text.padRight 16 s.id ++ " " ++ Text.padRight 9 s.kind.name ++ " "
    ++ Text.join ", " (s.transitions.map describeTransition)

def describeFlow (f : Flow) : Output :=
  let states := f.states.map fun s => describeState s ++ "\n"
  .line (f.id ++ " (start: " ++ f.startState ++ ")") ++ ⟨String.join states, ""⟩

/-- The flows with the ids in order, up to the first that cannot be had. -/
def check (directory : Directory) (written : Output) : List String → Report
  | [] => ⟨0, written⟩
  | id :: ids =>
    match directory id with
    | .error e => .failed written (.locator e)
    | .ok flow => check directory (written ++ describeFlow flow) ids

/-- The dialogue that the arguments ask for, or the report if there is none to be had. -/
def start (disk : Disk) (now : Time) (fresh : ConversationId) (a : Arguments) :
    Except Report Dialogue :=
  let settings := settings disk a
  match registry disk settings.refreshOnChange a.flows with
  | .error e => .error (.failed .empty e)
  | .ok registry =>
    match a.command with
    | .check => .error (check (Registry.directory disk [registry]) .empty registry.ids)
    | .run flow input =>
      let input := Utterance.attributes input
      (Dialogue.launch disk now fresh settings.store registry flow input).mapError fun e =>
        .failed .empty (.executor e)

/-- What the words ask for, while the lines are heard and the time and the disk stay as they are. -/
def run (disk : Disk) (now : Time) (fresh : ConversationId) (words lines : List String) : Report :=
  match Arguments.ofWords words with
  | .error detour => .ofDetour detour
  | .ok a =>
    match start disk now fresh a with
    | .error report => report
    | .ok d => ⟨0, Dialogue.shown d.result ++ d.transcript disk now fresh lines⟩

end Console

end Parley
