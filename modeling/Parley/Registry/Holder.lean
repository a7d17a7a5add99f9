import Parley.Assembly.Builder
import Parley.Model.Format

/-!
# Parley.Registry.Holder

Holders keep a flow definition ready. One over a file assembles the flow when it is first asked for
and, if it may, again whenever the file has another time of change than at the last success. What a
failed attempt leaves behind is what was there before.

A holder asks the disk up to three times in one lookup: has the file changed, when was it changed
before loading it, and what does it hold. The answers are given together as a `Probe`, so that a
file may well change between two of them.
-/

namespace Parley

/-- The time of a file's last change. -/
abbrev Stamp := Int

/-- What the disk answers about one file during one lookup. -/
structure Probe where
  /-- The time of change when asked whether the file has changed. -/
  checked : Option Stamp
  /-- The time of change right before loading. -/
  loaded : Option Stamp
  content : Except BuildError String

/-- The disk, by the paths of its files. -/
abbrev Disk := String → Probe

namespace Probe

/-- The reason given when there is no file. -/
def missing : BuildError := .unreadable "No such file or directory (os error 2)"

/-- The answers about a file that nobody changes meanwhile. -/
def ofFile : Option (Stamp × String) → Probe
  | some (stamp, content) => ⟨some stamp, some stamp, .ok content⟩
  | none => ⟨none, none, .error missing⟩

end Probe

/-- A flow as it came out of one assembly; the number tells it from all others. -/
structure Edition where
  flow : Flow
  number : Nat

structure FileHolder where
  path : String
  context : BuildContext
  refreshOnChange : Bool
  /-- The time of change of the file from which the kept edition was made. -/
  seen : Option Stamp
  kept : Option Edition

namespace FileHolder

def new (path : String) (context : BuildContext) (refreshOnChange : Bool) : FileHolder :=
  ⟨path, context, refreshOnChange, none, none⟩

/-- The flow that the file says. No attempt leaves anything behind in the builder, so it is new in
each of them. -/
def load (h : FileHolder) (p : Probe) : Except BuildError Flow :=
  assembleFlow (FlowSource.ofModel (FlowModel.ofFile h.path p.content)) h.context

def hasChanged (h : FileHolder) (p : Probe) : Bool :=
  match h.seen with
  | none => true
  | some seen =>
    match p.checked with
    | some now => now ≠ seen
    | none => false

/-- A new edition under the given number, kept if the file gives one. -/
def assemble (p : Probe) (number : Nat) (h : FileHolder) :
    Except LocateError Edition × FileHolder :=
  match h.load p with
  | .ok flow =>
    (.ok ⟨flow, number⟩, { h with kept := some ⟨flow, number⟩, seen := p.loaded <|> h.seen })
  | .error e => (.error (.assembly h.context.flowId e), h)

/-- The kept edition as long as it is good, else a new one. -/
def get (p : Probe) (number : Nat) (h : FileHolder) : Except LocateError Edition × FileHolder :=
  match h.kept with
  | some edition =>
    if h.refreshOnChange && h.hasChanged p then h.assemble p number else (.ok edition, h)
  | none => h.assemble p number

end FileHolder

inductive Holder where
  | fixed (edition : Edition)
  | file (holder : FileHolder)

namespace Holder

def get (disk : Disk) (number : Nat) : Holder → Except LocateError Edition × Holder
  | fixed edition => (.ok edition, fixed edition)
  | file h =>
    let (result, h) := h.get (disk h.path) number
    (result, file h)

/-- A new edition at once, where there is something to assemble. -/
def refresh (disk : Disk) (number : Nat) : Holder → Except LocateError Unit × Holder
  | fixed edition => (.ok (), fixed edition)
  | file h =>
    let (result, h) := h.assemble (disk h.path) number
    (result.map fun _ => (), file h)

end Holder

end Parley
