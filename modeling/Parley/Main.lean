import Parley.Console.Basic

/-!
# Parley.Main

The program. Everything it decides is in `Parley.Console`; here it reads files and lines, asks for
the time and for fresh ids, and writes.
-/

namespace Parley

namespace Console

def write (o : Output) : IO Unit := do
  let out ← IO.getStdout
  out.putStr o.out
  out.flush
  (← IO.getStderr).putStr o.err

/-- The file as it is now. Its content stands for the time of its last change. -/
def readFile (path : String) : IO Probe := do
  try
    let content ← IO.FS.readFile path
    return .ofFile (some (content.hash.toNat, content))
  catch _ => return .ofFile none

/-- The disk as it is now, as far as the paths go. -/
def readDisk (paths : List String) : IO Disk := do
  let files ← paths.mapM fun path => return (path, ← readFile path)
  return fun path => (List.lookup path files).getD (.ofFile none)

def paths (a : Arguments) : List String := a.config.getD Settings.defaultPath :: a.flows

def time : IO Time := return (← IO.monoNanosNow) / 1000

def freshId : IO ConversationId := do
  let bytes ← IO.getRandomBytes 16
  return bytes.foldl (fun id byte => id <<< 8 ||| BitVec.ofNat 128 byte.toNat) 0

/-- Hears lines until the dialogue is over. -/
partial def converse (a : Arguments) (d : Dialogue) : IO Unit := do
  match d.prompt? with
  | none => return
  | some prompt =>
    write ⟨prompt, ""⟩
    let line ← (← IO.getStdin).getLine
    if line.isEmpty then return
    let (next, output) := d.hear (← readDisk (paths a)) (← time) (← freshId) line
    write output
    match next with
    | none => return
    | some d => converse a d

def perform (a : Arguments) : IO Report := do
  let disk ← readDisk (paths a)
  match start disk (← time) (← freshId) a with
  | .error report => return report
  | .ok d =>
    write (Dialogue.shown d.result)
    converse a d
    return ⟨0, .empty⟩

end Console

end Parley

open Parley in
def main (words : List String) : IO UInt32 := do
  let report ← match Arguments.ofWords words with
    | .error detour => pure (.ofDetour detour)
    | .ok a => Console.perform a
  Console.write report.output
  return report.status.toUInt32
