import Parley.Document.Manner
import Parley.Number.Radix

/-!
# Parley.Repository.Key

Keys of stored executions: the conversation, and one of its snapshots. The written form is `e`, 32
hexadecimal digits in lower case, `s` and the decimal digits of the snapshot; in a document a key is
a text of this form.
-/

namespace Parley

abbrev ConversationId := BitVec 128

structure Key where
  conversation : ConversationId
  snapshot : BitVec 32
deriving DecidableEq

namespace ConversationId

def digits : Nat := 32

/-- The conversation's number with all of its digits. -/
def text (c : ConversationId) : String :=
  let shown := Nat.toDigits 16 c.toNat
  String.ofList (List.replicate (digits - shown.length) '0' ++ shown)

def isDigit (c : Char) : Bool := c.isDigit || ('a' ≤ c && c ≤ 'f')

/-- Exactly the digits of a conversation in front, and what follows. -/
def read (cs : List Char) : Option (ConversationId × List Char) :=
  let front := cs.take digits
  if front.length = digits && front.all isDigit then
    (Number.readRadix 16 front).map fun n => (BitVec.ofNat 128 n, cs.drop digits)
  else none

end ConversationId

/-- Why a text is no key. -/
inductive KeyFault where
  | form
  | range
deriving DecidableEq

namespace KeyFault

def message : KeyFault → String
  | form => "expected the form e<conversation>s<snapshot>"
  | range => "snapshot id out of range"

end KeyFault

namespace Key

def text (k : Key) : String :=
  "e" ++ k.conversation.text ++ "s" ++ String.ofList (Nat.toDigits 10 k.snapshot.toNat)

/-- The snapshot that digits name. -/
def readSnapshot (cs : List Char) : Except KeyFault (BitVec 32) :=
  if Number.areDigits cs then
    let n := Number.ofDigits cs
    if n < 0x100000000 then .ok (BitVec.ofNat 32 n) else .error .range
  else .error .form

def read (cs : List Char) : Except KeyFault Key :=
  match cs with
  | 'e' :: cs =>
    match ConversationId.read cs with
    | some (conversation, 's' :: cs) =>
      (readSnapshot cs).map fun snapshot => ⟨conversation, snapshot⟩
    | _ => .error .form
  | _ => .error .form

def ofText (s : String) : Except KeyFault Key := read s.toList

def toValue (k : Key) : Value := .text k.text

def ofDocument (m : Manner) (d : Document) : Option Key :=
  (d.string? m).bind fun s => (ofText s).toOption

end Key

end Parley
