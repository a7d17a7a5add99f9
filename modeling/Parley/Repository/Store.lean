import Parley.Execution.Snapshot
import Parley.Repository.Lock
import Parley.Settings
import Parley.Table

/-!
# Parley.Repository.Store

The store of paused executions. A conversation is one execution over all of its requests: snapshots
from the oldest to the newest, and one conversation scope that they share. Snapshots are kept as
they were written, and read back when they are asked for.

Locks outlive their conversations, as somebody may still hold them. Every operation is told the time
and takes from the store only what belongs to the key, except that storing a new conversation first
makes room.
-/

namespace Parley

/-- A time in microseconds. -/
abbrev Time := Int

structure Conversation where
  flow : String
  /-- The snapshots by their numbers, oldest first. -/
  snapshots : List (BitVec 32 × Snapshot)
  /-- The number of the next snapshot. -/
  next : BitVec 32
  scope : Attributes
  createdAt : Time
  lastAccessed : Time

structure Store where
  settings : StoreSettings
  conversations : Table ConversationId Conversation
  locks : Table ConversationId Lock

namespace Conversation

/-- Unused for longer than the store keeps it. -/
def isExpired (settings : StoreSettings) (now : Time) (c : Conversation) : Bool :=
  match settings.expiry? with
  | none => false
  | some seconds => (seconds : Int) * 1000000 < now - c.lastAccessed

def snapshot? (number : BitVec 32) (c : Conversation) : Option Snapshot :=
  (c.snapshots.find? fun entry => entry.1 = number).map Prod.snd

/-- What a history policy leaves of the snapshots, after a request that resumed from one of them. -/
def pruned (history : History) (resumed : BitVec 32) (snapshots : List (BitVec 32 × Snapshot)) :
    List (BitVec 32 × Snapshot) :=
  match history with
  | .preserve => snapshots
  | .discard => snapshots.filter fun entry => entry.1 ≠ resumed
  | .invalidate => []

/-- The newest snapshots, as many as are kept; all of them if the limit is zero. -/
def newest (limit : Nat) (snapshots : List (BitVec 32 × Snapshot)) : List (BitVec 32 × Snapshot) :=
  if limit = 0 then snapshots else snapshots.drop (snapshots.length - limit)

/-- The conversation with the execution's snapshot after those that its history leaves. -/
def extend (settings : StoreSettings) (now : Time) (resumed : BitVec 32) (x : Execution)
    (c : Conversation) : Conversation :=
  { c with
    snapshots := newest settings.maxSnapshots
      (pruned x.history resumed c.snapshots ++ [(c.next, x.snapshot)])
    next := c.next + 1
    scope := x.conversation
    lastAccessed := now }

/-- A conversation with its first snapshot. -/
def begin (now : Time) (x : Execution) : Conversation where
  flow := x.flow.id
  snapshots := [(1, x.snapshot)]
  next := 2
  scope := x.conversation
  createdAt := now
  lastAccessed := now

end Conversation

/-- What a kept snapshot comes to: it is read back and restored, over the flows as they are now. -/
def Execution.revive (directory : Directory) (listeners : List Listener) (kept : Snapshot)
    (conversation : Attributes) (key : Key) : Except RepositoryError Execution :=
  match kept.readBack with
  | .error refusal => .error (.snapshot key refusal)
  | .ok snapshot =>
    match restore directory listeners snapshot conversation key with
    | .error e => .error (.flowDefinition e)
    | .ok x => .ok x

namespace Store

def empty (settings : StoreSettings) : Store := ⟨settings, [], []⟩

def conversation? (s : Store) (id : ConversationId) : Option Conversation := s.conversations.get? id

/-- The lock of a conversation, free if it was never taken. -/
def lock (s : Store) (id : ConversationId) : Lock := (s.locks.get? id).getD (.free id.text)

def isLocked (s : Store) (id : ConversationId) : Bool := (s.lock id).isLocked

/-- The store with a conversation as it is now. -/
def write (s : Store) (id : ConversationId) (c : Conversation) : Store :=
  { s with conversations := s.conversations.put id c }

/-- The store with a lock as it is now. -/
def setLock (s : Store) (id : ConversationId) (lock : Lock) : Store :=
  { s with locks := s.locks.put id lock }

def drop (s : Store) (id : ConversationId) : Store :=
  { s with conversations := s.conversations.erase id }

/-- The conversation of a key, if it has not expired; if it has, it is dropped. -/
def checkLive (now : Time) (key : Key) (s : Store) : Except RepositoryError Conversation × Store :=
  match s.conversation? key.conversation with
  | none => (.error (.noSuchFlowExecution key), s)
  | some c =>
    if c.isExpired s.settings now then (.error (.flowExecutionExpired key), s.drop key.conversation)
    else (.ok c, s)

/-- The lock of a live conversation. -/
def getLock (now : Time) (key : Key) (s : Store) : Except RepositoryError Lock × Store :=
  match s.checkLive now key with
  | (.error e, s) => (.error e, s)
  | (.ok _, s) => (.ok (s.lock key.conversation), s)

def acquire (id : ConversationId) (owner : String) (s : Store) :
    Except RepositoryError Unit × Store :=
  match (s.lock id).acquire owner with
  | .error e => (.error e, s)
  | .ok lock => (.ok (), s.setLock id lock)

def release (id : ConversationId) (owner : String) (s : Store) :
    Except RepositoryError Unit × Store :=
  match (s.lock id).release owner with
  | .error e => (.error e, s)
  | .ok lock => (.ok (), s.setLock id lock)

/-- The end of a guard. -/
def dropGuard (id : ConversationId) (owner : String) (s : Store) : Store := (s.release id owner).2

/-- The snapshot that is kept under a key and the conversation's scope. Finding it keeps the
conversation alive, whatever comes of it then. -/
def find (now : Time) (key : Key) (s : Store) :
    Except RepositoryError (Snapshot × Attributes) × Store :=
  match s.checkLive now key with
  | (.error e, s) => (.error e, s)
  | (.ok c, s) =>
    match c.snapshot? key.snapshot with
    | none => (.error (.noSuchFlowExecution key), s)
    | some snapshot =>
      (.ok (snapshot, c.scope), s.write key.conversation { c with lastAccessed := now })

/-- The execution of a key, over the flows as they are now. -/
def get (directory : Directory) (listeners : List Listener) (now : Time) (key : Key) (s : Store) :
    Except RepositoryError Execution × Store :=
  match s.find now key with
  | (.error e, s) => (.error e, s)
  | (.ok (snapshot, scope), s) => (Execution.revive directory listeners snapshot scope key, s)

/-- Expired conversations dropped, unless they are locked. -/
def purgeExpired (now : Time) (s : Store) : Store :=
  { s with conversations := s.conversations.filter fun entry =>
      s.isLocked entry.1 || !entry.2.isExpired s.settings now }

/-- The entry of the older conversation, the first one if they are of the same age. -/
def older (a b : ConversationId × Conversation) : ConversationId × Conversation :=
  if b.2.createdAt < a.2.createdAt then b else a

def oldest? : Table ConversationId Conversation → Option (ConversationId × Conversation)
  | [] => none
  | entry :: rest => some (rest.foldl older entry)

/-- The oldest of the conversations that are not locked. -/
def evictable? (s : Store) : Option ConversationId :=
  (oldest? (s.conversations.filter fun entry => !s.isLocked entry.1)).map Prod.fst

/-- Conversations dropped, the oldest first, as long as there are too many for one more. -/
def evict : Nat → Store → Store
  | 0, s => s
  | rounds + 1, s =>
    if s.settings.maxConversations = 0 ∨ s.conversations.length < s.settings.maxConversations then s
    else
      match s.evictable? with
      | none => s
      | some id => evict rounds (s.drop id)

/-- Room for one more conversation, if there can be. No round leaves as many as there were. -/
def makeRoom (now : Time) (s : Store) : Store :=
  let s := s.purgeExpired now
  evict s.conversations.length s

def insert (now : Time) (fresh : ConversationId) (x : Execution) (s : Store) : Store :=
  (s.write fresh (.begin now x)).setLock fresh (.free fresh.text)

/-- The execution stored, in its conversation or in a new one under the fresh id. -/
def put (now : Time) (fresh : ConversationId) (x : Execution) (s : Store) :
    Except RepositoryError Key × Store :=
  match x.key with
  | none => (.ok ⟨fresh, 1⟩, (s.makeRoom now).insert now fresh x)
  | some key =>
    match s.conversation? key.conversation with
    | none => (.error (.noSuchFlowExecution key), s)
    | some c =>
      (.ok ⟨key.conversation, c.next⟩,
        s.write key.conversation (c.extend s.settings now key.snapshot x))

/-- The execution's conversation dropped. One that was never stored has none. -/
def remove (x : Execution) (s : Store) : Except RepositoryError Unit × Store :=
  match x.key with
  | none => (.ok (), s)
  | some key =>
    match s.conversation? key.conversation with
    | none => (.error (.noSuchFlowExecution key), s)
    | some _ => (.ok (), s.drop key.conversation)

def size (s : Store) : Nat := s.conversations.length

section

variable {s : Store} {id other : ConversationId} {c : Conversation} {lock : Lock}

@[simp] theorem conversation?_write_self : (s.write id c).conversation? id = some c :=
  Table.get?_put_self id c s.conversations

theorem conversation?_write_of_ne (h : other ≠ id) :
    (s.write id c).conversation? other = s.conversation? other :=
  Table.get?_put_of_ne h c s.conversations

@[simp] theorem conversation?_setLock :
    (s.setLock id lock).conversation? other = s.conversation? other := rfl

@[simp] theorem conversation?_drop_self : (s.drop id).conversation? id = none :=
  Table.get?_erase_self id s.conversations

theorem conversation?_drop_of_ne (h : other ≠ id) :
    (s.drop id).conversation? other = s.conversation? other :=
  Table.get?_erase_of_ne h s.conversations

@[simp] theorem lock_write : (s.write id c).lock other = s.lock other := rfl

@[simp] theorem lock_drop : (s.drop id).lock other = s.lock other := rfl

@[simp] theorem lock_setLock_self : (s.setLock id lock).lock id = lock := by
  simp [Store.lock, setLock]

theorem lock_setLock_of_ne (h : other ≠ id) : (s.setLock id lock).lock other = s.lock other := by
  simp [Store.lock, setLock, Table.get?_put_of_ne h]

end

end Store

end Parley
