import Parley.Document.Record
import Parley.Toml.Reading
import Parley.Value.Outline

/-!
# Parley.Settings

Settings: limits and times of the conversation store, reloading of definitions, and what is logged.
Each section and each setting has a default; a file that cannot be used as a whole counts for
nothing.
-/

namespace Parley

/-- The settings of the conversation store. Nothing is limited by a limit of zero. -/
structure StoreSettings where
  maxConversations : Nat
  maxSnapshots : Nat
  /-- How long to wait for a lock, in milliseconds. -/
  lockTimeout : Nat
  /-- After how many idle seconds a conversation expires; never, if zero. -/
  conversationTimeout : Nat
deriving DecidableEq

namespace StoreSettings

def default : StoreSettings := ⟨0, 30, 30000, 1800⟩

/-- The idle time that a conversation survives, in seconds, if there is a limit. -/
def expiry? (s : StoreSettings) : Option Nat :=
  if 0 < s.conversationTimeout then some s.conversationTimeout else none

end StoreSettings

structure Settings where
  store : StoreSettings
  refreshOnChange : Bool
  logFilter : String
deriving DecidableEq

inductive SettingsError where
  | unreadable
  | malformed
deriving DecidableEq

namespace Settings

def default : Settings := ⟨.default, true, "info"⟩

/-- Where settings are looked for when no other place is named. -/
def defaultPath : String := "config/sluice.toml"

def natural? : Document → Option Nat
  | .scalar (.number (.int i)) _ => if 0 ≤ i ∧ i < 0x10000000000000000 then some i.toNat else none
  | _ => none

def readStore (d : Document) : Option StoreSettings :=
  let names :=
    ["max_conversations", "max_snapshots", "lock_timeout_ms", "conversation_timeout_secs"]
  (Record.ofDocument .toml names d).bind fun r => do
    let maxConversations ←
      r.orElse "max_conversations" StoreSettings.default.maxConversations natural?
    let maxSnapshots ← r.orElse "max_snapshots" StoreSettings.default.maxSnapshots natural?
    let lockTimeout ← r.orElse "lock_timeout_ms" StoreSettings.default.lockTimeout natural?
    let conversationTimeout ←
      r.orElse "conversation_timeout_secs" StoreSettings.default.conversationTimeout natural?
    return ⟨maxConversations, maxSnapshots, lockTimeout, conversationTimeout⟩

def readRefresh (d : Document) : Option Bool :=
  (Record.ofDocument .toml ["refresh_on_change"] d).bind fun r =>
    r.orElse "refresh_on_change" default.refreshOnChange (Document.bool? .toml)

def readFilter (d : Document) : Option String :=
  (Record.ofDocument .toml ["filter"] d).bind fun r =>
    r.orElse "filter" default.logFilter (Document.string? .toml)

def ofDocument (d : Document) : Option Settings :=
  (Record.ofDocument .toml ["repository", "registry", "logging"] d).bind fun r => do
    let store ← r.orElse "repository" default.store readStore
    let refreshOnChange ← r.orElse "registry" default.refreshOnChange readRefresh
    let logFilter ← r.orElse "logging" default.logFilter readFilter
    return ⟨store, refreshOnChange, logFilter⟩

/-- The settings as they are written down. -/
def toOutline (s : Settings) : Outline :=
  .fields [
    ("repository", .fields [
      ("max_conversations", .number (.int s.store.maxConversations)),
      ("max_snapshots", .number (.int s.store.maxSnapshots)),
      ("lock_timeout_ms", .number (.int s.store.lockTimeout)),
      ("conversation_timeout_secs", .number (.int s.store.conversationTimeout))]),
    ("registry", .fields [("refresh_on_change", .bool s.refreshOnChange)]),
    ("logging", .fields [("filter", .text s.logFilter)])]

/-- The settings in a file, of which there may be none. -/
def load : Option String → Except SettingsError Settings
  | none => .error .unreadable
  | some source =>
    match (Toml.read source).bind ofDocument with
    | some settings => .ok settings
    | none => .error .malformed

def loadOrDefault (file : Option String) : Settings :=
  match load file with
  | .ok settings => settings
  | .error _ => default

end Settings

end Parley
