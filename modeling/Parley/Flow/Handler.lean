import Parley.Flow.Action

/-!
# Parley.Flow.Handler

Handlers decide which errors they accept and then either settle the matter or name a state to
enter. The handlers of a place are asked in order.
-/

namespace Parley

inductive Handling where
  | handled
  | enterState (state : String)

structure Handler where
  accepts : ExecutionError → Bool
  handle : ExecutionError → Context → Except ExecutionError Handling × Context
  /-- The state that the handler is known to enter. -/
  target : Option String

namespace Handler

/-- The error described for views: its most particular kind and its text. -/
def describe (e : ExecutionError) : Value :=
  .object [("kind", (e.kinds.head?.map Value.text).getD .null), ("message", .text e.message)]

/-- Enters a state for errors of certain kinds and leaves their description in flash scope. -/
def transition (patterns : List String) (state : String) : Handler where
  accepts e := patterns.any fun pattern => e.kinds.any (kindMatches pattern)
  handle e c :=
    (.ok (.enterState state),
      c.updateScope .flash fun flash =>
        (flash.put "flowExecutionException" (describe e)).put "rootCauseException"
          (.text e.rootCause))
  target := some state

def find? (handlers : List Handler) (e : ExecutionError) : Option Handler :=
  handlers.find? fun h => h.accepts e

end Handler

end Parley
