import Parley.Fault

/-!
# Parley.Assembly.Phase

The phases of building a flow and their one order. `Phase.advance` lets a phase begin only when the
one before it was the last to begin.
-/

namespace Parley

inductive Phase where
  | start
  | vars
  | inputMapper
  | startActions
  | states
  | globalTransitions
  | endActions
  | outputMapper
  | exceptionHandlers
  | getFlow
deriving DecidableEq

namespace Phase

def name : Phase → String
  | start => "init"
  | vars => "build_variables"
  | inputMapper => "build_input_mapper"
  | startActions => "build_start_actions"
  | states => "build_states"
  | globalTransitions => "build_global_transitions"
  | endActions => "build_end_actions"
  | outputMapper => "build_output_mapper"
  | exceptionHandlers => "build_exception_handlers"
  | getFlow => "get_flow"

/-- The phases that fill a flow, in order. -/
def filling : List Phase :=
  [vars, inputMapper, startActions, states, globalTransitions, endActions, outputMapper,
    exceptionHandlers]

/-- All phases, in order. -/
def all : List Phase := start :: (filling ++ [getFlow])

def ofName? (name : String) : Option Phase := all.find? fun p => p.name = name

def next : Phase → Option Phase
  | start => some vars
  | vars => some inputMapper
  | inputMapper => some startActions
  | startActions => some states
  | states => some globalTransitions
  | globalTransitions => some endActions
  | endActions => some outputMapper
  | outputMapper => some exceptionHandlers
  | exceptionHandlers => some getFlow
  | getFlow => none

/-- The phase that may begin after the given last one; after all of them, none may. -/
def expected : Option Phase → Option Phase
  | none => some start
  | some last => last.next

/-- The last phase once this one has begun. -/
def advance (last : Option Phase) (phase : Phase) : Except BuildError (Option Phase) :=
  if expected last = some phase then .ok (some phase)
  else .error (.phaseOrder (((expected last).map name).getD "dispose") phase.name)

end Phase

end Parley
