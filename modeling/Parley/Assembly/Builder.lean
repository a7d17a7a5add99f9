import Parley.Assembly.FromModel

/-!
# Parley.Assembly.Builder

Builders keep to the order of the phases, and an assembler drives a builder through all of them.

A phase counts as begun when it was its turn, also when it fails. `assemble` disposes of what was
built whether it succeeds or not, so that the builder is as good as new.
-/

namespace Parley

/-- Anything that builds flows by phases. -/
class FlowBuilder (β : Type) where
  /-- Begin a flow. -/
  start : BuildContext → β → Except BuildError Unit × β
  /-- One of the phases that fill the flow. -/
  fill : Phase → β → Except BuildError Unit × β
  /-- Hand over the flow. -/
  getFlow : β → Except BuildError Flow × β
  /-- Forget the flow under construction. -/
  dispose : β → β
  /-- Learn that a flow was handed over whole. -/
  assembled : β → β
  /-- What the flow is built from is no longer what it was. -/
  hasChanged : β → Bool

/-- What a builder builds from: a program, and the attributes of the flow. -/
abbrev FlowSource := BuildContext → Except BuildError (Program × Attributes)

namespace FlowSource

/-- A model, or the reason why there is none. Its attributes come on top of the surroundings'. -/
def ofModel (delivered : Except BuildError FlowModel) : FlowSource := fun context =>
  match delivered with
  | .error e => .error e
  | .ok m => .ok (FromModel.program m, context.attributes.extend m.attributes)

def ofProgram (program : Program) : FlowSource := fun context => .ok (program, context.attributes)

end FlowSource

structure Builder where
  source : FlowSource
  /-- The last phase that began. -/
  last : Option Phase
  work : Option (Program × Draft)

namespace Builder

def new (source : FlowSource) : Builder := ⟨source, none, none⟩

def start (context : BuildContext) (b : Builder) : Except BuildError Unit × Builder :=
  match Phase.advance b.last .start with
  | .error e => (.error e, b)
  | .ok last =>
    match b.source context with
    | .error e => (.error e, { b with last := last })
    | .ok (program, attributes) =>
      (.ok (), { b with last := last, work := some (program, Draft.blank context attributes) })

def fill (phase : Phase) (b : Builder) : Except BuildError Unit × Builder :=
  match Phase.advance b.last phase with
  | .error e => (.error e, b)
  | .ok last =>
    match b.work with
    | none => (.error (.notInitialized phase.name), { b with last := last })
    | some (program, draft) =>
      let (result, draft) := program phase draft
      (result, { b with last := last, work := some (program, draft) })

def getFlow (b : Builder) : Except BuildError Flow × Builder :=
  match Phase.advance b.last .getFlow with
  | .error e => (.error e, b)
  | .ok last =>
    match b.work with
    | none => (.error (.notInitialized Phase.getFlow.name), { b with last := last })
    | some (_, draft) =>
      match draft.flow.validate with
      | .error e => (.error e, { b with last := last, work := none })
      | .ok () => (.ok draft.flow, { b with last := last, work := none })

def dispose (b : Builder) : Builder := { b with last := none, work := none }

instance : FlowBuilder Builder where
  start := start
  fill := fill
  getFlow := getFlow
  dispose := dispose
  assembled b := b
  hasChanged _ := false

end Builder

namespace FlowBuilder

variable {β : Type} [FlowBuilder β]

/-- The phases in order, up to the first that fails. -/
def fillAll : List Phase → β → Except BuildError Unit × β
  | [], b => (.ok (), b)
  | phase :: rest, b =>
    match fill phase b with
    | (.error e, b) => (.error e, b)
    | (.ok (), b) => fillAll rest b

def direct (context : BuildContext) (b : β) : Except BuildError Flow × β :=
  match start context b with
  | (.error e, b) => (.error e, b)
  | (.ok (), b) =>
    match fillAll Phase.filling b with
    | (.error e, b) => (.error e, b)
    | (.ok (), b) => getFlow b

/-- A flow through all phases, and the builder ready for the next one. -/
def assemble (context : BuildContext) (b : β) : Except BuildError Flow × β :=
  match direct context b with
  | (.error e, b) => (.error e, dispose b)
  | (.ok flow, b) => (.ok flow, dispose (assembled b))

end FlowBuilder

/-- The flow that a source makes in the given surroundings. -/
def assembleFlow (source : FlowSource) (context : BuildContext) : Except BuildError Flow :=
  (FlowBuilder.assemble context (Builder.new source)).1

end Parley
