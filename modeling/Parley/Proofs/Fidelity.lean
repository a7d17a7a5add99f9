import Mathlib.Data.List.Nodup
import Parley.Proofs.Phases

/-!
# Parley.Proofs.Fidelity

A flow is what its model says: part by part and in the order of the model, each relation here tells
what one part of a model may become, and assembly makes nothing else of it. What the model names and
does not have stops the assembly.

* `TransitionModel.Becomes`, `StateKindModel.Becomes`, `StateModel.Becomes`, `FlowModel.Becomes`:
  the parts and the whole.
* `FromModel.complete_becomes`: so it is once all phases are through.
* `FlowModel.Broken`: the models that nothing can come of. `FlowModel.Becomes.not_broken`: nothing
  closed did.
* `assembled_faithful`: both, for what is assembled.
-/

namespace Parley

/-! ## What the parts of a model become -/

/-- The beginning of a hole occurs in the text. -/
def HasHole (text : String) : Prop := "$\x7b".toList <:+: text.toList

inductive Criteria.ReadFrom : Option String → Criteria → Prop where
  | always : ReadFrom none .always
  | anyEvent : ReadFrom (some "*") .anyEvent
  | condition {on : String} {e : Expression} (hole : HasHole on)
      (read : Expression.ofBare on = .ok e) : ReadFrom (some on) (.condition e)
  | event {on : String} (plain : ¬ HasHole on) (particular : on ≠ "*") :
      ReadFrom (some on) (.event on)

inductive Target.ReadFrom : Option String → Option Target → Prop where
  | stay : ReadFrom none none
  | computed {destination : String} {e : Expression} (hole : HasHole destination)
      (read : Expression.ofTemplate destination = .ok e) :
      ReadFrom (some destination) (some (.computed e))
  | fixed {destination : String} (plain : ¬ HasHole destination) :
      ReadFrom (some destination) (some (.fixed destination))

structure TransitionModel.Becomes (m : TransitionModel) (t : Transition) : Prop where
  criteria : Criteria.ReadFrom m.on t.criteria
  target : Target.ReadFrom m.destination t.target
  guards : t.guards.length = m.actions.length
  history : t.history = m.history.getD .preserve
  attributes : t.attributes = m.attributes

structure BranchModel.Becomes (m : BranchModel) (t : Transition) : Prop where
  criteria : ∃ test, Expression.ofBare m.test = .ok test ∧ t.criteria = .condition test
  target : Target.ReadFrom (some m.thenTo) t.target
  guards : t.guards = []
  history : t.history = .preserve

/-- An else is taken always and does nothing but lead to its state. -/
def BranchModel.closing (m : BranchModel) : Option TransitionModel :=
  m.elseTo.map fun destination => ⟨none, none, some destination, [], none, .empty⟩

/-- The transition models that do not depend on an exception, in order. -/
def TransitionModel.ordinary (models : List TransitionModel) : List TransitionModel :=
  models.filter fun m => m.onException.isNone

inductive StateKindModel.Becomes : StateKindModel → StateKind → Prop where
  | view {view : Option String} {redirect popup : Bool} {vars : List VariableModel}
      {onRender : List ActionModel} {models : List TransitionModel} {part : ViewPart}
      {transitions : List Transition}
      (renders : part.renderActions.length = onRender.length)
      (names : part.vars.map (·.name) = vars.map (·.name))
      (redirects : part.redirect = redirect) (pops : part.popup = popup)
      (leads : List.Forall₂ TransitionModel.Becomes (TransitionModel.ordinary models) transitions) :
      Becomes (.view view redirect popup vars onRender models) (.view part transitions)
  | action {models : List ActionModel} {transitionModels : List TransitionModel}
      {actions : List Action} {transitions : List Transition}
      (acts : actions.length = models.length)
      (leads : List.Forall₂ TransitionModel.Becomes (TransitionModel.ordinary transitionModels)
        transitions) :
      Becomes (.action models transitionModels) (.action actions transitions)
  | decision {branches : List BranchModel} {tests last : List Transition}
      (tested : List.Forall₂ BranchModel.Becomes (FromModel.reachable branches) tests)
      (closed : List.Forall₂ TransitionModel.Becomes
        ((FromModel.reachable branches).filterMap BranchModel.closing) last) :
      Becomes (.decision branches) (.decision (tests ++ last))
  | subflow {flow : String} {inputs outputs : List MappingModel} {models : List TransitionModel}
      {part : SubflowPart} {transitions : List Transition}
      (passes : (part.input.getD []).length = inputs.length)
      (returns : (part.output.getD []).length = outputs.length)
      (leads : List.Forall₂ TransitionModel.Becomes (TransitionModel.ordinary models) transitions) :
      Becomes (.subflow flow inputs outputs models) (.subflow part transitions)
  | final {view : Option String} {outputs : List MappingModel} {part : EndPart}
      (responds : part.finalResponse.isSome = view.isSome)
      (returns : (part.output.getD []).length = outputs.length) :
      Becomes (.final view outputs) (.final part)

structure StateModel.Becomes (m : StateModel) (s : State) : Prop where
  id : s.id = m.id
  entry : s.entry.length = m.onEntry.length
  exit : s.exit.length = m.onExit.length
  handlers : s.handlers = FromModel.handlers m.handlers m.kind.transitions
  attributes : s.attributes = m.attributes
  kind : m.kind.Becomes s.kind

structure FlowModel.Becomes (m : FlowModel) (context : BuildContext) (f : Flow) : Prop where
  id : f.id = context.flowId
  attributes : f.attributes = context.attributes.extend m.attributes
  start : f.start = (m.start <|> f.stateIds.head?)
  states : List.Forall₂ StateModel.Becomes m.states f.states
  distinct : f.stateIds.Nodup
  globalTransitions :
    List.Forall₂ TransitionModel.Becomes (TransitionModel.ordinary m.globalTransitions)
      f.globalTransitions
  handlers : f.handlers = FromModel.handlers m.handlers m.globalTransitions
  vars : f.vars.map (·.name) = m.vars.map (·.name)
  input : (f.input.getD []).length = m.inputs.length
  output : (f.output.getD []).length = m.outputs.length
  startActions : f.startActions.length = m.onStart.length
  endActions : f.endActions.length = m.onEnd.length

/-! ## Assembly makes that of them -/

theorem Expression.isTemplate_iff {text : String} : isTemplate text = true ↔ HasHole text :=
  Text.contains_iff

namespace Draft

theorem criteria_readFrom {on : Option String} {c : Criteria} (ok : criteria on = .ok c) :
    Criteria.ReadFrom on c := by
  cases on with
  | none =>
    cases ok
    exact .always
  | some on =>
    simp only [criteria] at ok
    split at ok
    · rename_i hole
      obtain ⟨e, read, rfl⟩ := of_map_eq_ok ok
      exact .condition (Expression.isTemplate_iff.mp hole) (of_mapError_eq_ok read)
    · rename_i plain
      split at ok
      · rename_i star
        cases ok
        exact star ▸ .anyEvent
      · rename_i particular
        cases ok
        exact .event (fun hole => plain (Expression.isTemplate_iff.mpr hole)) particular

theorem target_readFrom {destination : Option String} {t : Option Target}
    (ok : target destination = .ok t) : Target.ReadFrom destination t := by
  cases destination with
  | none =>
    cases ok
    exact .stay
  | some destination =>
    simp only [target] at ok
    split at ok
    · rename_i hole
      obtain ⟨e, read, rfl⟩ := of_map_eq_ok ok
      exact .computed (Expression.isTemplate_iff.mp hole) (of_mapError_eq_ok read)
    · rename_i plain
      cases ok
      exact .fixed fun hole => plain (Expression.isTemplate_iff.mpr hole)

/-- The draft with more states behind its own. The first one is the start state until another is
set. -/
def append (d : Draft) (states : List State) : Draft :=
  d.update fun f =>
    { f with
      states := f.states ++ states
      start := f.start <|> (states.map (·.id)).head? }

variable {d d' : Draft}

theorem append_nil : d.append [] = d := by
  cases started : d.flow.start <;> simp [append, update, ← started]

theorem append_append (states others : List State) :
    (d.append states).append others = d.append (states ++ others) := by
  cases d.flow.start <;> cases states <;> simp [append, update]

theorem stateIds_append (states : List State) :
    (d.append states).flow.stateIds = d.flow.stateIds ++ states.map (·.id) := List.map_append

/-- A state comes behind those that are there, under an id that none of them has. -/
theorem of_addState_eq_ok {frame : StateFrame} {kind : StateKind}
    (ok : d.addState frame kind = .ok d') : frame.id ∉ d.flow.stateIds ∧ d' = d.append
      [⟨frame.id, frame.entry, frame.exit, frame.handlers, frame.attributes, kind⟩] := by
  simp only [Draft.addState, Flow.addState] at ok
  split at ok
  · rename_i changed added
    split at added
    · cases added
    · rename_i new
      cases added
      cases ok
      refine ⟨fun mem => new (Flow.hasState_iff.mpr mem), ?_⟩
      cases started : d.flow.start <;> simp [append, update, started]
  · cases ok

theorem branch_becomes {m : BranchModel} {t : Transition}
    (ok : branch (m.test, m.thenTo) = .ok t) : m.Becomes t := by
  obtain ⟨test, read, ok⟩ := of_bind_eq_ok ok
  obtain ⟨target, led, ok⟩ := of_bind_eq_ok ok
  cases ok
  exact ⟨⟨test, of_mapError_eq_ok read, rfl⟩, target_readFrom led, rfl, rfl⟩

end Draft

namespace FromModel

variable {d d' : Draft}

theorem length_actions {models : List ActionModel} {made : List Action}
    (ok : actions d models = .ok made) : made.length = models.length :=
  (forall₂_of_mapM_eq_ok ok).length_eq.symm

theorem name_initialised {m : VariableModel} {v : FlowVariable} (ok : initialised m = .ok v) :
    v.name = m.name := by
  unfold initialised at ok
  split at ok
  · obtain ⟨e, -, rfl⟩ := of_map_eq_ok ok
    rfl
  · cases ok
    rfl

theorem names_initialised {models : List VariableModel} {made : List FlowVariable}
    (ok : models.mapM initialised = .ok made) : made.map (·.name) = models.map (·.name) := by
  have names := (forall₂_of_mapM_eq_ok ok).imp fun _ _ => name_initialised
  rw [← List.forall₂_eq_eq_eq, List.forall₂_map_left_iff, List.forall₂_map_right_iff]
  exact names.flip

theorem length_mapper {direction : Direction} {models : List MappingModel} {made : Option Mapper}
    (ok : mapper direction models = .ok made) : (made.getD []).length = models.length := by
  unfold mapper at ok
  split at ok
  · rename_i empty
    cases ok
    rw [List.isEmpty_iff.mp empty]
    rfl
  · obtain ⟨mappings, each, rfl⟩ := of_map_eq_ok ok
    exact (forall₂_of_mapM_eq_ok each).length_eq.symm

theorem transition_becomes {m : TransitionModel} {t : Transition}
    (ok : transition d m = .ok t) : m.Becomes t := by
  obtain ⟨guards, acts, ok⟩ := of_bind_eq_ok ok
  obtain ⟨criteria, read, ok⟩ := of_bind_eq_ok ok
  obtain ⟨target, led, ok⟩ := of_bind_eq_ok ok
  cases ok
  exact ⟨Draft.criteria_readFrom read, Draft.target_readFrom led, length_actions acts, rfl, rfl⟩

theorem transitions_become {models : List TransitionModel} {made : List Transition}
    (ok : transitions d models = .ok made) :
    List.Forall₂ TransitionModel.Becomes (TransitionModel.ordinary models) made :=
  (forall₂_of_mapM_eq_ok ok).imp fun _ _ => transition_becomes

/-- Only the last of the branches that are reached can have an else. -/
theorem closing_reachable (branches : List BranchModel) :
    (reachable branches).filterMap BranchModel.closing =
      (((reachable branches).getLast?.bind (·.elseTo)).map
        fun destination => ⟨none, none, some destination, [], none, .empty⟩).toList := by
  induction branches with
  | nil => rfl
  | cons b rest ih =>
    rw [reachable]
    cases closes : b.elseTo with
    | some destination => simp [BranchModel.closing, closes]
    | none =>
      rw [if_neg (by simp), List.filterMap_cons, BranchModel.closing, closes, Option.map_none]
      dsimp only
      rw [ih]
      rcases reachable rest with _ | ⟨next, others⟩
      · simp [closes]
      · rw [List.getLast?_cons_cons]

theorem otherwise_becomes {destination : Option String} {made : Option Transition}
    (ok : Draft.optional Draft.otherwise destination = .ok made) :
    List.Forall₂ TransitionModel.Becomes
      (destination.map fun destination => ⟨none, none, some destination, [], none, .empty⟩).toList
      made.toList := by
  cases destination with
  | none =>
    cases ok
    exact .nil
  | some destination =>
    obtain ⟨t, made, rfl⟩ := of_map_eq_ok ok
    obtain ⟨criteria, read, made⟩ := of_bind_eq_ok made
    obtain ⟨target, led, made⟩ := of_bind_eq_ok made
    cases made
    have becomes : TransitionModel.Becomes ⟨none, none, some destination, [], none, .empty⟩
        ⟨criteria, [], target, .preserve, .empty⟩ :=
      ⟨Draft.criteria_readFrom read, Draft.target_readFrom led, rfl, rfl, rfl⟩
    exact .cons becomes .nil

/-- Whatever its kind, a state is added in its frame. -/
theorem addKind_becomes {frame : StateFrame} {model : StateKindModel}
    (ok : addKind d frame model = .ok d') :
    ∃ kind, model.Becomes kind ∧ d.addState frame kind = .ok d' := by
  cases model with
  | view view redirect popup vars onRender models =>
    obtain ⟨renderActions, renders, ok⟩ := of_bind_eq_ok ok
    obtain ⟨made, initial, ok⟩ := of_bind_eq_ok ok
    obtain ⟨transitions, leads, ok⟩ := of_bind_eq_ok ok
    obtain ⟨factory, -, ok⟩ := of_bind_eq_ok ok
    exact ⟨_, .view (length_actions renders) (names_initialised initial) rfl rfl
      (transitions_become leads), ok⟩
  | action models transitionModels =>
    obtain ⟨actions, acts, ok⟩ := of_bind_eq_ok ok
    obtain ⟨transitions, leads, ok⟩ := of_bind_eq_ok ok
    exact ⟨_, .action (length_actions acts) (transitions_become leads), ok⟩
  | decision branches =>
    simp only [addKind] at ok
    split at ok
    · cases ok
    · obtain ⟨tests, tested, ok⟩ := of_bind_eq_ok ok
      obtain ⟨last, closed, ok⟩ := of_bind_eq_ok ok
      have each := forall₂_of_mapM_eq_ok tested
      rw [List.forall₂_map_left_iff] at each
      refine ⟨_, .decision (each.imp fun _ _ => Draft.branch_becomes) ?_, ok⟩
      -- The else comes from the last branch alone, the relation asks all that are reached.
      rw [closing_reachable]
      exact otherwise_becomes closed
  | subflow flow inputs outputs models =>
    obtain ⟨input, passes, ok⟩ := of_bind_eq_ok ok
    obtain ⟨output, returns, ok⟩ := of_bind_eq_ok ok
    obtain ⟨transitions, leads, ok⟩ := of_bind_eq_ok ok
    obtain ⟨ref, -, ok⟩ := of_bind_eq_ok ok
    exact ⟨_, .subflow (length_mapper passes) (length_mapper returns)
      (transitions_become leads), ok⟩
  | final view outputs =>
    obtain ⟨output, returns, ok⟩ := of_bind_eq_ok ok
    obtain ⟨factory, shown, ok⟩ := of_bind_eq_ok ok
    refine ⟨_, .final ?_ (length_mapper returns), ok⟩
    cases view with
    | none =>
      cases shown
      rfl
    | some view =>
      obtain ⟨made, -, rfl⟩ := of_map_eq_ok shown
      rfl

theorem addState_becomes {m : StateModel} (ok : addState d m = .ok d') :
    ∃ s, m.Becomes s ∧ m.id ∉ d.flow.stateIds ∧ d' = d.append [s] := by
  obtain ⟨entry, enters, ok⟩ := of_bind_eq_ok ok
  obtain ⟨exit, leaves, ok⟩ := of_bind_eq_ok ok
  obtain ⟨kind, becomes, ok⟩ := addKind_becomes ok
  obtain ⟨new, rfl⟩ := Draft.of_addState_eq_ok ok
  exact ⟨_, ⟨rfl, length_actions enters, length_actions leaves, rfl, rfl, becomes⟩, new, rfl⟩

/-- However many states are added, by induction on their models. -/
theorem addAll_states_become {models : List StateModel}
    (ok : Draft.addAll addState models d = (.ok (), d')) (distinct : d.flow.stateIds.Nodup) :
    ∃ states, List.Forall₂ StateModel.Becomes models states ∧ d'.flow.stateIds.Nodup ∧
      d' = d.append states := by
  induction models generalizing d with
  | nil =>
    cases ok
    exact ⟨[], .nil, distinct, Draft.append_nil.symm⟩
  | cons m rest ih =>
    unfold Draft.addAll at ok
    split at ok
    · cases ok
    · rename_i changed added
      obtain ⟨s, becomes, new, rfl⟩ := addState_becomes added
      have still : (d.append [s]).flow.stateIds.Nodup := by
        rw [Draft.stateIds_append, List.map_singleton, becomes.id, ← List.concat_eq_append]
        exact distinct.concat new
      obtain ⟨states, others, distinct, rfl⟩ := ih ok still
      exact ⟨s :: states, .cons becomes others, distinct, Draft.append_append [s] states⟩

theorem addAll_variables {models : List VariableModel}
    (ok : Draft.addAll addVariable models d = (.ok (), d')) :
    ∃ vars, vars.map (·.name) = models.map (·.name) ∧
      d' = d.update fun f => { f with vars := f.vars ++ vars } := by
  induction models generalizing d with
  | nil =>
    cases ok
    exact ⟨[], rfl, by simp [Draft.update]⟩
  | cons m rest ih =>
    unfold Draft.addAll at ok
    split at ok
    · cases ok
    · rename_i changed added
      obtain ⟨v, made, rfl⟩ := of_map_eq_ok added
      obtain ⟨vars, names, rfl⟩ := ih ok
      refine ⟨v :: vars, ?_, ?_⟩
      · rw [List.map_cons, List.map_cons, names, name_initialised made]
      · simp [Draft.update, Draft.addVariable]

theorem addStates_become {m : FlowModel} (ok : addStates m d = (.ok (), d'))
    (distinct : d.flow.stateIds.Nodup) :
    ∃ states, List.Forall₂ StateModel.Becomes m.states states ∧ d'.flow.stateIds.Nodup ∧
      d' = (d.append states).setStart m.start := by
  unfold addStates at ok
  split at ok
  · cases ok
  · rename_i changed added
    cases ok
    obtain ⟨states, becomes, distinct, rfl⟩ := addAll_states_become added distinct
    exact ⟨states, becomes, distinct, rfl⟩

end FromModel

theorem Draft.of_change_eq_ok {α : Type} {d d' : Draft} {found : Except BuildError α}
    {f : Draft → α → Draft} (h : d.change found f = (.ok (), d')) :
    ∃ a, found = .ok a ∧ f d a = d' := by
  cases found with
  | error e => cases h
  | ok a =>
    cases h
    exact ⟨a, rfl, rfl⟩

theorem Program.of_complete_cons {program : Program} {phase : Phase} {rest : List Phase}
    {d d' : Draft} (ok : complete program (phase :: rest) d = .ok d') :
    ∃ next, program phase d = (.ok (), next) ∧ complete program rest next = .ok d' := by
  rw [complete] at ok
  split at ok
  · cases ok
  · rename_i next passed
    exact ⟨next, passed, ok⟩

/-- Each phase adds the parts of its own and leaves the others as they are. -/
theorem FromModel.complete_becomes {m : FlowModel} {context : BuildContext} {d : Draft}
    (ok : Program.complete (program m) Phase.filling
      (.blank context (context.attributes.extend m.attributes)) = .ok d) :
    m.Becomes context d.flow := by
  obtain ⟨_, vars, ok⟩ := Program.of_complete_cons ok
  obtain ⟨_, inputs, ok⟩ := Program.of_complete_cons ok
  obtain ⟨_, starts, ok⟩ := Program.of_complete_cons ok
  obtain ⟨_, states, ok⟩ := Program.of_complete_cons ok
  obtain ⟨_, global, ok⟩ := Program.of_complete_cons ok
  obtain ⟨_, ends, ok⟩ := Program.of_complete_cons ok
  obtain ⟨_, outputs, ok⟩ := Program.of_complete_cons ok
  obtain ⟨_, handlers, ok⟩ := Program.of_complete_cons ok
  -- From the first phase on, each draft is the one before with what the phase added.
  obtain ⟨vars, names, rfl⟩ := addAll_variables vars
  obtain ⟨input, passes, rfl⟩ := Draft.of_change_eq_ok inputs
  obtain ⟨startActions, begins, rfl⟩ := Draft.of_change_eq_ok starts
  obtain ⟨states, becomes, distinct, rfl⟩ := addStates_become states .nil
  obtain ⟨transitions, leads, rfl⟩ := Draft.of_change_eq_ok global
  obtain ⟨endActions, finishes, rfl⟩ := Draft.of_change_eq_ok ends
  obtain ⟨output, returns, rfl⟩ := Draft.of_change_eq_ok outputs
  cases handlers
  cases ok
  exact {
    id := rfl
    attributes := rfl
    start := rfl
    states := becomes
    distinct := distinct
    globalTransitions := transitions_become leads
    handlers := rfl
    vars := names
    input := by cases input <;> exact length_mapper passes
    output := by cases output <;> exact length_mapper returns
    startActions := length_actions begins
    endActions := length_actions finishes }

/-! ## Models that nothing can come of -/

instance : DecidablePred HasHole := fun text =>
  decidable_of_iff (Expression.isTemplate text = true) Expression.isTemplate_iff

/-- The model names the state outright. What an exception leads to is never computed, anything else
is where it has a hole. -/
inductive FlowModel.Names (m : FlowModel) : String → Prop where
  | transition {s : StateModel} {t : TransitionModel} {id : String} (state : s ∈ m.states)
      (mem : t ∈ s.kind.transitions) (leads : t.destination = some id)
      (outright : t.onException = none → ¬ HasHole id) : Names m id
  | branch {s : StateModel} {branches : List BranchModel} {b : BranchModel}
      (state : s ∈ m.states) (decides : s.kind = .decision branches)
      (mem : b ∈ FromModel.reachable branches) (outright : ¬ HasHole b.thenTo) : Names m b.thenTo
  | otherwise {s : StateModel} {branches : List BranchModel} {b : BranchModel} {id : String}
      (state : s ∈ m.states) (decides : s.kind = .decision branches)
      (mem : b ∈ FromModel.reachable branches) (leads : b.elseTo = some id)
      (outright : ¬ HasHole id) : Names m id
  | handler {s : StateModel} {h : HandlerModel} (state : s ∈ m.states) (mem : h ∈ s.handlers) :
      Names m h.destination
  | globalTransition {t : TransitionModel} {id : String} (mem : t ∈ m.globalTransitions)
      (leads : t.destination = some id) (outright : t.onException = none → ¬ HasHole id) :
      Names m id
  | globalHandler {h : HandlerModel} (mem : h ∈ m.handlers) : Names m h.destination

/-- There are no states, or two of one id, or the model names one that is not there. -/
inductive FlowModel.Broken (m : FlowModel) : Prop where
  | empty (none : m.states = [])
  | repeated (twice : ¬ (m.states.map (·.id)).Nodup)
  | start {id : String} (set : m.start = some id) (unknown : id ∉ m.states.map (·.id))
  | target {id : String} (names : m.Names id) (unknown : id ∉ m.states.map (·.id))

theorem Target.ReadFrom.fixed_of_plain {id : String} {target : Option Target}
    (h : ReadFrom (some id) target) (plain : ¬ HasHole id) : target = some (.fixed id) := by
  cases h with
  | computed hole => exact absurd hole plain
  | fixed => rfl

/-- The transitions that transition models can stand behind; those of a decision have branches. -/
def StateKind.declared : StateKind → List Transition
  | decision _ => []
  | kind => kind.transitions

theorem StateKind.declared_subset (kind : StateKind) : kind.declared ⊆ kind.transitions := by
  cases kind with
  | decision => exact List.nil_subset _
  | action | view | subflow | final => exact List.Subset.refl _

theorem StateKindModel.Becomes.leads {m : StateKindModel} {kind : StateKind} (h : m.Becomes kind) :
    List.Forall₂ TransitionModel.Becomes (TransitionModel.ordinary m.transitions)
      kind.declared := by
  cases h with
  | view _ _ _ _ leads => exact leads
  | action _ leads => exact leads
  | subflow _ _ leads => exact leads
  | decision | final => exact .nil

theorem StateKindModel.Becomes.branches {branches : List BranchModel} {kind : StateKind}
    (h : Becomes (.decision branches) kind) : ∃ tests last, kind.transitions = tests ++ last ∧
      List.Forall₂ BranchModel.Becomes (FromModel.reachable branches) tests ∧
      List.Forall₂ TransitionModel.Becomes
        ((FromModel.reachable branches).filterMap BranchModel.closing) last := by
  cases h with
  | decision tested closed => exact ⟨_, _, rfl, tested, closed⟩

namespace FromModel

theorem exists_handler {models : List HandlerModel} {h : HandlerModel} (mem : h ∈ models)
    (transitions : List TransitionModel) :
    ∃ handler ∈ handlers models transitions, handler.target = some h.destination :=
  ⟨_, List.mem_append_left _ (List.mem_map_of_mem mem), rfl⟩

/-- A state that a transition model names outright is named by what becomes of it: a transition, or
else a handler. -/
theorem exists_names {models : List TransitionModel} {m : TransitionModel} {id : String}
    {made : List Transition} (leads : m.destination = some id)
    (outright : m.onException = none → ¬ HasHole id) (mem : m ∈ models)
    (become : List.Forall₂ TransitionModel.Becomes (TransitionModel.ordinary models) made)
    (declared : List HandlerModel) :
    (∃ t ∈ made, t.target = some (.fixed id)) ∨
      ∃ h ∈ handlers declared models, h.target = some id := by
  cases raised : m.onException with
  | none =>
    have kept : m ∈ TransitionModel.ordinary models := by
      rw [TransitionModel.ordinary, List.mem_filter, raised]
      exact ⟨mem, rfl⟩
    obtain ⟨t, made, becomes⟩ := exists_of_forall₂ become kept
    have read := becomes.target
    rw [leads] at read
    exact .inl ⟨t, made, read.fixed_of_plain (outright raised)⟩
  | some kinds =>
    have stands : transitionHandler? m = some (Draft.handler kinds id) := by
      simp only [transitionHandler?, raised, leads]
    exact .inr ⟨_, List.mem_append_right _ (List.mem_filterMap.mpr ⟨m, mem, stands⟩), rfl⟩

end FromModel

namespace FlowModel.Becomes

variable {m : FlowModel} {context : BuildContext} {f : Flow}

theorem stateIds (h : m.Becomes context f) : f.stateIds = m.states.map (·.id) := by
  have ids := h.states.imp fun _ _ becomes => becomes.id
  rw [Flow.stateIds, ← List.forall₂_eq_eq_eq, List.forall₂_map_left_iff, List.forall₂_map_right_iff]
  exact ids.flip

theorem startState (h : m.Becomes context f) {first : StateModel}
    (begins : m.states.head? = some first) : f.startState = m.start.getD first.id := by
  rw [Flow.startState, h.start, h.stateIds, List.head?_map, begins]
  cases m.start <;> rfl

/-- What the model names outright, the flow names outright. -/
theorem known_of_names {id : String} (h : m.Becomes context f) (closed : f.Closed)
    (names : m.Names id) : f.hasState id = true := by
  cases names with
  | transition state mem leads outright =>
    obtain ⟨s, there, becomes⟩ := exists_of_forall₂ h.states state
    obtain ⟨t, made, named⟩ | ⟨handler, made, named⟩ := FromModel.exists_names leads outright mem
      becomes.kind.leads _
    · exact closed.transitions s there t (s.kind.declared_subset made) id named
    · exact closed.stateHandlers s there handler (becomes.handlers ▸ made) id named
  | branch state decides mem outright =>
    obtain ⟨s, there, becomes⟩ := exists_of_forall₂ h.states state
    obtain ⟨tests, last, all, tested, -⟩ := (decides ▸ becomes.kind).branches
    obtain ⟨t, made, test⟩ := exists_of_forall₂ tested mem
    have leaves : t ∈ s.kind.transitions := all ▸ List.mem_append_left last made
    exact closed.transitions s there t leaves _ (test.target.fixed_of_plain outright)
  | otherwise state decides mem leads outright =>
    obtain ⟨s, there, becomes⟩ := exists_of_forall₂ h.states state
    obtain ⟨tests, last, all, -, ends⟩ := (decides ▸ becomes.kind).branches
    have closes : BranchModel.closing _ = some ⟨none, none, some id, [], none, .empty⟩ :=
      congrArg (Option.map _) leads
    obtain ⟨t, made, ends⟩ := exists_of_forall₂ ends (List.mem_filterMap.mpr ⟨_, mem, closes⟩)
    have leaves : t ∈ s.kind.transitions := all ▸ List.mem_append_right tests made
    exact closed.transitions s there t leaves id (ends.target.fixed_of_plain outright)
  | handler state mem =>
    obtain ⟨s, there, becomes⟩ := exists_of_forall₂ h.states state
    obtain ⟨handler, made, named⟩ := FromModel.exists_handler mem _
    exact closed.stateHandlers s there handler (becomes.handlers ▸ made) _ named
  | globalTransition mem leads outright =>
    obtain ⟨t, made, named⟩ | ⟨handler, made, named⟩ := FromModel.exists_names leads outright mem
      h.globalTransitions _
    · exact closed.globalTransitions t made id named
    · exact closed.handlers handler (h.handlers ▸ made) id named
  | globalHandler mem =>
    obtain ⟨handler, made, named⟩ := FromModel.exists_handler mem _
    exact closed.handlers handler (h.handlers ▸ made) _ named

theorem not_broken (h : m.Becomes context f) (closed : f.Closed) : ¬ m.Broken := by
  have known : ∀ {id}, f.hasState id = true → id ∈ m.states.map (·.id) := by
    intro id has
    rw [← h.stateIds]
    exact Flow.hasState_iff.mp has
  intro broken
  cases broken with
  | empty none =>
    have states := h.states
    rw [none] at states
    exact closed.states (List.forall₂_nil_left_iff.mp states)
  | repeated twice => exact twice (h.stateIds ▸ h.distinct)
  | start set unknown =>
    have starts := closed.start
    rw [Flow.startState, h.start, set] at starts
    exact unknown (known starts)
  | target names unknown => exact unknown (known (h.known_of_names closed names))

end FlowModel.Becomes

theorem of_assembleFlow {m : FlowModel} {context : BuildContext} {f : Flow}
    (ok : assembleFlow (.ofModel (.ok m)) context = .ok f) : m.Becomes context f ∧ f.Closed := by
  obtain ⟨program, attributes, d, delivered, complete, closed, rfl⟩ := assembleFlow_eq_ok_iff.mp ok
  cases delivered
  exact ⟨FromModel.complete_becomes complete, closed⟩

/-- **A flow is what its model says.** It has the id that it was built under, and the states of the
model in order, no two of one id. It starts in the state that the model sets, or else in the first
one. What a state leads to, and what the whole flow leads to, are the transition models that do not
depend on an exception, in order, each with the criteria, the target, the guards and the history
that it tells. And of a model that is broken no flow comes. -/
theorem assembled_faithful (m : FlowModel) (context : BuildContext) :
    (∀ f, assembleFlow (.ofModel (.ok m)) context = .ok f →
      f.id = context.flowId ∧ f.stateIds = m.states.map (·.id) ∧ f.stateIds.Nodup ∧
      (∃ first, m.states.head? = some first ∧ f.startState = m.start.getD first.id) ∧
      List.Forall₂ StateModel.Becomes m.states f.states ∧
      List.Forall₂ TransitionModel.Becomes (TransitionModel.ordinary m.globalTransitions)
        f.globalTransitions) ∧
    (m.Broken → ∃ e, assembleFlow (.ofModel (.ok m)) context = .error e) := by
  refine ⟨fun f ok => ?_, fun broken => ?_⟩
  · obtain ⟨becomes, closed⟩ := of_assembleFlow ok
    refine ⟨becomes.id, becomes.stateIds, becomes.distinct, ?_, becomes.states,
      becomes.globalTransitions⟩
    cases begins : m.states.head? with
    | none => exact absurd (.empty (List.head?_eq_none_iff.mp begins)) (becomes.not_broken closed)
    | some first => exact ⟨first, rfl, becomes.startState begins⟩
  · cases built : assembleFlow (.ofModel (.ok m)) context with
    | error e => exact ⟨e, rfl⟩
    | ok f =>
      obtain ⟨becomes, closed⟩ := of_assembleFlow built
      exact absurd broken (becomes.not_broken closed)

/-- A view that goes on to an end, also when something fails. -/
def crossing : FlowModel :=
  { FlowModel.empty with
    states :=
      [⟨"start", .view none false false [] []
          [⟨some "go", none, some "end", [], some .discard, .empty⟩,
            ⟨none, some "*", some "end", [], none, .empty⟩], [], [], [], .empty⟩,
        ⟨"end", .final none [], [], [], [], .empty⟩] }

/-- A decision with a branch that is not reached and leads nowhere. -/
def astray : FlowModel :=
  { FlowModel.empty with
    states :=
      [⟨"fork", .decision [⟨"true", "end", some "end"⟩, ⟨"true", "nowhere", none⟩], [], [], [],
          .empty⟩,
        ⟨"end", .final none [], [], [], [], .empty⟩] }

/-- Of the decision a flow comes, although the branch names a state that is not there. -/
theorem unreached_branch_ignored :
    (assembleFlow (.ofModel (.ok astray)) ⟨"walk", .empty, .ofActions []⟩).toOption.map
        (fun f => f.states.map fun s => (s.id, s.transitions.length)) =
      some [("fork", 2), ("end", 0)] ∧
    ∃ s ∈ astray.states, ∃ branches, s.kind = .decision branches ∧ ∃ b ∈ branches,
      ¬ HasHole b.thenTo ∧ b.thenTo ∉ astray.states.map (·.id) := by
  refine ⟨by decide +kernel, _, List.mem_cons_self, _, rfl, _, List.mem_cons_of_mem _
    List.mem_cons_self, by decide, by decide⟩

/-- It is so for a flow that can be crossed, and for one that lacks the end. -/
theorem crossing_faithful :
    let room : BuildContext := ⟨"room", .empty, .ofActions []⟩
    (∃ f, assembleFlow (.ofModel (.ok crossing)) room = .ok f ∧ f.startState = "start" ∧
      f.stateIds = ["start", "end"] ∧ List.Forall₂ StateModel.Becomes crossing.states f.states) ∧
    ∃ e, assembleFlow (.ofModel (.ok { crossing with states := crossing.states.take 1 })) room =
      .error e := by
  intro room
  constructor
  · obtain ⟨f, made⟩ : ∃ f, assembleFlow (.ofModel (.ok crossing)) room = .ok f :=
      exists_of_isOk (by decide +kernel)
    obtain ⟨-, ids, -, ⟨first, begins, start⟩, states, -⟩ :=
      (assembled_faithful crossing room).1 f made
    cases begins
    exact ⟨f, made, start, ids, states⟩
  · have named : FlowModel.Names { crossing with states := crossing.states.take 1 } "end" :=
      .transition List.mem_cons_self List.mem_cons_self rfl fun _ => by decide
    exact (assembled_faithful _ room).2 (.target named (by decide))

end Parley
