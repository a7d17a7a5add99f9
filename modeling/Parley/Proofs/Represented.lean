import Parley.Proofs.Fidelity

/-!
# Parley.Proofs.Represented

What stands for a transition model in the flow. A transition does, or a handler if the model is for
an exception, and both come from passes of their own over the same models, so each has to keep what
the other leaves out. They part the models between them but for one kind, which both leave out: a
model for an exception that leads nowhere is lost, and the flow comes without it.

* `represented_of_become`: the two passes together.
* `routes_represented_iff`: no route of an assembled flow is dropped unless one is lost.
-/

namespace Parley

/-- It is for an exception and leads nowhere. -/
def TransitionModel.isLost (m : TransitionModel) : Bool :=
  m.onException.isSome && m.destination.isNone

inductive Artifact where
  | transition (t : Transition)
  | handler (h : Handler)

namespace Artifact

def transition? : Artifact → Option Transition
  | transition t => some t
  | handler _ => none

def handler? : Artifact → Option Handler
  | transition _ => none
  | handler h => some h

inductive StandsFor : TransitionModel → Artifact → Prop where
  | transition {m : TransitionModel} {t : Transition} (ordinary : m.onException = none)
      (becomes : m.Becomes t) : StandsFor m (.transition t)
  | handler {m : TransitionModel} {kinds destination : String} (raised : m.onException = some kinds)
      (leads : m.destination = some destination) :
      StandsFor m (.handler (Draft.handler kinds destination))

/-- Nothing stands for a lost model. -/
theorem StandsFor.not_lost {m : TransitionModel} {a : Artifact} (h : StandsFor m a) :
    m.isLost = false := by
  cases h with
  | transition ordinary => simp [TransitionModel.isLost, ordinary]
  | handler _ leads => simp [TransitionModel.isLost, leads]

end Artifact

/-- One artifact stands for each model. Those that are transitions are the transitions, in order,
and those that are handlers are the handlers behind the declared ones. -/
def Represented (models : List TransitionModel) (declared : List HandlerModel)
    (transitions : List Transition) (handlers : List Handler) : Prop :=
  ∃ artifacts, List.Forall₂ Artifact.StandsFor models artifacts ∧
    transitions = artifacts.filterMap Artifact.transition? ∧
    handlers = declared.map (fun h => Draft.handler h.on h.destination) ++
      artifacts.filterMap Artifact.handler?

namespace Represented

variable {models : List TransitionModel} {declared : List HandlerModel}
  {transitions : List Transition} {handlers : List Handler} {m : TransitionModel}

theorem not_lost (h : Represented models declared transitions handlers) :
    ∀ m ∈ models, m.isLost = false := by
  obtain ⟨artifacts, stand, -, -⟩ := h
  intro m mem
  obtain ⟨a, -, stands⟩ := exists_of_forall₂ stand mem
  exact stands.not_lost

theorem transition {t : Transition} (h : Represented models declared transitions handlers)
    (ordinary : m.onException = none) (becomes : m.Becomes t) :
    Represented (m :: models) declared (t :: transitions) handlers := by
  obtain ⟨artifacts, stand, rfl, handled⟩ := h
  exact ⟨.transition t :: artifacts, .cons (.transition ordinary becomes) stand, rfl, handled⟩

theorem handler {kinds destination : String} (h : Represented models [] transitions handlers)
    (raised : m.onException = some kinds) (leads : m.destination = some destination) :
    Represented (m :: models) [] transitions (Draft.handler kinds destination :: handlers) := by
  obtain ⟨artifacts, stand, made, rfl⟩ := h
  exact ⟨.handler (Draft.handler kinds destination) :: artifacts,
    .cons (.handler raised leads) stand, made, rfl⟩

theorem behind (h : Represented models [] transitions handlers) (declared : List HandlerModel) :
    Represented models declared transitions
      (declared.map (fun h => Draft.handler h.on h.destination) ++ handlers) := by
  obtain ⟨artifacts, stand, made, rfl⟩ := h
  exact ⟨artifacts, stand, made, rfl⟩

end Represented

/-- By induction on the models: each goes through one of the passes, or it is lost. -/
theorem represented_of_become {models : List TransitionModel} {transitions : List Transition}
    (declared : List HandlerModel)
    (become : List.Forall₂ TransitionModel.Becomes (TransitionModel.ordinary models) transitions) :
    Represented (models.filter fun m => !m.isLost) declared transitions
      (FromModel.handlers declared models) := by
  refine Represented.behind ?_ declared
  induction models generalizing transitions with
  | nil =>
    cases become
    exact ⟨[], .nil, rfl, rfl⟩
  | cons m rest ih =>
    cases raised : m.onException with
    | none =>
      have kept : m.isLost = false := by simp [TransitionModel.isLost, raised]
      have ordinary : TransitionModel.ordinary (m :: rest) = m :: TransitionModel.ordinary rest :=
        List.filter_cons_of_pos (by rw [raised]; rfl)
      rw [ordinary] at become
      obtain ⟨t, others, first, follow, rfl⟩ := List.forall₂_cons_left_iff.mp become
      rw [List.filter_cons_of_pos (by rw [kept]; rfl),
        List.filterMap_cons_none (by simp only [FromModel.transitionHandler?, raised])]
      exact (ih follow).transition raised first
    | some kinds =>
      have ordinary : TransitionModel.ordinary (m :: rest) = TransitionModel.ordinary rest :=
        List.filter_cons_of_neg (by rw [raised]; exact Bool.false_ne_true)
      rw [ordinary] at become
      cases leads : m.destination with
      | none =>
        have lost : m.isLost = true := by simp [TransitionModel.isLost, raised, leads]
        rw [List.filter_cons_of_neg (by rw [lost]; exact Bool.false_ne_true),
          List.filterMap_cons_none (by simp only [FromModel.transitionHandler?, raised, leads])]
        exact ih become
      | some destination =>
        have kept : m.isLost = false := by simp [TransitionModel.isLost, leads]
        have handles : FromModel.transitionHandler? m = some (Draft.handler kinds destination) := by
          simp only [FromModel.transitionHandler?, raised, leads]
        rw [List.filter_cons_of_pos (by rw [kept]; rfl), List.filterMap_cons_some handles]
        exact (ih become).handler raised leads

/-- The transition models that are kept are represented, state by state and for the whole flow. -/
structure Flow.Represents (f : Flow) (m : FlowModel) (keep : TransitionModel → Bool) : Prop where
  inStates : List.Forall₂ (fun model s => s.id = model.id ∧
    Represented (model.kind.transitions.filter keep) model.handlers s.kind.declared s.handlers)
    m.states f.states
  global : Represented (m.globalTransitions.filter keep) m.handlers f.globalTransitions f.handlers

/-- The transition models of the states, then those of the whole flow. -/
def FlowModel.routes (m : FlowModel) : List TransitionModel :=
  m.states.flatMap (·.kind.transitions) ++ m.globalTransitions

theorem FlowModel.Becomes.represents {m : FlowModel} {context : BuildContext} {f : Flow}
    (h : m.Becomes context f) : f.Represents m fun t => !t.isLost where
  inStates := h.states.imp fun model _ becomes =>
    ⟨becomes.id, becomes.handlers ▸ represented_of_become model.handlers becomes.kind.leads⟩
  global := h.handlers ▸ represented_of_become m.handlers h.globalTransitions

namespace Flow.Represents

variable {f : Flow} {m : FlowModel} {keep keep' : TransitionModel → Bool}

theorem not_lost (h : f.Represents m keep) {t : TransitionModel} (mem : t ∈ m.routes)
    (kept : keep t = true) : t.isLost = false := by
  rcases List.mem_append.mp mem with mem | mem
  · obtain ⟨model, state, mem⟩ := List.mem_flatMap.mp mem
    obtain ⟨s, -, -, represented⟩ := exists_of_forall₂ h.inStates state
    exact represented.not_lost t (List.mem_filter.mpr ⟨mem, kept⟩)
  · exact h.global.not_lost t (List.mem_filter.mpr ⟨mem, kept⟩)

theorem congr (h : f.Represents m keep) (same : ∀ t ∈ m.routes, keep t = keep' t) :
    f.Represents m keep' := by
  constructor
  · obtain ⟨length, each⟩ := List.forall₂_iff_zip.mp h.inStates
    refine List.forall₂_iff_zip.mpr ⟨length, fun {model s} pair => ?_⟩
    have state : model ∈ m.states := (List.of_mem_zip pair).1
    have filtered : model.kind.transitions.filter keep = model.kind.transitions.filter keep' :=
      List.filter_congr fun t mem =>
        same t (List.mem_append_left _ (List.mem_flatMap.mpr ⟨model, state, mem⟩))
    rw [← filtered]
    exact each pair
  · have filtered : m.globalTransitions.filter keep = m.globalTransitions.filter keep' :=
      List.filter_congr fun t mem => same t (List.mem_append_right _ mem)
    rw [← filtered]
    exact h.global

end Flow.Represents

/-- **No route is dropped unless it is lost.** In a flow out of a model, one transition or one
handler stands for each transition model that is not lost, in the state that the model is in or for
the whole flow, and behind the declared handlers. So all routes are represented if and only if none
is lost. -/
theorem routes_represented_iff {m : FlowModel} {context : BuildContext} {f : Flow}
    (ok : assembleFlow (.ofModel (.ok m)) context = .ok f) :
    (f.Represents m fun t => !t.isLost) ∧
      ((f.Represents m fun _ => true) ↔ ∀ t ∈ m.routes, t.isLost = false) := by
  have kept : f.Represents m fun t => !t.isLost := (of_assembleFlow ok).1.represents
  refine ⟨kept, fun all t mem => all.not_lost mem rfl, fun none => ?_⟩
  exact kept.congr fun t mem => by rw [none t mem]; rfl

/-- In the model of a flow that can be crossed no route is lost. -/
theorem crossing_represented :
    ∃ f, assembleFlow (.ofModel (.ok crossing)) ⟨"room", .empty, .ofActions []⟩ = .ok f ∧
      f.Represents crossing fun _ => true := by
  obtain ⟨f, made⟩ : ∃ f, assembleFlow (.ofModel (.ok crossing)) ⟨"room", .empty, .ofActions []⟩ =
      .ok f := exists_of_isOk (by decide +kernel)
  exact ⟨f, made, (routes_represented_iff made).2.mpr (by decide)⟩

/-- A view with a route for every exception that leads nowhere. -/
def mute : FlowModel :=
  { FlowModel.empty with
    states :=
      [⟨"hall", .view none false false [] [] [⟨none, some "*", none, [], none, .empty⟩], [], [], [],
        .empty⟩] }

/-- The flow comes without it. -/
theorem lost_route_dropped :
    mute.routes.length = 1 ∧
      (assembleFlow (.ofModel (.ok mute)) ⟨"room", .empty, .ofActions []⟩).toOption.map (fun f =>
        (f.states.map (fun s => (s.transitions.length, s.handlers.length)),
          f.globalTransitions.length, f.handlers.length)) = some ([(0, 0)], 0, 0) := by
  decide +kernel

end Parley
