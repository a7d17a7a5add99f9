import Parley.Assembly.Builder

/-!
# Parley.Proofs.Closed

Flows that go nowhere but to states of their own, as far as their text tells: there are states, the
start state is one of them, and so is each that a transition or a handler names outright. Validation
lets exactly those flows pass, and no builder hands over a flow that does not pass.

* `Flow.validate_eq_ok_iff`: the flows that pass.
* `Builder.assemble_closed`: the flows that are built.
-/

namespace Parley

namespace Flow

/-- The flow has its start state and all states that its transitions and handlers name. -/
structure Closed (f : Flow) : Prop where
  states : f.states ≠ []
  start : f.hasState f.startState = true
  transitions : ∀ s ∈ f.states, ∀ t ∈ s.transitions, ∀ target,
    t.target = some (.fixed target) → f.hasState target = true
  globalTransitions : ∀ t ∈ f.globalTransitions, ∀ target,
    t.target = some (.fixed target) → f.hasState target = true
  stateHandlers : ∀ s ∈ f.states, ∀ h ∈ s.handlers, ∀ target,
    h.target = some target → f.hasState target = true
  handlers : ∀ h ∈ f.handlers, ∀ target, h.target = some target → f.hasState target = true

variable {f : Flow}

theorem hasState_iff {id : String} : f.hasState id = true ↔ id ∈ f.stateIds := by
  simp [hasState, state?, stateIds]

theorem checkTargets_eq_ok_iff {place : String} {targets : List String} :
    f.checkTargets place targets = .ok () ↔ ∀ target ∈ targets, f.hasState target = true := by
  induction targets with
  | nil => simp [checkTargets]
  | cons target rest ih =>
    cases known : f.hasState target with
    | true => simp [checkTargets, checkTarget, known, ih]
    | false => simp [checkTargets, checkTarget, known]

theorem checkStates_eq_ok_iff {states : List State} :
    f.checkStates states = .ok () ↔
      ∀ s ∈ states, ∀ target ∈ namedTargets s.transitions s.handlers, f.hasState target = true := by
  induction states with
  | nil => simp [checkStates]
  | cons s rest ih =>
    have both : f.checkStates (s :: rest) = .ok () ↔
        f.checkTargets s.id (namedTargets s.transitions s.handlers) = .ok () ∧
          f.checkStates rest = .ok () := by
      rw [checkStates]
      cases f.checkTargets s.id (namedTargets s.transitions s.handlers) <;> simp
    rw [both, checkTargets_eq_ok_iff, ih, List.forall_mem_cons]

theorem fixedTarget?_eq_some_iff {t : Transition} {target : String} :
    t.fixedTarget? = some target ↔ t.target = some (.fixed target) := by
  obtain ⟨criteria, guards, aim, history, attributes⟩ := t
  rcases aim with _ | _ | _ <;> simp [Transition.fixedTarget?, Target.fixed?]

theorem mem_namedTargets_iff {transitions : List Transition} {handlers : List Handler}
    {target : String} : target ∈ namedTargets transitions handlers ↔
      (∃ t ∈ transitions, t.target = some (.fixed target)) ∨
        ∃ h ∈ handlers, h.target = some target := by
  simp [namedTargets, fixedTarget?_eq_some_iff]

theorem forall_namedTargets_iff {transitions : List Transition} {handlers : List Handler} :
    (∀ target ∈ namedTargets transitions handlers, f.hasState target = true) ↔
      (∀ t ∈ transitions, ∀ target, t.target = some (.fixed target) → f.hasState target = true) ∧
        ∀ h ∈ handlers, ∀ target, h.target = some target → f.hasState target = true := by
  constructor
  · intro known
    refine ⟨fun t mem target names => ?_, fun h mem target names => ?_⟩
    · exact known target (mem_namedTargets_iff.mpr (.inl ⟨t, mem, names⟩))
    · exact known target (mem_namedTargets_iff.mpr (.inr ⟨h, mem, names⟩))
  · rintro ⟨transitions, handlers⟩ target mem
    obtain ⟨t, mem, names⟩ | ⟨h, mem, names⟩ := mem_namedTargets_iff.mp mem
    · exact transitions t mem target names
    · exact handlers h mem target names

/-- Validation checks what a closed flow is, no more and no less. -/
theorem validate_eq_ok_iff : f.validate = .ok () ↔ f.Closed := by
  have checks : f.validate = .ok () ↔ f.states ≠ [] ∧ f.hasState f.startState = true ∧
      f.checkStates f.states = .ok () ∧
      f.checkTargets globalPlace (namedTargets f.globalTransitions f.handlers) = .ok () := by
    unfold validate
    cases states : f.states with
    | nil => simp
    | cons s rest =>
      cases start : f.hasState f.startState with
      | false => simp
      | true => cases f.checkStates (s :: rest) <;> simp
  rw [checks, checkStates_eq_ok_iff, checkTargets_eq_ok_iff]
  simp only [forall_namedTargets_iff]
  constructor
  · rintro ⟨states, start, inStates, global, handlers⟩
    exact ⟨states, start, fun s mem => (inStates s mem).1, global, fun s mem => (inStates s mem).2,
      handlers⟩
  · intro closed
    exact ⟨closed.states, closed.start,
      fun s mem => ⟨closed.transitions s mem, closed.stateHandlers s mem⟩,
      closed.globalTransitions, closed.handlers⟩

end Flow

namespace Builder

theorem getFlow_closed {b : Builder} {f : Flow} (ok : b.getFlow.1 = .ok f) : f.Closed := by
  unfold getFlow at ok
  split at ok
  · cases ok
  · split at ok
    · cases ok
    · split at ok
      · cases ok
      · rename_i passed
        cases ok
        exact Flow.validate_eq_ok_iff.mp passed

/-- Whatever the builder builds from, and whatever it has built before. -/
theorem assemble_closed {b : Builder} {context : BuildContext} {f : Flow}
    (ok : (FlowBuilder.assemble context b).1 = .ok f) : f.Closed := by
  unfold FlowBuilder.assemble at ok
  split at ok
  · cases ok
  · rename_i flow b' direct
    cases ok
    unfold FlowBuilder.direct at direct
    split at direct
    · cases direct
    · split at direct
      · cases direct
      · exact getFlow_closed (congrArg Prod.fst direct)

end Builder

end Parley
