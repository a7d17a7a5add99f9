import Parley.Proofs.Fidelity
import Parley.Registry.Basic

/-!
# Parley.Proofs.Assembled

What is known of a flow that was assembled from a model: it has the id that it was built under, and
all that its handlers do is to name a state to enter.

* `Flow.Routed`: the handlers of a flow name states to enter.
* `assembleFlow_routed`: assembled flows are of this kind, under the id that they were built under.
* `Registry.directory_ofModels`: registries of flows from models have only such flows.
-/

namespace Parley

/-- The handler does nothing but name a state to enter. -/
def Handler.Routes (h : Handler) : Prop := ∃ patterns state, h = .transition patterns state

/-- All handlers of the flow and of its states name states to enter. -/
structure Flow.Routed (f : Flow) : Prop where
  handlers : ∀ h ∈ f.handlers, h.Routes
  states : ∀ s ∈ f.states, ∀ h ∈ s.handlers, h.Routes

theorem FromModel.handlers_route (models : List HandlerModel) (transitions : List TransitionModel) :
    ∀ h ∈ handlers models transitions, h.Routes := by
  intro h mem
  rcases List.mem_append.mp mem with mem | mem
  · obtain ⟨model, -, rfl⟩ := List.mem_map.mp mem
    exact ⟨_, _, rfl⟩
  · obtain ⟨t, -, stands⟩ := List.mem_filterMap.mp mem
    unfold transitionHandler? at stands
    split at stands
    · cases stands
      exact ⟨_, _, rfl⟩
    · cases stands

/-- A flow out of a model has the id that it was built under, and its handlers name states to
enter. -/
theorem assembleFlow_routed {delivered : Except BuildError FlowModel} {context : BuildContext}
    {f : Flow} (ok : assembleFlow (.ofModel delivered) context = .ok f) :
    f.id = context.flowId ∧ f.Routed := by
  cases delivered with
  | error e => cases ok
  | ok m =>
    have becomes : m.Becomes context f := (of_assembleFlow ok).1
    refine ⟨becomes.id, ?_, fun s mem => ?_⟩
    · rw [becomes.handlers]
      exact FromModel.handlers_route _ _
    · obtain ⟨model, -, made⟩ := exists_of_forall₂ becomes.states.flip mem
      rw [made.handlers]
      exact FromModel.handlers_route _ _

/-! ## Registries of flows from models -/

/-- The flow came out of a model, built under the id. -/
def Flow.OfModel (id : String) (f : Flow) : Prop :=
  ∃ delivered context, context.flowId = id ∧ assembleFlow (.ofModel delivered) context = .ok f

theorem Flow.OfModel.routed {id : String} {f : Flow} (h : f.OfModel id) : f.id = id ∧ f.Routed := by
  obtain ⟨delivered, context, rfl, assembled⟩ := h
  exact assembleFlow_routed assembled

/-- Every flow that can be had came out of a model, built under the id by which it is had. -/
def Directory.OfModels (directory : Directory) : Prop :=
  ∀ id f, directory id = .ok f → f.OfModel id

/-- What the holder keeps under the id came out of a model, and so will what it has yet to
assemble. -/
def Holder.OfModels (id : String) : Holder → Prop
  | fixed edition => edition.flow.OfModel id
  | file h => h.context.flowId = id ∧ ∀ edition, h.kept = some edition → edition.flow.OfModel id

theorem Holder.OfModels.get {id : String} {holder : Holder} {disk : Disk} {number : Nat}
    {edition : Edition} (h : holder.OfModels id) (ok : (holder.get disk number).1 = .ok edition) :
    edition.flow.OfModel id := by
  cases holder with
  | fixed kept =>
    cases ok
    exact h
  | file holder =>
    obtain ⟨at_id, known⟩ := h
    have assembled : (holder.assemble (disk holder.path) number).1 = .ok edition →
        edition.flow.OfModel id := by
      intro ok
      unfold FileHolder.assemble at ok
      split at ok <;> cases ok
      rename_i flow loaded
      exact ⟨_, _, at_id, loaded⟩
    replace ok : (holder.get (disk holder.path) number).1 = .ok edition := ok
    unfold FileHolder.get at ok
    split at ok
    · rename_i kept e
      split at ok
      · exact assembled ok
      · cases ok
        exact known _ e
    · exact assembled ok

namespace Registry

def OfModels (r : Registry) : Prop := ∀ id holder, r.holder? id = some holder → holder.OfModels id

variable {r : Registry}

theorem empty_ofModels : empty.OfModels := nofun

theorem OfModels.put {id : String} {holder : Holder} (h : r.OfModels) (new : holder.OfModels id)
    (next : Nat) : OfModels ⟨r.holders.put id holder, next⟩ := by
  intro other held found
  by_cases same : other = id
  · subst same
    cases (Table.get?_put_self other holder r.holders).symm.trans found
    exact new
  · exact h other held ((Table.get?_put_of_ne same holder r.holders).symm.trans found)

theorem OfModels.registerFlow {id : String} {f : Flow} (h : r.OfModels) (made : f.OfModel id) :
    (r.registerFlow f).OfModels := by
  refine h.put ?_ _
  rw [made.routed.1]
  exact made

theorem OfModels.registerFile (h : r.OfModels) (id path : String) (tools : Toolbox)
    (refreshOnChange : Bool) : (r.registerFile id path tools refreshOnChange).OfModels := by
  have new : Holder.OfModels id (.file (.new path ⟨id, .empty, tools⟩ refreshOnChange)) :=
    ⟨rfl, nofun⟩
  exact h.put new _

/-- However many registries are asked, by induction on the way to the parents. -/
theorem directory_ofModels (disk : Disk) {registries : List Registry}
    (h : ∀ r ∈ registries, r.OfModels) : (directory disk registries).OfModels := by
  intro id f had
  induction registries with
  | nil => cases had
  | cons r parents ih =>
    unfold directory locate at had
    unfold get? at had
    cases holding : r.holder? id with
    | none =>
      rw [holding] at had
      exact ih (fun r mem => h r (List.mem_cons_of_mem _ mem)) had
    | some holder =>
      rw [holding] at had
      dsimp only [Option.map_some] at had
      cases got : (holder.get disk r.next).1 with
      | error e => simp [got, Except.map] at had
      | ok edition =>
        rw [got] at had
        cases had
        exact (h r List.mem_cons_self id holder holding).get got

end Registry

end Parley
