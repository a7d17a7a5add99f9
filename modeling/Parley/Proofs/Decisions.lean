import Parley.Proofs.Choice
import Parley.Proofs.Fidelity

/-!
# Parley.Proofs.Decisions

A decision reads its branches one by one: a test that holds leads to the state of its branch, a test
that does not leads on, and an else ends the reading. What is assembled of a decision is a list of
transitions of which the first that applies is taken. The two come to the same target.

* `BranchModel.reading`: how the branches are read.
* `BranchModel.Chain.find?_eq`: the transitions that they become.
* `decision_reads_branches`: the decisions of an assembled flow.
-/

namespace Parley

/-! ## Reading the branches -/

namespace BranchModel

/-- The test of the branch holds. A text that is no expression never does; there is no flow with it
where it is read. -/
def passes (m : BranchModel) (c : Context) : Bool :=
  match Expression.ofBare m.test with
  | .ok test => (test.eval c).truthy
  | .error _ => false

/-- Where the branches lead, if anywhere. -/
def reading (c : Context) : List BranchModel → Option String
  | [] => none
  | m :: rest =>
    if m.passes c then some m.thenTo
    else
      match m.elseTo with
      | some destination => some destination
      | none => reading c rest

end BranchModel

/-! ## Reading and transitions -/

theorem Target.ReadFrom.target_eq {destination : Option String} {t : Option Target}
    (h : ReadFrom destination t) : Draft.target destination = .ok t := by
  cases h with
  | stay => rfl
  | computed hole read =>
    rw [Draft.target, if_pos (Expression.isTemplate_iff.mpr hole), Draft.template, read]
    rfl
  | fixed plain =>
    rw [Draft.target, if_neg fun template => plain (Expression.isTemplate_iff.mp template)]

namespace BranchModel

variable {m : BranchModel} {t : Transition} {ways : List Transition}

theorem Becomes.holds_eq (h : m.Becomes t) (c : Context) : t.criteria.holds c = m.passes c := by
  obtain ⟨test, read, criteria⟩ := h.criteria
  rw [criteria, passes, read]
  rfl

/-- The transition of an else applies always. -/
theorem closing_holds {destination : String}
    (h : TransitionModel.Becomes ⟨none, none, some destination, [], none, .empty⟩ t) (c : Context) :
    t.criteria.holds c = true := by
  have read := h.criteria
  generalize t.criteria = criteria at read
  cases read
  rfl

/-- The transitions of a decision: one for each branch up to the first else, and one for that. -/
inductive Chain : List BranchModel → List Transition → Prop where
  | nil : Chain [] []
  | closed {m : BranchModel} {rest : List BranchModel} {t otherwise : Transition}
      {destination : String} (closes : m.elseTo = some destination) (becomes : m.Becomes t)
      (leads : TransitionModel.Becomes ⟨none, none, some destination, [], none, .empty⟩ otherwise) :
      Chain (m :: rest) [t, otherwise]
  | further {m : BranchModel} {rest : List BranchModel} {t : Transition} {ways : List Transition}
      (goesOn : m.elseTo = none) (becomes : m.Becomes t) (follows : Chain rest ways) :
      Chain (m :: rest) (t :: ways)

theorem chain_of_becomes {branches : List BranchModel} {tests last : List Transition}
    (tested : List.Forall₂ Becomes (FromModel.reachable branches) tests)
    (ends : List.Forall₂ TransitionModel.Becomes
      ((FromModel.reachable branches).filterMap closing) last) :
    Chain branches (tests ++ last) := by
  -- On the branches. None behind the first else is reached, so there the induction ends.
  induction branches generalizing tests with
  | nil =>
    cases tested
    cases ends
    exact .nil
  | cons m rest ih =>
    cases closes : m.elseTo with
    | some destination =>
      have reached : FromModel.reachable (m :: rest) = [m] := by simp [FromModel.reachable, closes]
      rw [reached] at tested ends
      rw [List.filterMap_cons_some (by rw [closing, closes]; rfl)] at ends
      obtain ⟨t, _, becomes, ⟨⟩, rfl⟩ := List.forall₂_cons_left_iff.mp tested
      obtain ⟨otherwise, _, leads, ⟨⟩, rfl⟩ := List.forall₂_cons_left_iff.mp ends
      exact .closed closes becomes leads
    | none =>
      have reached : FromModel.reachable (m :: rest) = m :: FromModel.reachable rest := by
        simp [FromModel.reachable, closes]
      rw [reached] at tested ends
      rw [List.filterMap_cons_none (by rw [closing, closes]; rfl)] at ends
      obtain ⟨t, _, becomes, others, rfl⟩ := List.forall₂_cons_left_iff.mp tested
      exact .further closes becomes (ih others ends)

/-- A transition whose branch passes is found, and past any other one the search goes on. -/
theorem Becomes.find?_cons (h : m.Becomes t) (c : Context) :
    (t :: ways).find? (fun t => t.criteria.holds c) =
      if m.passes c then some t else ways.find? fun t => t.criteria.holds c := by
  rw [List.find?_cons, h.holds_eq]
  cases m.passes c <;> rfl

/-- The search among the transitions reads the branches. -/
theorem Chain.find?_eq {branches : List BranchModel} (h : Chain branches ways) (c : Context) :
    (ways.find? fun t => t.criteria.holds c).map (fun t => .ok t.target) =
      (reading c branches).map fun destination => Draft.target (some destination) := by
  induction h with
  | nil => rfl
  | closed closes becomes leads =>
    rw [becomes.find?_cons, reading, closes]
    split
    · exact congrArg some becomes.target.target_eq.symm
    · simp only [List.find?_cons, closing_holds leads c]
      exact congrArg some leads.target.target_eq.symm
  | further goesOn becomes _ ih =>
    rw [becomes.find?_cons, reading, goesOn]
    split
    · exact congrArg some becomes.target.target_eq.symm
    · exact ih

end BranchModel

/-! ## Assembled decisions -/

/-- The way out that a state has of its own comes before those of the flow. -/
theorem Transition.IsFirst.append {t : Transition} {ways : List Transition} {c : Context}
    (h : t.IsFirst ways c) (others : List Transition) : t.IsFirst (ways ++ others) c := by
  obtain ⟨before, after, rfl, holds, skipped⟩ := h
  exact ⟨before, after ++ others, by simp, holds, skipped⟩

theorem Flow.state?_of_mem {f : Flow} {s : State} (distinct : f.stateIds.Nodup)
    (mem : s ∈ f.states) : f.state? s.id = some s := by
  obtain ⟨other, found⟩ := state?_of_hasState (hasState_iff.mpr (List.mem_map_of_mem mem))
  have same : other.id = s.id := id_of_state? found
  rw [found, List.inj_on_of_nodup_map distinct (List.mem_of_find?_eq_some found) mem same]

/-- **A decision is read branch by branch.** Of the transitions that a decision has in an assembled
flow, the first that applies leads to the target that the branches of its model come to, read one by
one: to the state of the first branch whose test holds, or to that of an else that comes before it.
None applies exactly if the branches lead nowhere. One that does is the choice in the flow, whatever
transitions the flow has beside it. -/
theorem decision_reads_branches {m : FlowModel} {context : BuildContext} {f : Flow}
    (ok : assembleFlow (.ofModel (.ok m)) context = .ok f) {model : StateModel}
    (mem : model ∈ m.states) {branches : List BranchModel}
    (decides : model.kind = .decision branches) :
    ∃ s, f.state? model.id = some s ∧ ∀ c : Context,
      (s.transitions.find? fun t => t.criteria.holds c).map (fun t => Except.ok t.target) =
        (BranchModel.reading c branches).map (fun destination => Draft.target (some destination)) ∧
      (NoneHolds s.transitions c ↔ BranchModel.reading c branches = none) ∧
      ∀ t, t.IsFirst s.transitions c → Engine.findTransition f s c = some t := by
  obtain ⟨becomes, -⟩ := of_assembleFlow ok
  obtain ⟨s, there, state⟩ := exists_of_forall₂ becomes.states mem
  obtain ⟨tests, last, ways, tested, ends⟩ := (decides ▸ state.kind).branches
  have chain : BranchModel.Chain branches s.transitions := by
    rw [State.transitions, ways]
    exact BranchModel.chain_of_becomes tested ends
  refine ⟨s, state.id ▸ Flow.state?_of_mem becomes.distinct there, fun c =>
    ⟨chain.find?_eq c, ?_, ?_⟩⟩
  · have none := congrArg (· = none) (chain.find?_eq c)
    simp only [Option.map_eq_none_iff, List.find?_eq_none, Bool.not_eq_true] at none
    exact iff_of_eq none
  · intro t first
    exact Engine.findTransition_eq_some_iff.mpr (first.append _)

/-- A decision with an else before its last branch. -/
def fork : StateModel :=
  ⟨"fork", .decision [⟨"flowScope.a == true", "left", some "right"⟩,
      ⟨"flowScope.b == true", "ahead", none⟩], [], [], [], .empty⟩

def forked : FlowModel :=
  { FlowModel.empty with
    states := fork :: ["left", "right", "ahead"].map fun id =>
      ⟨id, .final none [], [], [], [], .empty⟩ }

/-- A request in a flow where only the test of the last branch holds. -/
def atFork : Context where
  rootFlow := "walk"
  status := .active
  sessions :=
    [{ Session.fresh "walk" with scope := ⟨[("a", .bool false), ("b", .bool true)]⟩ }]
  request := .empty
  flash := .empty
  conversation := .empty
  event := none
  transition := none
  parameters := .empty
  requestId := ""
  rendered := none
  notes := []
  startOf := fun id => .error (.noSuchFlowDefinition id)

/-- The else is taken, and the branch behind it is not reached. -/
theorem else_before_later_branches :
    ∃ f s, assembleFlow (.ofModel (.ok forked)) ⟨"walk", .empty, .ofActions []⟩ = .ok f ∧
      f.state? "fork" = some s ∧
      (s.transitions.find? fun t => t.criteria.holds atFork).map (fun t => Except.ok t.target) =
        some (Draft.target (some "right")) := by
  obtain ⟨f, made⟩ : ∃ f, assembleFlow (.ofModel (.ok forked)) ⟨"walk", .empty, .ofActions []⟩ =
      .ok f := exists_of_isOk (by decide +kernel)
  have there : fork ∈ forked.states := List.mem_cons_self
  obtain ⟨s, state, reads⟩ := decision_reads_branches made there rfl
  have right : BranchModel.reading atFork
      [⟨"flowScope.a == true", "left", some "right"⟩, ⟨"flowScope.b == true", "ahead", none⟩] =
        some "right" := by decide +kernel
  exact ⟨f, s, made, state, by rw [(reads atFork).1, right]; rfl⟩

end Parley
