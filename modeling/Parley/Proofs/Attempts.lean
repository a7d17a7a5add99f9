import Parley.Proofs.Phases
import Parley.Registry.Holder

/-!
# Parley.Proofs.Attempts

An assembler that is used again and again, while what its builder builds from may be something else
each time. Every attempt ends with a builder that is as good as new, so what the next one gives is
told by what is delivered for it and by the surroundings alone. And the builder never complains of
how it is called: nothing that can be wrong with a model is blamed on the order of the phases.

* `FromModel.program_blameless`: the errors of models.
* `attempts_eq`, `FileHolder.loads_eq`: attempt after attempt, and load after load of one holder.
* `attempts_as_new`: any number of attempts, and whose errors they end with.
-/

namespace Parley

/-! ## Complaints -/

/-- The builder complains that it was not called as it should be. -/
def BuildError.OfMisuse : BuildError → Prop
  | .phaseOrder .. => True
  | .notInitialized .. => True
  | _ => False

/-- Whatever goes wrong here, it is not how a builder was called. -/
structure Blameless {α : Type} (x : Except BuildError α) : Prop where
  proper : ∀ e, x = .error e → ¬ e.OfMisuse

namespace Blameless

variable {α β : Type} {x : Except BuildError α} {f : α → Except BuildError β}

theorem ok (a : α) : Blameless (.ok a) := ⟨nofun⟩

theorem error {e : BuildError} (proper : ¬ e.OfMisuse) :
    Blameless (.error e : Except BuildError α) := by
  refine ⟨fun e' same => ?_⟩
  cases same
  exact proper

theorem of_eq {e : BuildError} (hx : Blameless x) (failed : x = .error e) :
    Blameless (.error e : Except BuildError β) := error (hx.proper e failed)

theorem bind (hx : Blameless x) (hf : ∀ a, Blameless (f a)) : Blameless (x >>= f) := by
  cases x with
  | error e => exact hx.of_eq rfl
  | ok a => exact hf a

theorem map (hx : Blameless x) (g : α → β) : Blameless (x.map g) := by
  cases x with
  | error e => exact hx.of_eq rfl
  | ok a => exact ok (g a)

theorem mapError {ε : Type} {y : Except ε α} {g : ε → BuildError} (proper : ∀ e, ¬ (g e).OfMisuse) :
    Blameless (y.mapError g) := by
  cases y with
  | error e => exact error (proper e)
  | ok a => exact ok a

theorem mapM (hf : ∀ a, Blameless (f a)) (items : List α) : Blameless (items.mapM f) := by
  induction items with
  | nil => exact ok []
  | cons a rest ih =>
    rw [List.mapM_cons]
    exact bind (hf a) fun b => bind ih fun bs => ok (b :: bs)

theorem optional (hf : ∀ a, Blameless (f a)) (found : Option α) :
    Blameless (Draft.optional f found) := by
  cases found with
  | none => exact ok none
  | some a => exact map (hf a) some

end Blameless

namespace Flow

variable {f : Flow}

theorem checkTarget_blameless (place target : String) : Blameless (f.checkTarget place target) := by
  unfold checkTarget
  split
  · exact .ok ()
  · exact .error not_false

theorem checkTargets_blameless (place : String) (targets : List String) :
    Blameless (f.checkTargets place targets) := by
  induction targets with
  | nil => exact .ok ()
  | cons target rest ih =>
    unfold checkTargets
    split
    · rename_i failed
      exact (checkTarget_blameless place target).of_eq failed
    · exact ih

theorem checkStates_blameless (states : List State) : Blameless (f.checkStates states) := by
  induction states with
  | nil => exact .ok ()
  | cons s rest ih =>
    unfold checkStates
    split
    · rename_i failed
      exact (checkTargets_blameless _ _).of_eq failed
    · exact ih

theorem validate_blameless : Blameless f.validate := by
  unfold validate
  split
  · exact .error not_false
  · split
    · exact .error not_false
    · split
      · rename_i failed
        exact (checkStates_blameless _).of_eq failed
      · exact checkTargets_blameless _ _

end Flow

namespace Draft

variable {α : Type} {d : Draft}

theorem expression_blameless (source : String) : Blameless (expression source) :=
  .mapError fun _ => not_false

theorem template_blameless (source : String) : Blameless (template source) :=
  .mapError fun _ => not_false

theorem conversion_blameless (type : String) : Blameless (conversion type) := by
  unfold conversion
  split
  · exact .ok type
  · exact .error not_false

theorem criteria_blameless (on : Option String) : Blameless (criteria on) := by
  unfold criteria
  split
  · exact .ok _
  · split
    · exact .map (expression_blameless _) _
    · split <;> exact .ok _

theorem target_blameless (destination : Option String) : Blameless (target destination) := by
  unfold target
  split
  · exact .ok _
  · split
    · exact .map (template_blameless _) _
    · exact .ok _

theorem transition_blameless (on destination : Option String) (guards : List Action)
    (history : History) (attributes : Attributes) :
    Blameless (transition on destination guards history attributes) :=
  .bind (criteria_blameless on) fun _ => .bind (target_blameless destination) fun _ => .ok _

theorem mapping_blameless (source target : String) (type : Option String) (required : Bool) :
    Blameless (mapping source target type required) :=
  .bind (expression_blameless source) fun _ => .bind (expression_blameless target) fun _ =>
    .bind (.optional conversion_blameless type) fun _ => .ok _

theorem action_blameless (name : String) : Blameless (d.action name) := by
  unfold action Toolbox.action
  split
  · exact .ok _
  · exact .error not_false

theorem viewFactory_blameless (view : String) : Blameless (d.viewFactory view) :=
  .map (template_blameless view) _

theorem addState_blameless (frame : StateFrame) (kind : StateKind) :
    Blameless (d.addState frame kind) := by
  unfold addState
  dsimp only
  split
  · exact .ok _
  · rename_i failed
    unfold Flow.addState at failed
    split at failed <;> cases failed
    exact .error not_false

theorem branch_blameless (b : String × String) : Blameless (branch b) :=
  .bind (expression_blameless b.1) fun _ => .bind (target_blameless _) fun _ => .ok _

theorem subflowRef_blameless (flow : String) : Blameless (subflowRef flow) := by
  unfold subflowRef
  split
  · exact .map (template_blameless flow) _
  · exact .ok _

theorem change_blameless {found : Except BuildError α} (blameless : Blameless found)
    (f : Draft → α → Draft) : Blameless (d.change found f).1 := by
  unfold change
  split
  · exact blameless.of_eq rfl
  · exact .ok ()

theorem addAll_blameless {add : Draft → α → Except BuildError Draft}
    (blameless : ∀ d a, Blameless (add d a)) (items : List α) (d : Draft) :
    Blameless (addAll add items d).1 := by
  induction items generalizing d with
  | nil => exact .ok ()
  | cons a rest ih =>
    unfold addAll
    split
    · rename_i failed
      exact (blameless d a).of_eq failed
    · exact ih _

end Draft

namespace FromModel

variable {d : Draft}

theorem action_blameless (m : ActionModel) : Blameless (action d m) := by
  cases m with
  | named name => exact Draft.action_blameless name
  | bean name => exact Draft.action_blameless name
  | evaluate source result type =>
    exact .bind (Draft.expression_blameless source) fun _ =>
      .bind (.optional Draft.expression_blameless result) fun _ =>
        .bind (.optional Draft.conversion_blameless type) fun _ => .ok _
  | set target value type =>
    exact .bind (Draft.expression_blameless target) fun _ =>
      .bind (Draft.expression_blameless value) fun _ =>
        .bind (.optional Draft.conversion_blameless type) fun _ => .ok _

theorem actions_blameless (models : List ActionModel) : Blameless (actions d models) :=
  .mapM action_blameless models

theorem initialised_blameless (m : VariableModel) : Blameless (initialised m) := by
  unfold initialised
  split
  · exact .map (Draft.expression_blameless _) _
  · exact .ok _

theorem mapper_blameless (direction : Direction) (models : List MappingModel) :
    Blameless (mapper direction models) := by
  have one : ∀ m, Blameless (mapping direction m) := by
    intro m
    cases direction <;> exact Draft.mapping_blameless ..
  unfold mapper
  split
  · exact .ok none
  · exact .map (.mapM one models) some

theorem transitions_blameless (models : List TransitionModel) : Blameless (transitions d models) :=
  have one (t : TransitionModel) : Blameless (transition d t) :=
    .bind (actions_blameless t.actions) fun _ => Draft.transition_blameless ..
  .mapM one _

theorem addKind_blameless (frame : StateFrame) (m : StateKindModel) :
    Blameless (addKind d frame m) := by
  cases m with
  | view view redirect popup vars onRender models =>
    refine .bind (actions_blameless onRender) fun _ =>
      .bind (.mapM initialised_blameless vars) fun _ =>
      .bind (transitions_blameless models) fun _ => ?_
    exact .bind (Draft.viewFactory_blameless _) fun _ => Draft.addState_blameless ..
  | action models transitionModels =>
    exact .bind (actions_blameless models) fun _ =>
      .bind (transitions_blameless transitionModels) fun _ => Draft.addState_blameless ..
  | decision branches =>
    simp only [addKind]
    split
    · exact .error not_false
    · refine .bind (.mapM Draft.branch_blameless _) fun _ => ?_
      refine .bind (.optional (fun _ => ?_) _) fun _ => Draft.addState_blameless ..
      exact Draft.transition_blameless ..
  | subflow flow inputs outputs models =>
    refine .bind (mapper_blameless _ inputs) fun _ => .bind (mapper_blameless _ outputs) fun _ =>
      .bind (transitions_blameless models) fun _ => ?_
    exact .bind (Draft.subflowRef_blameless flow) fun _ => Draft.addState_blameless ..
  | final view outputs =>
    refine .bind (mapper_blameless _ outputs) fun _ => ?_
    exact .bind (.optional Draft.viewFactory_blameless view) fun _ => Draft.addState_blameless ..

theorem addState_blameless (d : Draft) (m : StateModel) : Blameless (addState d m) :=
  .bind (actions_blameless m.onEntry) fun _ => .bind (actions_blameless m.onExit) fun _ =>
    addKind_blameless _ m.kind

/-- Whatever is wrong with a model, no phase blames it on the order of the phases. -/
theorem program_blameless (m : FlowModel) (phase : Phase) (d : Draft) :
    Blameless (program m phase d).1 := by
  cases phase with
  | vars => exact Draft.addAll_blameless (fun _ v => .map (initialised_blameless v) _) m.vars d
  | inputMapper => exact Draft.change_blameless (mapper_blameless _ m.inputs) _
  | startActions => exact Draft.change_blameless (actions_blameless m.onStart) _
  | states =>
    have added : Blameless (Draft.addAll addState m.states d).1 :=
      Draft.addAll_blameless addState_blameless m.states d
    unfold program addStates
    dsimp only
    split
    · rename_i failed
      rw [failed] at added
      exact added
    · exact .ok ()
  | globalTransitions => exact Draft.change_blameless (transitions_blameless m.globalTransitions) _
  | endActions => exact Draft.change_blameless (actions_blameless m.onEnd) _
  | outputMapper => exact Draft.change_blameless (mapper_blameless _ m.outputs) _
  | exceptionHandlers | start | getFlow => exact .ok ()

end FromModel

theorem FlowModel.ofFile_blameless (path : String) {content : Except BuildError String}
    (blameless : Blameless content) : Blameless (FlowModel.ofFile path content) := by
  unfold FlowModel.ofFile
  split
  · exact .error not_false
  · split
    · exact blameless.of_eq rfl
    · unfold FlowModel.ofText
      split
      · exact .ok _
      · exact .error not_false

/-- The error is the source's own: there is nothing to build from, or its program fails. -/
def FlowSource.Gives (source : FlowSource) (context : BuildContext) (e : BuildError) : Prop :=
  source context = .error e ∨ ∃ program attributes,
    source context = .ok (program, attributes) ∧
      ∃ phase ∈ Phase.filling, ∃ d, (program phase d).1 = .error e

theorem Program.complete_error {program : Program} {phases : List Phase} {d : Draft}
    {e : BuildError} (failed : Program.complete program phases d = .error e) :
    ∃ phase ∈ phases, ∃ d, (program phase d).1 = .error e := by
  induction phases generalizing d with
  | nil => cases failed
  | cons phase rest ih =>
    unfold Program.complete at failed
    split at failed
    · rename_i stopped
      cases failed
      exact ⟨phase, List.mem_cons_self, d, congrArg Prod.fst stopped⟩
    · obtain ⟨later, mem, found⟩ := ih failed
      exact ⟨later, List.mem_cons_of_mem _ mem, found⟩

/-! ## Attempts -/

section

variable {source : FlowSource} {context : BuildContext} {e : BuildError}

/-- A complaint about misuse is never the builder's. -/
theorem gives_of_misuse (failed : assembleFlow source context = .error e) (misuse : e.OfMisuse) :
    source.Gives context e := by
  rw [assembleFlow_eq, FlowSource.assembly] at failed
  split at failed
  · rename_i undelivered
    cases failed
    exact .inl undelivered
  · rename_i program attributes delivered
    split at failed
    · rename_i stopped
      cases failed
      exact .inr ⟨program, attributes, delivered, Program.complete_error stopped⟩
    · rename_i d _
      have blameless : Blameless (d.flow.validate.map fun _ => d.flow) :=
        Flow.validate_blameless.map _
      exact absurd misuse (blameless.proper e failed)

theorem delivered_of_misuse {delivered : Except BuildError FlowModel}
    (failed : assembleFlow (.ofModel delivered) context = .error e) (misuse : e.OfMisuse) :
    delivered = .error e := by
  have gives : (FlowSource.ofModel delivered).Gives context e := gives_of_misuse failed misuse
  unfold FlowSource.Gives FlowSource.ofModel at gives
  rcases delivered with e' | m
  · rcases gives with undelivered | ⟨program, attributes, built, -⟩
    · cases undelivered
      rfl
    · cases built
  · rcases gives with undelivered | ⟨program, attributes, built, phase, -, d, stopped⟩
    · cases undelivered
    · cases built
      exact absurd misuse ((FromModel.program_blameless m phase d).proper e stopped)

end

/-- What an assembler gives time after time, where its builder builds from each source in turn. -/
def attempts (context : BuildContext) : List FlowSource → Builder → List (Except BuildError Flow)
  | [], _ => []
  | source :: rest, b =>
    let (result, b) := FlowBuilder.assemble context { b with source := source }
    result :: attempts context rest b

theorem attempts_eq (context : BuildContext) (sources : List FlowSource) (b : Builder)
    (ready : b.last = none) :
    attempts context sources b = sources.map fun source => assembleFlow source context := by
  induction sources generalizing b with
  | nil => rfl
  | cons source rest ih =>
    have attempted : FlowBuilder.assemble context { b with source := source } =
        (source.assembly context, Builder.new source) :=
      FlowBuilder.assemble_of_ready { b with source := source } ready
    unfold attempts
    rw [attempted, List.map_cons, assembleFlow_eq]
    exact congrArg _ (ih (Builder.new source) rfl)

/-- A holder loads its file with one assembler for as long as it lives. Since every attempt leaves
the builder as good as new, load after load gives what `load` gives, which is what a new builder
makes of the file as it is then. -/
theorem FileHolder.loads_eq (h : FileHolder) (first : FlowSource) (probes : List Probe) :
    attempts h.context (probes.map fun p => .ofModel (FlowModel.ofFile h.path p.content))
      (.new first) = probes.map h.load := by
  rw [attempts_eq h.context _ (.new first) rfl, List.map_map]
  rfl

/-- **Every attempt starts from scratch.** An attempt leaves a builder as good as new, whatever it
came to. So each of any number of attempts gives what a new builder gives for what is delivered
then, and a complaint about misuse is that of the source: for models, it is the very reason why
there was none, and the file holder gives no such reason unless the disk does. -/
theorem attempts_as_new (context : BuildContext) (first : FlowSource) :
    (∀ b : Builder, (FlowBuilder.assemble context b).2 = .new b.source) ∧
    (∀ sources : List FlowSource,
      List.Forall₂ (fun source result => result = assembleFlow source context ∧
          ∀ e, result = .error e → e.OfMisuse → source.Gives context e)
        sources (attempts context sources (.new first))) ∧
    (∀ delivered : List (Except BuildError FlowModel),
      List.Forall₂ (fun model result => result = assembleFlow (.ofModel model) context ∧
          ∀ e, result = .error e → e.OfMisuse → model = .error e)
        delivered (attempts context (delivered.map .ofModel) (.new first))) ∧
    ∀ path (content : Except BuildError String), Blameless content →
      Blameless (FlowModel.ofFile path content) := by
  refine ⟨fun b => ?_, fun sources => ?_, fun delivered => ?_, fun path content blameless => ?_⟩
  · rw [FlowBuilder.assemble_eq]
  · rw [attempts_eq context sources (.new first) rfl, List.forall₂_map_right_iff]
    exact List.forall₂_same.mpr fun source _ => ⟨rfl, fun e => gives_of_misuse⟩
  · rw [attempts_eq context _ (.new first) rfl, List.map_map, List.forall₂_map_right_iff]
    exact List.forall₂_same.mpr fun model _ => ⟨rfl, fun e => delivered_of_misuse⟩
  · exact FlowModel.ofFile_blameless path blameless

/-- A model of states that all have one name. -/
def namesakes (n : Nat) : FlowModel :=
  { FlowModel.empty with
    states := List.replicate n ⟨"end", .final none [], [], [], [], .empty⟩ }

/-- Too many states, a file that cannot be read, one state, too few, and one again. -/
theorem last_attempt_counts :
    let context : BuildContext := ⟨"trip", .empty, .ofActions []⟩
    let unread := FlowModel.ofFile "trip.json" (.error (.unreadable "gone"))
    let delivered : List (Except BuildError FlowModel) :=
      [.ok (namesakes 2), unread, .ok (namesakes 1), .ok (namesakes 0), .ok (namesakes 1)]
    let results := attempts context (delivered.map .ofModel) (.new (.ofModel unread))
    results.map (fun result => result.toOption.map Flow.stateIds) =
      [none, none, some ["end"], none, some ["end"]] ∧
    List.Forall₂ (fun model result => result = assembleFlow (.ofModel model) context)
      delivered results ∧
    ∀ e, unread = .error e → ¬ e.OfMisuse := by
  intro context unread delivered results
  obtain ⟨-, -, models, files⟩ := attempts_as_new context (.ofModel unread)
  refine ⟨by decide +kernel, (models delivered).imp fun model result fresh => fresh.1, ?_⟩
  have blameless : Blameless (.error (.unreadable "gone") : Except BuildError String) :=
    .error not_false
  exact (files "trip.json" _ blameless).proper

end Parley
