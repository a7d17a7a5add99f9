import Parley.Proofs.Rendering
import Parley.Proofs.Routing
import Parley.Proofs.Targets

/-!
# Parley.Proofs.Resumable

What can be done with an execution after an error. An error tells of itself whether the execution
can go on (`ExecutionError.resumable`), but where the execution stands then depends on where the
error struck.

* `Execution.Refreshable`: the innermost session stands in a view, or it has a handler for
  executions that are out of place.
* `Engine.serve_refresh_illegal_iff`: otherwise asking for its view is an error of that kind.
* `resumable_refreshes_iff`: so it is after every error that is called resumable, and after some of
  them the execution is stranded (`stranded_by_resumable`).
-/

namespace Parley

/-- The error is that the execution is out of place. -/
def Answer.Illegal (a : Answer) : Prop :=
  ∃ reason, a.result = .error (.raised (.illegalState reason))

/-- The session stands in a view, or it has a handler for whatever is out of place. -/
def Session.Refreshable (s : Session Flow) : Prop :=
  (∃ part, s.place.InView part) ∨
    ∃ h ∈ s.handlers, ∀ reason, h.accepts (.illegalState reason) = true

def Execution.Refreshable (x : Execution) : Prop := ∃ s, x.session? = some s ∧ s.Refreshable

theorem Place.inView_iff {p : Place} :
    (∃ part, p.InView part) ↔ p.state?.any State.isView = true := by
  rw [Option.any_eq_true]
  constructor
  · rintro ⟨part, state, transitions, found, kind⟩
    exact ⟨state, found, by simp [State.isView, kind]⟩
  · rintro ⟨state, found, view⟩
    cases kind : state.kind with
    | view part transitions => exact ⟨part, state, transitions, found, kind⟩
    | _ => simp [State.isView, kind] at view

/-- A handler that goes by kinds does not care for the reason. -/
theorem Handler.Routes.accepts_illegal {h : Handler} (routes : h.Routes) (reason other : String) :
    h.accepts (.illegalState reason) = h.accepts (.illegalState other) := by
  obtain ⟨patterns, state, rfl⟩ := routes
  rfl

namespace Engine

variable {K : Flow → Prop} {directory : Directory} {s : Session Flow} {rest : List Place}
  {r : Request}

/-- There is no view to render where the session does not stand in one. -/
theorem outcome_refresh_away (top : r.execution.session? = some s)
    (away : ∀ part, ¬ s.place.InView part) :
    ∃ reason, outcome refresh r = (.error (.raised (.illegalState reason)), r) := by
  have looked : outcome get r = (.ok r, r) := rfl
  cases here : s.state with
  | none =>
    refine ⟨s!"flow '{s.flow.id}' has not entered a state", ?_⟩
    simp only [refresh, position, outcome_bind, looked, top, here]
    rfl
  | some id =>
    refine ⟨s!"flow '{s.flow.id}' is not paused in a view state", ?_⟩
    have placed : outcome position r = (.ok (s.flow, id), r) := by
      simp only [position, outcome_bind, looked, top, here]
      rfl
    rw [refresh, outcome_bind, placed]
    cases found : s.flow.state? id with
    | none => simp only [found]; rfl
    | some state =>
      simp only [found]
      cases kind : state.kind with
      | view part transitions =>
        have there : s.place.state? = some state := by
          rw [Place.state?, Session.place, here]
          exact found
        exact (away part ⟨state, transitions, there, kind⟩).elim
      | _ => rfl

/-- Where a handler sends the execution, it comes to rest, or the error is laid to a flow. -/
theorem rerouted_waits (lookup : ∀ id f, directory id = .ok f → K f) (target : String) :
    Ensures (Request.Stands K directory s.place rest)
      (do proceed moveLimit (← reroute s target); pause) (fun _ => Request.Waits K directory)
      (Failed K directory) :=
  .bind (reroute_ready target) fun move => .bind (proceed_rests lookup moveLimit move) fun _ =>
    pause_waits

theorem Failed.not_illegal {stop : Stop} (failed : Failed K directory stop r) (reason : String) :
    stop ≠ .raised (.illegalState reason) := by
  obtain ⟨p, rest, -, blamed⟩ := failed
  intro same
  cases blamed _ same

theorem Ensures.not_illegal {P : Request → Prop} {Q : Unit → Request → Prop} {x : Engine Unit}
    (h : Ensures P x Q (Failed K directory)) (start : P r) (reason : String) :
    (outcome x r).1 ≠ .error (.raised (.illegalState reason)) := by
  have comes := h r start
  rcases came : outcome x r with ⟨stop | done, r'⟩ <;> rw [came] at comes
  · intro same
    cases same
    exact Failed.not_illegal comes reason rfl
  · nofun

/-- A view that is asked for anew is out of place if and only if the session is in no view and has
no handler for that. -/
theorem serve_refresh_illegal_iff (lookup : ∀ id f, directory id = .ok f → K f)
    (routed : ∀ f, K f → f.Routed) (stands : r.Stands K directory s.place rest)
    (top : r.execution.session? = some s) :
    (∃ reason, (outcome (serve refresh) r).1 = .error (.raised (.illegalState reason))) ↔
      ¬ s.Refreshable := by
  by_cases inView : ∃ part, s.place.InView part
  · refine ⟨fun ⟨reason, illegal⟩ => ?_, fun stuck => (stuck (.inl inView)).elim⟩
    obtain ⟨part, inView⟩ := inView
    have ready : Ensures (Request.Stands K directory s.place rest) refresh (Ready K directory)
        (Failed K directory) := by
      refine (resumption_ready lookup none).stops ?_
      rintro stop r (failed | ⟨away, -⟩)
      · exact failed
      · exact (away part inView).elim
    exact ((serve_waits lookup routed ready).not_illegal stands reason illegal).elim
  obtain ⟨reason, refused⟩ := outcome_refresh_away top (not_exists.mp inView)
  have raised : outcome (refresh >>= proceed moveLimit) r =
      (.error (.raised (.illegalState reason)), r) := by
    rw [outcome_bind, refused]
  rw [outcome_serve_raised raised]
  cases found : s.handlers.find? fun h => h.accepts (.illegalState reason) with
  | none =>
    rw [outcome_afterError_unhandled (r := r.told _) top found]
    refine ⟨fun _ => ?_, fun _ => ⟨reason, rfl⟩⟩
    rintro (view | ⟨h, mem, accepts⟩)
    · exact inView view
    · exact List.find?_eq_none.mp found h mem (accepts reason)
  | some h =>
    have routes : h.Routes :=
      handlerFor_routes (routed _ stands.known) ((handlerFor_eq s _).trans found)
    have accepts : h.accepts (.illegalState reason) = true := by
      simpa using List.find?_some found
    have refreshable : s.Refreshable := by
      refine .inr ⟨h, List.mem_of_find?_eq_some found, fun other => ?_⟩
      rwa [routes.accepts_illegal other reason]
    refine ⟨fun ⟨other, illegal⟩ => ?_, fun stuck => (stuck refreshable).elim⟩
    rw [outcome_afterError_handled (r := r.told _) top found] at illegal
    obtain ⟨patterns, target, rfl⟩ := routes
    have moved (c : Context) :
        ((r.told (.exceptionThrown (.illegalState reason))).absorb c).Stands K directory s.place
          rest := stands.touched (.tail (.single (.noticed _ rfl)) (.absorbed c))
    exact ((rerouted_waits lookup target).not_illegal (moved _) other illegal).elim

end Engine

namespace Execution

variable {K : Flow → Prop} {x : Execution} {directory : Directory}

/-- An execution that is under way stands somewhere, with all that is known of its flows. -/
theorem Within.stands (among : x.Within K) (sound : x.stance.Sound) (active : x.status = .active) :
    ∃ p rest, x.stance = .running (p :: rest) ∧ p.Sound ∧ K p.flow ∧ Waiting K rest := by
  obtain ⟨p, rest, running, placed, waiting⟩ := sound.of_active active
  have flows : ∀ q ∈ p :: rest, K q.flow := by
    rw [← places_of_running running]
    intro q mem
    obtain ⟨s, there, rfl⟩ := List.mem_map.mp mem
    exact among.sessions s there
  exact ⟨p, rest, running, placed, flows p List.mem_cons_self,
    fun q mem => ⟨(waiting q mem).1, flows q (List.mem_cons_of_mem _ mem)⟩⟩

theorem refresh_illegal_iff (lookup : directory.Gives K) (routed : ∀ f, K f → f.Routed)
    (among : x.Within K) (sound : x.stance.Sound) (active : x.status = .active)
    (external : External) :
    (x.resume none external directory).Illegal ↔ ¬ x.Refreshable := by
  obtain ⟨p, rest, running, placed, known, waiting⟩ := among.stands sound active
  let refresh : Call := .resume none external directory
  have stands : (refresh.opening x).Stands K directory p rest :=
    ⟨⟨rfl, running⟩, placed, known, waiting⟩
  obtain ⟨s, top, rfl⟩ := stands.session
  have same : x.session? = some s := top
  have refreshable : x.Refreshable ↔ s.Refreshable := by simp [Execution.Refreshable, same]
  rw [refreshable, ← Engine.serve_refresh_illegal_iff lookup routed stands top]
  change (refresh.answer x).Illegal ↔ _
  have admitted : refresh.Admitted x := isActive_of_running running
  rw [Call.answer_of_admitted admitted]
  rfl

/-- An error that is no refusal leaves the execution under way. -/
theorem refresh_after_error_iff (closed : ∀ f, K f → f.Closed) (routed : ∀ f, K f → f.Routed)
    (among : x.Within K) (sound : x.stance.Sound) {event : Option Event} {external : External}
    (current : directory.Gives K) {e : ExecutionError}
    (failed : (x.resume event external directory).result = .error (.raised e))
    (resumable : e.resumable = true) (asking : External) {later : Directory}
    (next : later.Gives K) :
    ¬ ((x.resume event external directory).execution.resume none asking later).Illegal ↔
      (x.resume event external directory).execution.Refreshable := by
  have active : x.isActive = true := by
    by_contra ended
    rw [resume, if_neg ended] at failed
    cases failed
    cases resumable
  have settled : (x.resume event external directory).Settled := resume_settled sound active event
  have resumed := call_excused closed among (.resume event external directory) current
  have illegal := refresh_illegal_iff next routed resumed.1 settled.1 (settled.2 _ failed) asking
  exact (not_congr illegal).trans not_not

end Execution

theorem Flow.OfModel.closed {id : String} {f : Flow} (h : f.OfModel id) : f.Closed := by
  obtain ⟨delivered, context, -, assembled⟩ := h
  exact Builder.assemble_closed assembled

/-- **A view can be asked for after an error if and only if there is one, or a handler for it.** An
execution over flows out of models, after any calls, is resumed and fails, and the error calls it
resumable. When its view is asked for next, the answer is not that the execution is out of place if
and only if the innermost session stands in a view, or has a handler that accepts such errors. -/
theorem resumable_refreshes_iff {id : String} {flow : Flow} (made : flow.OfModel id)
    (listeners : List Listener) {calls : List Call} (models : ∀ c ∈ calls, c.directory.OfModels)
    {event : Option Event} {external : External} {directory : Directory}
    (current : directory.OfModels) {e : ExecutionError}
    (failed : (((Execution.create flow listeners).after calls).resume event external
      directory).result = .error (.raised e)) (resumable : e.resumable = true)
    (asking : External) {later : Directory} (next : later.OfModels) :
    let x :=
      (((Execution.create flow listeners).after calls).resume event external directory).execution
    ¬ (x.resume none asking later).Illegal ↔ x.Refreshable := by
  let K (f : Flow) : Prop := f.Closed ∧ f.Routed
  have gives {directory : Directory} (models : directory.OfModels) : directory.Gives K :=
    fun id f had => ⟨(models id f had).closed, (models id f had).routed.2⟩
  have created : (Execution.create flow listeners).Within K := ⟨⟨made.closed, made.routed.2⟩, nofun⟩
  exact Execution.refresh_after_error_iff (fun _ => And.left) (fun _ => And.right)
    (Execution.after_within (fun _ => And.left) created calls fun c mem => gives (models c mem))
    (Execution.after_sound calls (Execution.create_sound flow listeners)) (gives current) failed
    resumable asking (gives next)

/-! ## Left between two states -/

/-- A form that cannot be filled in without a name. -/
def form : FlowModel :=
  { FlowModel.empty with
    inputs := [⟨"name", none, none, true⟩]
    states := [⟨"fill", .view none false false [] [] [], [], [], [], .empty⟩] }

/-- A desk that hands out the form to somebody without a name. -/
def desk : FlowModel :=
  let onward : TransitionModel := ⟨some "file", none, some "filing", [], none, .empty⟩
  { FlowModel.empty with states := [
      ⟨"open", .view none false false [] [] [onward], [], [], [], .empty⟩,
      ⟨"filing", .subflow "form" [] [] [], [], [], [], .empty⟩] }

/-- The flows that models give, one for each id. -/
def Directory.modelled (model : String → FlowModel) : Directory := fun id =>
  match assembleFlow (.ofModel (.ok (model id))) ⟨id, .empty, .ofActions []⟩ with
  | .ok flow => .ok flow
  | .error cause => .error (.assembly id cause)

theorem Directory.modelled_ofModels (model : String → FlowModel) : (modelled model).OfModels := by
  intro id f had
  unfold modelled at had
  split at had <;> cases had
  rename_i assembled
  exact ⟨_, _, rfl, assembled⟩

def office : Directory := .modelled fun id => if id = "desk" then desk else form

theorem office_ofModels : office.OfModels := Directory.modelled_ofModels _

def counter : Flow := (office "desk").toOption.getD (.blank "desk" .empty)

theorem counter_ofModel : counter.OfModel "desk" := by
  have there : (office "desk").toOption.isSome = true := by decide +kernel
  unfold counter
  rcases had : office "desk" with e | f
  · rw [had] at there
    cases there
  · exact office_ofModels "desk" f had

def morning : Call := .start .empty caller office

/-- What comes of an event at the open desk. -/
def atDesk (event : String) : Answer :=
  ((Execution.create counter []).after [morning]).resume (some ⟨event, .empty⟩) caller office

theorem morning_ofModels : ∀ c ∈ [morning], c.directory.OfModels := by
  intro c mem
  rw [List.mem_singleton.mp mem]
  exact office_ofModels

/-- Nobody at the desk knows about lunch, but it stays open. -/
theorem view_refreshes_after_error :
    (atDesk "lunch").result = .error (.raised (.noMatchingTransition "desk" "open" "lunch")) ∧
      ¬ ((atDesk "lunch").execution.resume none caller office).Illegal := by
  have failed : (atDesk "lunch").result =
      .error (.raised (.noMatchingTransition "desk" "open" "lunch")) := by decide +kernel
  have view : ((atDesk "lunch").execution.session?.any
      fun s => s.place.state?.any State.isView) = true := by decide +kernel
  obtain ⟨s, top, inView⟩ := (Option.any_eq_true ..).mp view
  have refreshable : (atDesk "lunch").execution.Refreshable :=
    ⟨s, top, .inl (Place.inView_iff.mpr inView)⟩
  exact ⟨failed, (resumable_refreshes_iff counter_ofModel [] morning_ofModels office_ofModels failed
    rfl caller office_ofModels).mpr refreshable⟩

/-- The session of the form has begun, and it will never get further. -/
theorem stranded_by_resumable :
    ¬ ∀ (id : String) (flow : Flow), flow.OfModel id → ∀ (listeners : List Listener)
      (calls : List Call), (∀ c ∈ calls, c.directory.OfModels) →
      ∀ (event : Option Event) (external : External) (directory : Directory), directory.OfModels →
      ∀ e : ExecutionError,
        (((Execution.create flow listeners).after calls).resume event external directory).result =
          .error (.raised e) → e.resumable = true →
      ∀ (asking : External) (later : Directory), later.OfModels →
        ¬ ((((Execution.create flow listeners).after calls).resume event external
          directory).execution.resume none asking later).Illegal := by
  intro usable
  have failed : (atDesk "file").result =
      .error (.raised (.mapping "form" [.required "name" "flowScope.name"])) := by decide +kernel
  refine usable "desk" counter counter_ofModel [] [morning] morning_ofModels _ caller office
    office_ofModels _ failed rfl caller office office_ofModels
    ⟨"flow 'form' has not entered a state", ?_⟩
  change ((atDesk "file").execution.resume none caller office).result = _
  decide +kernel

end Parley
