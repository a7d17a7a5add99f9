import Parley.Proofs.Closed
import Parley.Proofs.Frames

/-!
# Parley.Proofs.Routing

Where errors go. An error is raised before or after sessions begin and end, but it always tells of
the place where the innermost session stands at that moment; only what is found out of place in the
execution itself is laid to nobody. There it is shown to one handler, and what comes of that is
final.

* `Request.Blames`: an error is laid to the place where the innermost session stands.
  `Engine.proceed_laid`: so it is with every error that a move raises.
* `Engine.outcome_serve_raised`: what is left of a request after its first error.
* `errors_routed_once`: whose handlers are asked, and that nobody is asked again.
-/

namespace Parley

/-- The innermost session stands at the place. -/
structure Request.On (directory : Directory) (p : Place) (r : Request) : Prop where
  directory : r.directory = directory
  top : r.execution.session?.map Session.place = some p

/-- If the error is laid to anybody, then to the flow and the state where the innermost session
stands. -/
def Request.Blames (e : ExecutionError) (r : Request) : Prop :=
  (∀ reason, e ≠ .illegalState reason) →
    ∃ s, r.execution.session? = some s ∧ s.flow.RaisesIn s.state e

namespace Request.On

variable {directory : Directory} {p : Place} {r r' : Request}

theorem session (h : r.On directory p) : ∃ s, r.execution.session? = some s ∧ s.place = p :=
  Option.map_eq_some_iff.mp h.top

theorem of_session {s : Session Flow} (top : r.execution.session? = some s) :
    r.On r.directory s.place := ⟨rfl, by rw [top]; rfl⟩

theorem touched (h : r.On directory p) (touches : Touches r r') : r'.On directory p := by
  have places : r'.execution.sessions.map Session.place = r.execution.sessions.map Session.place :=
    congrArg Stance.places touches.stance_eq
  have top : r'.execution.session?.map Session.place = r.execution.session?.map Session.place := by
    simpa [Execution.session?] using congrArg List.head? places
  exact ⟨touches.directory_eq.trans h.directory, top.trans h.top⟩

/-- The session there enters a state. -/
theorem enter {flow : Flow} {previous : Option String} (h : r.On directory ⟨flow, previous⟩)
    (state : String) :
    (r.updateSession fun s => { s with state := some state }).On directory
      ⟨flow, some state⟩ := by
  obtain ⟨s, top, place⟩ := h.session
  obtain ⟨rest, stack⟩ : ∃ rest, r.execution.sessions = s :: rest :=
    List.head?_eq_some_iff.mp top
  have flow_eq : s.flow = flow := congrArg Place.flow place
  constructor
  · rw [Request.updateSession, stack]
    exact h.directory
  · simp [Execution.session?, Request.updateSession, stack, Session.place, flow_eq]

theorem blames (h : r.On directory p) {e : ExecutionError} (raises : p.flow.RaisesIn p.state e) :
    r.Blames e := by
  intro _
  obtain ⟨s, top, rfl⟩ := h.session
  exact ⟨s, top, raises⟩

end Request.On

namespace Engine

variable {α β : Type}

/-- The error that stops the work blames the place where it stops. -/
def Laid (stop : Stop) (r : Request) : Prop := ∀ e, stop = .raised e → r.Blames e

/-- The move is made where the innermost session stands, and there is a state to enter. -/
def Sited (directory : Directory) : Move → Request → Prop
  | .begin flow _, r => r.directory = directory ∧ flow.hasState flow.startState = true
  | .enter flow target, r => flow.hasState target = true ∧ ∃ state, r.On directory ⟨flow, state⟩
  | .rest, _ => True

theorem Laid.illegal (reason : String) (r : Request) : Laid (.raised (.illegalState reason)) r := by
  intro e same
  cases same
  exact fun other => absurd rfl (other reason)

theorem Laid.of_on {directory : Directory} {p : Place} {e : ExecutionError} {r : Request}
    (on : r.On directory p) (raises : p.flow.RaisesIn p.state e) : Laid (.raised e) r := by
  intro e' same
  cases same
  exact on.blames raises

/-! ## Moves -/

/-- The innermost session stands in the state, or in none as it has just begun. -/
structure Site (directory : Directory) (flow : Flow) (state : Option State) (r : Request) :
    Prop where
  on : r.On directory ⟨flow, state.map State.id⟩
  starts : state = none → flow.hasState flow.startState = true

theorem Site.touched {directory : Directory} {flow : Flow} {state : Option State} {r r' : Request}
    (h : Site directory flow state r) (touch : Touch r r') : Site directory flow state r' :=
  ⟨h.on.touched (.single touch), h.starts⟩

section

variable {directory : Directory}
  (starts : ∀ id f, directory id = .ok f → f.hasState f.startState = true)

include starts

/-- Each move is made where the innermost session stands, and what it raises blames that place. -/
theorem siting : Course .any (Site directory) (fun flow state _ => Site directory flow (some state))
    (fun r => r.directory = directory) (Sited directory) Laid where
  hush h site := site.touched h.quiet.touch
  session flow state site := site.touched (.session _ flow state)
  fails fails site := .of_on site.on fails.1
  astray _ _ _ astray site := .of_on site.on astray.raises
  shows _ _ _ := trivial
  leaves {flow state} t target there := by
    have : Parting fun r r' =>
        Site directory flow (some state) r → Site directory flow (some state) r' :=
      .of_touch fun touch site => site.touched touch
    refine (depart_keeps (fun fails site => .of_on site.on fails.1) t target).gives ?_
    rintro _ r ⟨rfl, site⟩
    exact ⟨there, _, site.on⟩
  calls _ _ had site := ⟨site.on.directory, starts _ _ (site.on.directory ▸ had)⟩
  opens next := ⟨⟨next.1, rfl⟩, fun _ => next.2⟩
  started {flow r} site :=
    ⟨site.starts rfl, none, (site.touched (.noticed (.sessionStarted flow.id) rfl)).on⟩
  enters {flow target state s r} _ _ next := by
    obtain ⟨-, previous, on⟩ := next
    exact ⟨(on.touched (.single (.noticed (.stateEntering state.id) rfl))).enter state.id, nofun⟩
  acts c site := site.touched (.absorbed c)
  stumbles fails site := .of_on site.on fails.1
  entered site := site.touched (.noticed _ rfl)
  misses missing next := by
    have there := next.1
    simp [Flow.hasState, missing] at there
  nobody _ _ _ := .illegal _ _
  finishes _ _ _ := trivial
  returns _ _ site := site.on.directory
  resumes {parent state part transitions r} top here _ had := by
    have place : parent.place = ⟨parent.flow, some state.id⟩ :=
      (Place.of_state? (p := parent.place) here).2
    refine ⟨?_, nofun⟩
    rw [← had, Option.map_some, ← place]
    exact .of_session top
  refuses reason _ _ := .illegal reason _

/-- However many moves it takes. -/
theorem proceed_laid (limit : Nat) (move : Move) :
    Ensures (Sited directory move) (proceed limit move) (fun _ _ => True) Laid :=
  (siting starts).proceeds (fun _ _ _ => nofun) limit move

theorem beginSession_sited {flow : Flow} (has : flow.hasState flow.startState = true)
    (input : Attributes) :
    Ensures (fun r => r.directory = directory) (beginSession flow input) (Sited directory) Laid :=
  (siting starts).opening fun _ had => ⟨⟨had, rfl⟩, fun _ => has⟩

theorem resumption_sited (event : Option Event) :
    Ensures (fun r => r.directory = directory) (Execution.resumption event) (Sited directory)
      Laid := by
  have resuming : Resuming .any (fun r => r.directory = directory) (Sited directory) Laid :=
    { hush := fun h had => (Touches.directory_eq (.single h.quiet.touch)).trans had
      flash := fun had => had
      goes := fun {s state r} top here had => by
        have place : s.place = ⟨s.flow, some state.id⟩ := (Place.of_state? here).2
        refine ⟨Site directory s.flow (some state), ⟨?_, nofun⟩,
          (siting starts).outing s.flow state⟩
        rw [← had, Option.map_some, ← place]
        exact .of_session top
      refuses := fun reason _ _ => .illegal reason _ }
  exact (resuming.resumption event).any

end

end Engine

/-! ## Announcements -/

/-- The error that was announced. -/
def Entry.error? : Entry → Option ExecutionError
  | .notice (.exceptionThrown e) _ => some e
  | _ => none

def Request.errors (r : Request) : List ExecutionError := r.journal.filterMap Entry.error?

/-- No error is announced. -/
def Silent (r r' : Request) : Prop := r'.errors = r.errors

theorem Silent.updateSession (f : Session Flow → Session Flow) (r : Request) :
    Silent r (r.updateSession f) := by
  obtain ⟨sessions, e⟩ := r.updateSession_eq f
  rw [e]
  rfl

theorem Silent.of_append {r r' : Request} {entries : List Entry}
    (journal : r'.journal = r.journal ++ entries) (none : entries.filterMap Entry.error? = []) :
    Silent r r' := by simp [Silent, Request.errors, journal, none]

theorem Quiet.silent {r r' : Request} (h : Quiet r r') : Silent r r' := by
  cases h with
  | noticed hook plain =>
    refine .of_append rfl ?_
    cases hook with
    | exceptionThrown => cases plain
    | _ => rfl
  | absorbed c =>
    exact .of_append rfl (Entry.filterMap_ran (fun _ => rfl) (fun _ _ => rfl) c.notes ..)
  | session f => exact .updateSession f r
  | _ => rfl

instance : Leaving Silent where
  quiet := Quiet.silent
  taken _ _ := .of_append rfl rfl
  fired _ _ := .of_append rfl rfl
  exited _ _ _ _ := .of_append rfl rfl

namespace Engine

theorem accounts_silent : Accounts Silent where
  entering _ _ := .of_append rfl rfl
  entered r _ := .updateSession _ r
  ends flow state part := by
    rw [enterEnd_eq]
    refine .bind (Does.closing flow state part).madeOf fun _ =>
      .bind (.modify (fun _ _ => rfl) fun _ => rfl) fun _ =>
      .bind (.tell fun _ => .of_append rfl rfl) fun _ => .handOver (fun _ _ => rfl) state _ _
  begins flow input := by
    rw [beginSession_eq]
    exact .bind (.tell fun _ => .of_append rfl rfl) fun _ =>
      .bind (.modify (fun _ _ => rfl) fun _ => rfl) fun _ => (Does.furnish flow input).madeOf

theorem errors_of_steps {r r' : Request} (steps : Relation.ReflTransGen Silent r r') :
    r'.errors = r.errors := by
  induction steps with
  | refl => rfl
  | tail _ silent ih => exact silent.trans ih

theorem MadeOf.errors_eq {α : Type} {x : Engine α} (h : MadeOf Silent x) (r : Request) :
    (outcome x r).2.errors = r.errors := errors_of_steps (h.steps r)

/-- What a request comes to from the moment at which an error has been announced. -/
def afterError (e : ExecutionError) : Engine Unit := do
  proceed moveLimit (← consult e)
  pause

theorem outcome_serve_raised {first : Engine Move} {r r' : Request} {e : ExecutionError}
    (raised : outcome (first >>= proceed moveLimit) r = (.error (.raised e), r')) :
    outcome (serve first) r = outcome (afterError e) (r'.told (.exceptionThrown e)) := by
  have tried : outcome (do proceed moveLimit (← first)) r = (.error (.raised e), r') := raised
  have told : outcome (notify (.exceptionThrown e)) r' =
    (.ok (), r'.told (.exceptionThrown e)) := rfl
  rw [serve, settle, outcome_bind, outcome_tryCatch, tried]
  simp only [recover_eq, afterError, outcome_bind, told]
  rcases outcome (consult e) (r'.told (.exceptionThrown e)) with ⟨stop | move, asked⟩ <;> rfl

theorem outcome_serve_endless {first : Engine Move} {r r' : Request}
    (endless : outcome (first >>= proceed moveLimit) r = (.error .endless, r')) :
    outcome (serve first) r = (.error .endless, r') := by
  rw [serve, settle, outcome_bind, outcome_tryCatch, endless]
  rfl

theorem outcome_serve_done {first : Engine Move} {r r' : Request}
    (done : outcome (first >>= proceed moveLimit) r = (.ok (), r')) :
    outcome (serve first) r = outcome pause r' := by
  rw [serve, settle, outcome_bind, outcome_tryCatch, done]

theorem afterError_silent (e : ExecutionError) : MadeOf Silent (afterError e) :=
  .bind (Does.consult e).madeOf fun move => .bind (.proceed accounts_silent moveLimit move)
    fun _ => (Does.pause (E := fun _ => True)).madeOf

end Engine

/-! ## Handlers -/

/-- The handlers of the place where a session stands: of its state, and then of its flow. -/
def Session.handlers (s : Session Flow) : List Handler :=
  ((s.state.bind s.flow.state?).map State.handlers).getD [] ++ s.flow.handlers

namespace Engine

theorem handlerFor_eq (s : Session Flow) (e : ExecutionError) :
    handlerFor s.flow (s.state.bind s.flow.state?) e = s.handlers.find? fun h => h.accepts e := by
  unfold handlerFor Session.handlers Handler.find?
  rw [List.find?_append]
  cases s.state.bind s.flow.state? <;> simp

section

variable {r : Request} {s : Session Flow} {h : Handler} {e : ExecutionError}

theorem outcome_afterError_none (top : r.execution.session? = none) :
    outcome (afterError e) r = (.error (.raised e), r) := by
  have looked : outcome get r = (.ok r, r) := rfl
  simp only [afterError, consult, outcome_bind, looked, top]
  rfl

theorem outcome_afterError_unhandled (top : r.execution.session? = some s)
    (unhandled : s.handlers.find? (fun h => h.accepts e) = none) :
    outcome (afterError e) r = (.error (.raised e), r) := by
  have looked : outcome get r = (.ok r, r) := rfl
  simp only [afterError, consult, outcome_bind, looked, top, handlerFor_eq, unhandled]
  rfl

theorem outcome_afterError_handled (top : r.execution.session? = some s)
    (handles : s.handlers.find? (fun h => h.accepts e) = some h) :
    outcome (afterError e) r = outcome
      (match (h.handle e r.context).1 with
        | .error e => raise e
        | .ok .handled => pause
        | .ok (.enterState target) => do
          proceed moveLimit (← reroute s target)
          pause)
      (r.absorb (h.handle e r.context).2) := by
  have looked : outcome get r = (.ok r, r) := rfl
  have asked : outcome (within (h.handle e)) r =
    (.ok (h.handle e r.context).1, r.absorb (h.handle e r.context).2) := rfl
  simp only [afterError, consult, outcome_bind, looked, top, handlerFor_eq, handles, asked]
  rcases (h.handle e r.context).1 with e | _ | target
  · rfl
  · rfl
  · simp only [obey, outcome_bind]

end

end Engine

theorem Call.opening_errors (x : Execution) (c : Call) : (c.opening x).errors = [] := by
  cases c <;> rfl

theorem Call.opening_directory (x : Execution) (c : Call) :
    (c.opening x).directory = c.directory := by
  cases c <;> rfl

theorem Call.first_silent (x : Execution) (c : Call) : Engine.MadeOf Silent (c.first x) := by
  cases c with
  | start input external directory => exact Engine.accounts_silent.begins x.flow input
  | resume event external directory => exact .resumption (R := Silent) (fun _ => rfl) event

theorem Call.first_sited {x : Execution} (c : Call) (has : x.flow.hasState x.flow.startState = true)
    (starts : ∀ id f, c.directory id = .ok f → f.hasState f.startState = true) :
    Engine.Ensures (fun r => r.directory = c.directory) (c.first x) (Engine.Sited c.directory)
      Engine.Laid := by
  cases c with
  | start input external directory => exact Engine.beginSession_sited starts has input
  | resume event external directory => exact Engine.resumption_sited starts event

/-- **Errors are routed once, to the handlers of the place where they happened.** Where flows are
closed, an error that is no fault of the execution's own is laid to the flow of the innermost
session as it is when the error is raised, and if it tells of a state, that session stands there. It
is announced, and shown to the first handler that accepts it, of those of that state and then those
of that flow. If none does, it is the answer. Otherwise the answer is what the handler raises, or
what comes of going where it sends the execution; errors on that way are announced to nobody. -/
theorem errors_routed_once {x : Execution} {c : Call} (admitted : c.Admitted x)
    (rooted : x.flow.Closed) (closed : ∀ id f, c.directory id = .ok f → f.Closed)
    {e : ExecutionError} {r : Request}
    (raised : Engine.outcome (c.first x >>= Engine.proceed Engine.moveLimit) (c.opening x) =
      (.error (.raised e), r)) :
    let seen := r.told (.exceptionThrown e)
    ((∀ reason, e ≠ .illegalState reason) → ∃ s, r.execution.session? = some s ∧
        e.flow? = some s.flow.id ∧ ∀ id, e.state? = some id → s.state = some id) ∧
      (c.answer x).journal.filterMap Entry.error? = [e] ∧
      (r.execution.session? = none → c.answer x = .ofOutcome (.error (.raised e), seen)) ∧
      ∀ s, r.execution.session? = some s →
        (s.handlers.find? (fun h => h.accepts e) = none →
          c.answer x = .ofOutcome (.error (.raised e), seen)) ∧
        ∀ h, s.handlers.find? (fun h => h.accepts e) = some h →
          let after := seen.absorb (h.handle e seen.context).2
          (∀ e', (h.handle e seen.context).1 = .error e' →
            c.answer x = .ofOutcome (.error (.raised e'), after)) ∧
          ((h.handle e seen.context).1 = .ok .handled →
            c.answer x = .ofOutcome (Engine.outcome Engine.pause after)) ∧
          ∀ target, (h.handle e seen.context).1 = .ok (.enterState target) →
            c.answer x = .ofOutcome (Engine.outcome (do
              Engine.proceed Engine.moveLimit (← Engine.reroute s target)
              Engine.pause) after) ∧
            ∀ stop failed, Engine.outcome (Engine.reroute s target >>=
                Engine.proceed Engine.moveLimit) after = (.error stop, failed) →
              c.answer x = .ofOutcome (.error stop, failed) := by
  intro seen
  have answer : c.answer x = .ofOutcome (Engine.outcome (Engine.afterError e) seen) := by
    rw [Call.answer_of_admitted admitted, Engine.outcome_serve_raised raised]
  refine ⟨?_, ?_, fun top => ?_, fun s top => ⟨fun unhandled => ?_, fun h handles => ?_⟩⟩
  · have starts : ∀ id f, c.directory id = .ok f → f.hasState f.startState = true :=
      fun id f had => (closed id f had).start
    have processed := Engine.Ensures.bind (c.first_sited rooted.start starts)
      (fun move => Engine.proceed_laid starts Engine.moveLimit move) (c.opening x)
      (c.opening_directory x)
    rw [raised] at processed
    intro other
    obtain ⟨s, top, flow, state⟩ := processed e rfl other
    exact ⟨s, top, flow, state⟩
  · have processed : r.errors = [] := by
      have silent : Engine.MadeOf Silent (c.first x >>= Engine.proceed Engine.moveLimit) :=
        .bind (c.first_silent x) fun move => .proceed Engine.accounts_silent Engine.moveLimit move
      have same := silent.errors_eq (c.opening x)
      rwa [raised, c.opening_errors x] at same
    rw [answer]
    have announced := (Engine.afterError_silent e).errors_eq seen
    have once : seen.errors = r.errors ++ [e] := List.filterMap_append
    rw [processed] at once
    exact announced.trans once
  · rw [answer, Engine.outcome_afterError_none (r := seen) top]
  · rw [answer, Engine.outcome_afterError_unhandled (r := seen) top unhandled]
  · have handled := Engine.outcome_afterError_handled (r := seen) top handles
    rw [answer, handled]
    refine ⟨fun e' gave => ?_, fun gave => ?_, fun target gave => ⟨?_, fun stop failed went => ?_⟩⟩
    all_goals rw [gave]
    · rfl
    · -- What fails on the way fails the whole.
      have way : (do Engine.proceed Engine.moveLimit (← Engine.reroute s target); Engine.pause) =
        (Engine.reroute s target >>= Engine.proceed Engine.moveLimit) >>= fun _ => Engine.pause :=
          (bind_assoc ..).symm
      change Answer.ofOutcome (Engine.outcome (do
        Engine.proceed Engine.moveLimit (← Engine.reroute s target); Engine.pause) _) = _
      rw [way, Engine.outcome_bind, went]

/-! ## Spilt milk -/

def spilt : ExecutionError := .actionExecution "kitchen" (some "pour") ⟨"spill", "milk"⟩

def pouring : State :=
  ⟨"pour", [], [], [.transition ["spill"] "mop"], .empty,
    .action [fun c => (.error ⟨"spill", "milk"⟩, c)] []⟩

/-- A state with a handler of its own, in a flow that has one for everything. -/
def kitchen : Flow :=
  { Flow.blank "kitchen" .empty with
    start := some "pour", states := [pouring, .waiting "mop" []]
    handlers := [.transition ["*"] "pour"] }

def cook : Call := .start .empty caller fun _ => .ok kitchen

theorem kitchen_closed : kitchen.Closed := Flow.validate_eq_ok_iff.mp rfl

theorem spill_routed_to_handler :
    (cook.answer (.create kitchen [])).result = .ok () ∧
      (cook.answer (.create kitchen [])).execution.state? = some "mop" ∧
      (cook.answer (.create kitchen [])).journal.filterMap Entry.error? = [spilt] := by
  have closed : ∀ id f, cook.directory id = .ok f → f.Closed := by
    rintro id f ⟨⟩
    exact kitchen_closed
  obtain ⟨blamed, announced, -, routed⟩ := errors_routed_once (x := .create kitchen []) (c := cook)
    (e := spilt) rfl kitchen_closed closed rfl
  obtain ⟨s, top, -, -⟩ := blamed nofun
  cases top
  obtain ⟨-, handled⟩ := routed _ rfl
  obtain ⟨-, -, sent⟩ := handled (.transition ["spill"] "mop") rfl
  obtain ⟨answer, -⟩ := sent "mop" rfl
  exact ⟨by rw [answer]; rfl, by rw [answer]; rfl, announced⟩

end Parley
