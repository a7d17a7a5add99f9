import Parley.Proofs.Restoring
import Parley.Proofs.Runs

/-!
# Parley.Proofs.Refreshing

Refreshes: an execution that waits in a view is asked for that view once more, without an event. A
view that runs no actions and shows its scopes under a name is made of them again, and all else
stays as it was, so nobody can tell later on how often it was looked at.

* `ViewPart.Plain`: such views. `Engine.outcome_renderView_plain`: they are rendered, and that is
  all.
* `Execution.PausedIn.refresh`: the whole answer to a refresh.
* `refreshes_move_nothing`: any number of them, and what follows.
-/

namespace Parley

/-- A view that runs no actions when it is rendered, and shows its scopes under the name that an
expression gives. -/
structure ViewPart.Plain (part : ViewPart) : Prop where
  actionless : part.renderActions = []
  named : ∃ id, part.factory = .named id

namespace Request

/-- The request once a view is rendered. -/
def showing (view : RenderedView) (r : Request) : Request :=
  { r with execution := { r.execution with view := some view } }

theorem updateSession_same {f : Session Flow → Session Flow} {r : Request} {s : Session Flow}
    (top : r.execution.session? = some s) (same : f s = s) : r.updateSession f = r := by
  obtain ⟨below, stack⟩ := List.head?_eq_some_iff.mp top
  simp only [updateSession, stack, same]
  rw [← stack]

end Request

namespace Engine

variable {r : Request} {part : ViewPart}

theorem outcome_renderView_plain (plain : part.Plain) (flow : Flow) (state : State) (r : Request) :
    ∃ view, outcome (renderView flow state part) r = (.ok .rest, r.showing view) := by
  obtain ⟨id, named⟩ := plain.named
  obtain ⟨view, made⟩ : ∃ view, part.factory r.context = .ok view := by
    rw [named]
    exact ⟨_, rfl⟩
  have idle : outcome (runActions flow (some state) part.renderActions) r = (.ok (), r) := by
    rw [plain.actionless]
    rfl
  have looked : outcome get r = (.ok r, r) := rfl
  refine ⟨view, ?_⟩
  rw [renderView, outcome_bind, idle]
  dsimp only
  rw [outcome_bind, looked]
  simp only [made]
  rfl

/-- A session that is paused already only has the pause told once more. -/
theorem outcome_pause_again {s : Session Flow} (active : r.execution.isActive = true)
    (top : r.execution.session? = some s) (paused : s.status = .paused) :
    outcome pause r = (.ok (), r.told .paused) := by
  have same : (r.updateSession fun s => { s with status := .paused }) = r := by
    refine Request.updateSession_same top ?_
    rw [← paused]
  have looked : outcome get r = (.ok r, r) := rfl
  have updated : outcome (updateSession fun s => { s with status := .paused }) r = (.ok (), r) :=
    congrArg (Prod.mk (Except.ok ())) same
  rw [pause, outcome_bind, looked]
  simp only [active, if_true]
  rw [outcome_bind, updated]
  rfl

end Engine

namespace Execution

variable {x : Execution} {s : Session Flow} {state : State} {part : ViewPart}
  {transitions : List Transition}

theorem PausedIn.outcome_refresh (h : x.PausedIn s state)
    (kind : state.kind = .view part transitions) {r : Request}
    (same : r.execution.session? = some s) :
    Engine.outcome Engine.refresh r = Engine.outcome (Engine.renderView s.flow state part) r := by
  rw [Engine.refresh, Engine.outcome_bind, h.outcome_position same]
  simp only [h.session.2, kind]

/-- A refresh succeeds, it leaves a view and the history policy of a request that takes no
transition, and two notices are all that is written down. -/
theorem PausedIn.refresh (h : x.PausedIn s state) (kind : state.kind = .view part transitions)
    (plain : part.Plain) (external : External) (directory : Directory) :
    ∃ view before after, x.resume none external directory =
      ⟨.ok (), { x with view := some view, history := .preserve },
        [.notice .resuming before, .notice .paused after]⟩ := by
  let c : Call := .resume none external directory
  have admitted : c.Admitted x := h.active
  obtain ⟨view, rendered⟩ := Engine.outcome_renderView_plain plain s.flow state (c.opening x)
  have refreshed : Engine.outcome (c.first x) (c.opening x) =
      (.ok .rest, (c.opening x).showing view) :=
    (h.outcome_refresh kind h.top).trans rendered
  have settled : Engine.outcome (Engine.settle (c.first x)) (c.opening x) =
      (.ok (), (c.opening x).showing view) := by
    rw [Engine.settle, Engine.outcome_tryCatch, Engine.outcome_bind, refreshed]
    rfl
  have paused :=
    Engine.outcome_pause_again (r := (c.opening x).showing view) h.active h.top h.paused
  have answer : x.resume none external directory = c.answer x := rfl
  refine ⟨view, (Request.new { x with history := .preserve } external directory).context,
    ((c.opening x).showing view).context, ?_⟩
  rw [answer, Call.answer_of_admitted admitted, Engine.serve, Engine.outcome_bind, settled]
  dsimp only
  rw [paused]
  rfl

/-- What only the last request has left in an execution does not matter to where it waits. -/
theorem PausedIn.of_bare {y : Execution} (h : x.PausedIn s state) (same : y.bare = x.bare) :
    y.PausedIn s state := by
  have status : y.status = x.status := show y.bare.status = x.bare.status by rw [same]
  have sessions : y.sessions = x.sessions := show y.bare.sessions = x.bare.sessions by rw [same]
  constructor
  · rw [isActive, status]
    exact h.active
  · rw [session?, sessions]
    exact h.top
  · exact h.paused
  · exact h.here
  · exact h.view

end Execution

/-- The call that asks for the view once more. -/
def Call.refresh (request : External × Directory) : Call := .resume none request.1 request.2

/-- By induction on the refreshes: each of them finds the execution as the first one did. -/
theorem Execution.PausedIn.bare_after {x : Execution} {s : Session Flow} {state : State}
    {part : ViewPart} {transitions : List Transition} (h : x.PausedIn s state)
    (kind : state.kind = .view part transitions) (plain : part.Plain)
    (requests : List (External × Directory)) :
    (x.after (requests.map Call.refresh)).bare = x.bare := by
  induction requests generalizing x with
  | nil => rfl
  | cons request rest ih =>
    obtain ⟨view, before, after, answer⟩ := h.refresh kind plain request.1 request.2
    let y := (Call.answer x (.refresh request)).execution
    have same : y.bare = x.bare := by
      have left : y = { x with view := some view, history := .preserve } :=
        congrArg Answer.execution answer
      rw [left]
      rfl
    have later : (y.after (rest.map Call.refresh)).bare = y.bare := ih (h.of_bare same)
    exact later.trans same

/-- **Refreshes move nothing.** An execution is paused in a view that is plain. Whatever requests
without an event come, with whatever parameters, and whatever handlers its flows have, each of them
succeeds and runs nothing at all, snapshot and conversation scope stay as they were, and an event
that comes after them is answered as if it had come at once. -/
theorem refreshes_move_nothing {x : Execution} {s : Session Flow} {state : State} {part : ViewPart}
    {transitions : List Transition} (paused : x.PausedIn s state)
    (kind : state.kind = .view part transitions) (plain : part.Plain)
    (requests : List (External × Directory)) :
    let y := x.after (requests.map Call.refresh)
    (∀ external directory, let a := y.resume none external directory
        a.result = .ok () ∧ a.journal.filterMap Entry.run? = [] ∧
          a.execution.snapshot = x.snapshot ∧ a.execution.conversation = x.conversation) ∧
      y.snapshot = x.snapshot ∧ y.conversation = x.conversation ∧
      ∀ event external directory,
        y.resume (some event) external directory = x.resume (some event) external directory := by
  intro y
  have same : y.bare = x.bare := paused.bare_after kind plain requests
  have waits : y.PausedIn s state := paused.of_bare same
  have snapshot : y.snapshot = x.snapshot := show y.bare.snapshot = x.bare.snapshot by rw [same]
  have conversation : y.conversation = x.conversation :=
    show y.bare.conversation = x.bare.conversation by rw [same]
  refine ⟨fun external directory => ?_, snapshot, conversation, fun event external directory => ?_⟩
  · obtain ⟨view, before, after, answer⟩ := waits.refresh kind plain external directory
    rw [answer]
    exact ⟨rfl, rfl, snapshot, conversation⟩
  · rw [← Execution.resume_bare waits.active, same, Execution.resume_bare paused.active]

/-! ## A lookout -/

/-- The page of a window, whatever is seen through it. -/
def pane : ViewPart :=
  ⟨.named ⟨"pane", .template [.text "pane".toList]⟩, [], [], false, false⟩

theorem pane_plain : pane.Plain := ⟨rfl, _, rfl⟩

/-- A window that notes who comes and who goes. -/
def porthole : State :=
  ⟨"porthole", [fun c => (.ok .success, c.note (.text "comes"))],
    [fun c => (.ok .success, c.note (.text "goes"))], [.transition ["*"] "porthole"], .empty,
    .view pane [⟨.event "turn", [], some (.fixed "porthole"), .preserve, .empty⟩]⟩

def cabin : Flow :=
  { Flow.blank "cabin" .empty with start := some "porthole", states := [porthole] }

def lookout : Execution :=
  { Execution.create cabin [] with
    status := .active, sessions := [⟨cabin, some "porthole", .paused, .empty, .empty⟩] }

/-- However often the lookout looks, the notes are those of who turns away at once. -/
theorem looking_twice_unnoticed :
    let here : Directory := fun _ => .ok cabin
    let looked := lookout.after ([(caller, here), (⟨"other", .empty⟩, here)].map Call.refresh)
    (looked.resume none caller here).result = .ok () ∧ looked.snapshot = lookout.snapshot ∧
      Listener.heard [] (looked.resume (some (.named "turn")) caller here).journal =
        [.text "goes", .text "comes"] := by
  intro here looked
  have paused : lookout.PausedIn ⟨cabin, some "porthole", .paused, .empty, .empty⟩ porthole :=
    ⟨rfl, rfl, rfl, rfl, rfl⟩
  obtain ⟨answers, snapshot, -, next⟩ := refreshes_move_nothing paused rfl pane_plain
    [(caller, here), (⟨"other", .empty⟩, here)]
  refine ⟨(answers caller here).1, snapshot, ?_⟩
  rw [next]
  rfl

end Parley
