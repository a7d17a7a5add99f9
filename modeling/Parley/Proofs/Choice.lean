import Parley.Proofs.Handover
import Parley.Proofs.Runs

/-!
# Parley.Proofs.Choice

Which transition is taken. Of those that a state and its flow have, the first whose criteria hold is
chosen, once and for all: if one of its guards does not let it pass, no other one is tried. An event
that arrives in a view leads to one such choice, and an action state comes to one after each of its
actions until something is found.

* `Transition.IsFirst`: the choice.
* `Engine.executeTransition_cases`: its guards let it pass, or they do up to one that does not.
* `first_match_wins`: what an event comes to in a view.
* `Fruitless`: the search of an action state as long as it finds nothing.
* `shortest_prefix_runs`: what an action state comes to.
-/

namespace Parley

/-! ## The first whose criteria hold -/

/-- Of these transitions it is the first whose criteria hold. -/
def Transition.IsFirst (t : Transition) (ways : List Transition) (c : Context) : Prop :=
  ∃ before after, ways = before ++ t :: after ∧ t.criteria.holds c = true ∧
    ∀ u ∈ before, u.criteria.holds c = false

theorem Transition.IsFirst.mem {t : Transition} {ways : List Transition} {c : Context}
    (h : t.IsFirst ways c) : t ∈ ways := by
  obtain ⟨before, after, rfl, -⟩ := h
  exact List.mem_append_right _ List.mem_cons_self

/-- The criteria of none of these transitions hold. -/
def NoneHolds (ways : List Transition) (c : Context) : Prop :=
  ∀ u ∈ ways, u.criteria.holds c = false

namespace Engine

variable {flow : Flow} {state : State} {c : Context} {t : Transition}

theorem findTransition_eq_some_iff :
    findTransition flow state c = some t ↔
      t.IsFirst (state.transitions ++ flow.globalTransitions) c := by
  rw [findTransition, List.find?_eq_some_iff_append]
  constructor
  · rintro ⟨holds, before, after, ways, skipped⟩
    exact ⟨before, after, ways, holds, fun u mem => by simpa using skipped u mem⟩
  · rintro ⟨before, after, ways, holds, skipped⟩
    exact ⟨holds, before, after, ways, fun u mem => by simpa using skipped u mem⟩

theorem findTransition_eq_none_iff :
    findTransition flow state c = none ↔
      NoneHolds (state.transitions ++ flow.globalTransitions) c := by
  rw [findTransition, List.find?_eq_none]
  exact forall₂_congr fun u _ => by simp

end Engine

/-! ## What criteria look at -/

/-- Expressions see of a context its scopes, the event, the parameters and the state. -/
theorem Context.property?_congr {c d : Context} (scopes : c.scope? = d.scope?)
    (event : c.event = d.event) (parameters : c.parameters = d.parameters)
    (state : c.state? = d.state?) : c.property? = d.property? := by
  have holder : c.holder? = d.holder? := by
    funext name
    simp only [holder?, scopes]
  have searched : c.searched? = d.searched? := by
    funext first rest
    simp only [searched?, holder, scopes]
  funext path
  cases path with
  | nil => rfl
  | cons first rest => simp only [property?, scopes, event, parameters, state, searched]

theorem Criteria.holds_congr {c d : Context} (same : c.property? = d.property?)
    (event : c.event = d.event) (k : Criteria) : k.holds c = k.holds d := by
  have sees : (Properties.property? c : Path → Option Value) = Properties.property? d := same
  cases k with
  | event id => simp only [holds, event]
  | condition expression => simp only [holds, Expression.eval, sees]
  | anyEvent => rfl
  | always => rfl

/-- The request with the innermost session active. -/
def Request.activated (r : Request) : Request :=
  r.updateSession fun s => { s with status := .active }

/-- Whether a session is paused or active is not for criteria to see. -/
theorem Criteria.holds_activated (k : Criteria) (r : Request) :
    k.holds r.activated.context = k.holds r.context := by
  have event : r.activated.context.event = r.context.event := by
    obtain ⟨sessions, e⟩ := r.updateSession_eq fun s => { s with status := .active }
    rw [Request.activated, e]
    rfl
  refine holds_congr (Context.property?_congr ?_ event ?_ ?_) event k
  all_goals
    unfold Request.activated Request.updateSession
    cases stack : r.execution.sessions with
    | nil => rfl
    | cons s below => ?_
  · funext scope
    cases scope <;> simp [Context.scope?, Context.session?, Request.context, stack, Session.map]
  · rfl
  · simp [Context.state?, Context.session?, Request.context, stack, Session.map]

/-! ## Guards -/

/-- The guards let a transition pass one after the other: each signals success, yes or true. -/
inductive Cleared : List Action → Request → Request → Prop where
  | nil {r : Request} : Cleared [] r r
  | cons {guard : Action} {rest : List Action} {r passed : Request} {event : Event}
      (signals : (guard r.context).1 = .ok event) (success : event.isSuccess = true)
      (later : Cleared rest (r.acted guard) passed) : Cleared (guard :: rest) r passed

namespace Cleared

variable {guards : List Action} {r passed : Request}

theorem ran (h : Cleared guards r passed) : Ran guards r passed := by
  induction h with
  | nil => exact .nothing rfl
  | cons _ _ _ ih => exact (Ran.acted _ _).append ih

theorem event_eq (h : Cleared guards r passed) : passed.event = r.event := by
  induction h with
  | nil => rfl
  | cons _ _ _ ih => exact ih

theorem stance_eq (h : Cleared guards r passed) : passed.execution.stance = r.execution.stance := by
  induction h with
  | nil => rfl
  | cons _ _ _ ih => rw [ih, Request.stance_acted]

end Cleared

/-- The guards before this one let a transition pass, and this one does not: it fails, or it signals
something else. -/
structure HeldUp (guards front : List Action) (guard : Action) (r before : Request) : Prop where
  split : ∃ rest, guards = front ++ guard :: rest
  passes : Cleared front r before
  refuses : ∀ event, (guard before.context).1 = .ok event → event.isSuccess = false

namespace HeldUp

variable {guards front : List Action} {guard : Action} {r before : Request}

theorem here (rest : List Action)
    (refuses : ∀ event, (guard r.context).1 = .ok event → event.isSuccess = false) :
    HeldUp (guard :: rest) [] guard r r := ⟨⟨rest, rfl⟩, .nil, refuses⟩

theorem later {first : Action} {event : Event} (signals : (first r.context).1 = .ok event)
    (success : event.isSuccess = true) (h : HeldUp guards front guard (r.acted first) before) :
    HeldUp (first :: guards) (first :: front) guard r before := by
  obtain ⟨⟨rest, split⟩, passes, refuses⟩ := h
  exact ⟨⟨rest, congrArg (first :: ·) split⟩, .cons signals success passes, refuses⟩

theorem ran (h : HeldUp guards front guard r before) :
    Ran (front ++ [guard]) r (before.acted guard) := h.passes.ran.append (.acted guard before)

theorem stance_eq (h : HeldUp guards front guard r before) :
    (before.acted guard).execution.stance = r.execution.stance := by
  rw [Request.stance_acted, h.passes.stance_eq]

end HeldUp

namespace Engine

/-- All guards pass, or those before one that does not. By induction on the guards. -/
theorem runGuards_cases (flow : Flow) (state : State) (guards : List Action) (r : Request) :
    (∃ passed, Cleared guards r passed ∧
        outcome (runGuards flow state guards) r = (.ok true, passed)) ∨
      ∃ front guard before, HeldUp guards front guard r before ∧
        (∀ cause, (guard before.context).1 = .error cause →
          outcome (runGuards flow state guards) r =
            (.error (.raised (.actionExecution flow.id (some state.id) cause)),
              before.acted guard)) ∧
        ∀ event, (guard before.context).1 = .ok event →
          outcome (runGuards flow state guards) r = (.ok false, before.acted guard) := by
  induction guards generalizing r with
  | nil => exact .inl ⟨r, .nil, rfl⟩
  | cons guard rest ih =>
    cases came : (guard r.context).1 with
    | error cause =>
      refine .inr ⟨[], guard, r, .here rest ?_, ?_, ?_⟩
      all_goals rw [came]
      · exact nofun
      · rintro _ ⟨⟩
        rw [runGuards, outcome_bind, outcome_runAction_error came]
        rfl
      · exact nofun
    | ok event =>
      have first : outcome (runGuards flow state (guard :: rest)) r =
          outcome (if event.isSuccess then runGuards flow state rest else return false)
            (r.acted guard) := by
        rw [runGuards, outcome_bind, outcome_runAction_ok came]
      rw [first]
      cases success : event.isSuccess with
      | false =>
        refine .inr ⟨[], guard, r, .here rest ?_, ?_, fun _ _ => rfl⟩
        all_goals rw [came]
        · rintro _ ⟨⟩
          exact success
        · exact nofun
      | true =>
        rcases ih (r.acted guard) with ⟨passed, passes, done⟩ | ⟨front, last, before, held, stops⟩
        · exact .inl ⟨passed, .cons came success passes, done⟩
        · exact .inr ⟨guard :: front, last, before, held.later came success, stops⟩

/-- A transition that its guards let pass: the way to its target, or the view once more. -/
def carryOut (flow : Flow) (state : State) (t : Transition) : Engine Move :=
  match t.target with
  | none =>
    match state.kind with
    | .view part _ => renderView flow state part
    | _ => raise (.targetStateNotFound flow.id state.id "<none>")
  | some target => follow flow state t target

end Engine

/-- The request once it is told which transition has been chosen. -/
def Request.choosing (state : State) (t : Transition) (r : Request) : Request :=
  Request.told (.transitionExecuting t.criteria.text)
    { r with transition := some (state.id ++ " on " ++ t.criteria.text) }

namespace Engine

variable {flow : Flow} {state : State} {t : Transition}

theorem outcome_executeTransition (flow : Flow) (state : State) (t : Transition) (r : Request) :
    outcome (executeTransition flow state t) r =
      outcome (do passGuards flow state t; carryOut flow state t) (r.choosing state t) := rfl

/-- The choice is carried out if its guards let it pass. Otherwise they were run up to the first one
that does not, and there is an error. -/
theorem executeTransition_cases (flow : Flow) (state : State) (t : Transition) (r : Request) :
    (∃ passed, Cleared t.guards (r.choosing state t) passed ∧
        outcome (executeTransition flow state t) r = outcome (carryOut flow state t) passed) ∨
      ∃ front guard before, HeldUp t.guards front guard (r.choosing state t) before ∧
        (∀ cause, (guard before.context).1 = .error cause →
          outcome (executeTransition flow state t) r =
            (.error (.raised (.actionExecution flow.id (some state.id) cause)),
              before.acted guard)) ∧
        ∀ event, (guard before.context).1 = .ok event →
          outcome (executeTransition flow state t) r =
            (.error (.raised (.transitionVetoed flow.id state.id r.eventName)),
              before.acted guard) := by
  rw [outcome_executeTransition, outcome_bind, passGuards, outcome_bind]
  rcases runGuards_cases flow state t.guards (r.choosing state t) with
    ⟨passed, passes, done⟩ | ⟨front, guard, before, held, fails, vetoes⟩
  · rw [done]
    exact .inl ⟨passed, passes, rfl⟩
  · refine .inr ⟨front, guard, before, held, fun cause came => ?_, fun event came => ?_⟩
    · rw [fails cause came]
    · have named : (before.acted guard).eventName = r.eventName :=
        congrArg (fun event : Option Event => (event.map Event.id).getD "<none>")
          held.passes.event_eq
      rw [vetoes event came, ← named]
      rfl

/-! ## An event in a view -/

theorem outcome_takeTransition_first {r : Request}
    (first : t.IsFirst (state.transitions ++ flow.globalTransitions) r.context) :
    outcome (takeTransition flow state) r = outcome (executeTransition flow state t) r := by
  have found := findTransition_eq_some_iff.mpr first
  have looked : outcome get r = (.ok r, r) := rfl
  rw [takeTransition, outcome_bind, looked]
  simp only [found]

end Engine

/-- The request of the call comes to the error once these actions and nothing else have been run.
Every session stands then where it stood before the call. That is the request in which the handlers
are asked about the error. -/
structure Call.Raises (x : Execution) (c : Call) (actions : List Action) (e : ExecutionError)
    (failed : Request) : Prop where
  raised : Engine.outcome (c.first x >>= Engine.proceed Engine.moveLimit) (c.opening x) =
    (.error (.raised e), failed)
  ran : Ran actions (c.opening x) failed
  still : failed.execution.stance = x.stance
  answer : c.answer x =
    .ofOutcome (Engine.outcome (Engine.afterError e) (failed.told (.exceptionThrown e)))

theorem Call.raises_of_first {x : Execution} {c : Call} {actions : List Action} {e : ExecutionError}
    {failed : Request} (admitted : c.Admitted x)
    (fails : Engine.outcome (c.first x) (c.opening x) = (.error (.raised e), failed))
    (ran : Ran actions (c.opening x) failed) (still : failed.execution.stance = x.stance) :
    c.Raises x actions e failed := by
  have raised : Engine.outcome (c.first x >>= Engine.proceed Engine.moveLimit) (c.opening x) =
      (.error (.raised e), failed) := by
    rw [Engine.outcome_bind, fails]
  refine ⟨raised, ran, still, ?_⟩
  rw [answer_of_admitted admitted, Engine.outcome_serve_raised raised]

namespace Execution.PausedIn

variable {x : Execution} {s : Session Flow} {state : State}

/-- An event that arrives leads to the choice among the ways out of the view. -/
theorem outcome_handleEvent (h : x.PausedIn s state) (event : Event) {r : Request}
    (same : r.execution.session? = some s) :
    Engine.outcome (Engine.handleEvent event) r =
      Engine.outcome (Engine.takeTransition s.flow state)
        (r.clearFlash.signaled event).activated := by
  have cleared : Engine.outcome (modify Request.clearFlash) r = (.ok (), r.clearFlash) := rfl
  have signaled : Engine.outcome (Engine.signal event) r.clearFlash =
    (.ok (), r.clearFlash.signaled event) := rfl
  have stands := h.outcome_position (r := r.clearFlash.signaled event) same
  rw [Engine.handleEvent_eq, Engine.outcome_bind, cleared]
  dsimp only
  rw [Engine.arrive, Engine.outcome_bind, signaled]
  dsimp only
  rw [Engine.outcome_bind, stands]
  simp only [h.session.2]
  rfl

end Execution.PausedIn

/-- **The first match wins, and a veto does not fall through.** An event arrives in a view. If the
criteria of no transition of its state or flow hold right after the event is signaled, that is the
error. Otherwise the first whose criteria hold is the choice: it is carried out if its guards let it
pass one after the other, and nothing but its guards has been run by then. If they do not, they were
run up to the first that fails or signals something else, and nothing else was; no session has
moved; and the error tells which of the two it was. -/
theorem first_match_wins {x : Execution} {s : Session Flow} {state : State}
    (paused : x.PausedIn s state) (event : Event) (external : External) (directory : Directory) :
    let c : Call := .resume (some event) external directory
    let heard := (c.opening x).clearFlash.signaled event
    let ways := state.transitions ++ s.flow.globalTransitions
    (NoneHolds ways heard.context →
        c.Raises x [] (.noMatchingTransition s.flow.id state.id event.id) heard.activated) ∧
      ∀ t : Transition, t.IsFirst ways heard.context →
        let chosen := heard.activated.choosing state t
        (∃ passed, Cleared t.guards chosen passed ∧ Ran t.guards (c.opening x) passed ∧
            passed.execution.stance = x.stance ∧
            Engine.outcome (c.first x) (c.opening x) =
              Engine.outcome (Engine.carryOut s.flow state t) passed) ∨
          ∃ front guard before, HeldUp t.guards front guard chosen before ∧
            (∀ cause, (guard before.context).1 = .error cause →
              c.Raises x (front ++ [guard])
                (.actionExecution s.flow.id (some state.id) cause) (before.acted guard)) ∧
            ∀ answer, (guard before.context).1 = .ok answer →
              c.Raises x (front ++ [guard])
                (.transitionVetoed s.flow.id state.id event.id) (before.acted guard) := by
  intro c heard ways
  have admitted : c.Admitted x := paused.active
  have arrives : Engine.outcome (c.first x) (c.opening x) =
      Engine.outcome (Engine.takeTransition s.flow state) heard.activated :=
    paused.outcome_handleEvent event paused.top
  have quiet : heard.activated.runs = (c.opening x).runs := by
    rw [Request.activated, Request.runs_updateSession, Request.runs_signaled]
    rfl
  have still : heard.activated.execution.stance = x.stance :=
    Execution.places_updateSession _ heard fun _ => rfl
  have named : heard.activated.eventName = event.id := by
    obtain ⟨sessions, e⟩ := heard.updateSession_eq fun s => { s with status := .active }
    rw [Request.activated, e]
    rfl
  constructor
  · intro none
    have unmatched : NoneHolds ways heard.activated.context := by
      intro u mem
      rw [Criteria.holds_activated]
      exact none u mem
    have fails := arrives.trans (Engine.outcome_takeTransition_unmatched unmatched)
    rw [named] at fails
    exact Call.raises_of_first admitted fails (.nothing quiet) still
  · intro t first chosen
    have chooses : t.IsFirst ways heard.activated.context := by
      obtain ⟨before, after, split, holds, skipped⟩ := first
      refine ⟨before, after, split, ?_, fun u mem => ?_⟩
      · rw [Criteria.holds_activated, holds]
      · rw [Criteria.holds_activated, skipped u mem]
    have executes := arrives.trans (Engine.outcome_takeTransition_first chooses)
    have quiet : chosen.runs = (c.opening x).runs := (Request.runs_told _ _).trans quiet
    rcases Engine.executeTransition_cases s.flow state t heard.activated with
      ⟨passed, passes, carried⟩ | ⟨front, guard, before, held, fails, vetoes⟩
    · exact .inl ⟨passed, passes, passes.ran.before quiet, passes.stance_eq.trans still,
        executes.trans carried⟩
    · have ran : Ran (front ++ [guard]) (c.opening x) (before.acted guard) := held.ran.before quiet
      have stood : (before.acted guard).execution.stance = x.stance := held.stance_eq.trans still
      refine .inr ⟨front, guard, before, held, fun cause came => ?_, fun answer came => ?_⟩
      · exact Call.raises_of_first admitted (executes.trans (fails cause came)) ran stood
      · have vetoed := executes.trans (vetoes answer came)
        rw [named] at vetoed
        exact Call.raises_of_first admitted vetoed ran stood

/-! ### A latched gate -/

/-- A guard that says no. -/
def latched : Action := fun c => (.ok (.yesOrNo false), c)

/-- A gate that a push opens unless it is latched; another way out would open in any case. -/
def gate : State :=
  .waiting "gate"
    [⟨.event "push", [latched], some (.fixed "path"), .preserve, .empty⟩,
      ⟨.event "push", [], some (.fixed "path"), .preserve, .empty⟩]

def yard : Flow :=
  { Flow.blank "yard" .empty with start := some "gate", states := [gate, .waiting "path" []] }

def gatekeeper : Execution :=
  { Execution.create yard [] with
    status := .active, sessions := [⟨yard, some "gate", .paused, .empty, .empty⟩] }

/-- The push is for the first way, which is latched, and that is the end of it. -/
theorem vetoed_transition_not_taken :
    let c : Call := .resume (some (.named "push")) caller fun _ => .ok yard
    (∃ failed, c.Raises gatekeeper [latched] (.transitionVetoed "yard" "gate" "push") failed) ∧
      (c.answer gatekeeper).execution.state? = some "gate" := by
  intro c
  have paused : gatekeeper.PausedIn ⟨yard, some "gate", .paused, .empty, .empty⟩ gate :=
    ⟨rfl, rfl, rfl, rfl, rfl⟩
  obtain ⟨-, chosen⟩ := first_match_wins paused (.named "push") caller fun _ => .ok yard
  refine ⟨?_, rfl⟩
  rcases chosen _ ⟨[], _, rfl, rfl, nofun⟩ with
    ⟨passed, passes, -⟩ | ⟨front, guard, before, held, -, vetoed⟩
  · cases passes with
    | cons signals success =>
      cases signals
      exact absurd success (by decide)
  · obtain ⟨⟨rest, split⟩, -, -⟩ := held
    obtain ⟨rfl, rfl⟩ : front = [] ∧ guard = latched := by
      cases front with
      | nil => exact ⟨rfl, (List.cons.inj split).1.symm⟩
      | cons => exact absurd split (by simp)
    exact ⟨_, vetoed _ rfl⟩

/-! ## The search of an action state -/

/-- These actions of a state are run one after the other. Each comes to an event, and once that is
signaled the criteria of no transition hold. The events have these ids. -/
inductive Fruitless (ways : List Transition) :
    List Action → List String → Request → Request → Prop where
  | nil {r : Request} : Fruitless ways [] [] r r
  | cons {action : Action} {rest : List Action} {event : Event} {ids : List String}
      {r before : Request} (comes : (action r.context).1 = .ok event)
      (none : NoneHolds ways ((r.acted action).signaled event).context)
      (later : Fruitless ways rest ids ((r.acted action).signaled event) before) :
      Fruitless ways (action :: rest) (event.id :: ids) r before

theorem Fruitless.ran {ways : List Transition} {done : List Action} {ids : List String}
    {r before : Request} (h : Fruitless ways done ids r before) : Ran done r before := by
  induction h with
  | nil => exact .nothing rfl
  | @cons action rest event ids r before comes none later ih =>
    have acts : Ran [action] r ((r.acted action).signaled event) :=
      (Ran.acted action r).after (Request.runs_signaled _ event)
    exact acts.append ih

theorem Fruitless.length_eq {ways : List Transition} {done : List Action} {ids : List String}
    {r before : Request} (h : Fruitless ways done ids r before) : ids.length = done.length := by
  induction h with
  | nil => rfl
  | cons _ _ _ ih => simpa using ih

namespace Engine

variable {flow : Flow} {state : State}

/-- An action that comes to an event: that leads on, or else the search goes on with the actions
that are left. -/
theorem outcome_runUntilMatch_cons {action : Action} {event : Event} {r : Request}
    (comes : (action r.context).1 = .ok event) (signaled : List String) (rest : List Action) :
    outcome (runUntilMatch flow state signaled (action :: rest)) r =
      outcome
        (match findTransition flow state ((r.acted action).signaled event).context with
          | some t => executeTransition flow state t
          | none => runUntilMatch flow state (signaled ++ [event.id]) rest)
        ((r.acted action).signaled event) := by
  have told : outcome (signal event) (r.acted action) =
    (.ok (), (r.acted action).signaled event) := rfl
  rw [runUntilMatch, outcome_bind, outcome_runAction_ok comes]
  dsimp only
  rw [outcome_bind, told]
  exact outcome_bind get _ _

/-- The search after the ids that it has come to before. By induction on the actions that are left:
either the first of them ends it, or the search goes on from what it has made of the request. -/
theorem runUntilMatch_cases (flow : Flow) (state : State) (signaled : List String)
    (actions : List Action) (r : Request) :
    let ways := state.transitions ++ flow.globalTransitions
    ∃ done ids before, Fruitless ways done ids r before ∧
      ((∃ action rest event t, actions = done ++ action :: rest ∧
          (action before.context).1 = .ok event ∧
          t.IsFirst ways ((before.acted action).signaled event).context ∧
          outcome (runUntilMatch flow state signaled actions) r =
            outcome (executeTransition flow state t) ((before.acted action).signaled event)) ∨
        (∃ action rest cause, actions = done ++ action :: rest ∧
          (action before.context).1 = .error cause ∧
          outcome (runUntilMatch flow state signaled actions) r =
            (.error (.raised (.actionExecution flow.id (some state.id) cause)),
              before.acted action)) ∨
        actions = done ∧ outcome (runUntilMatch flow state signaled actions) r =
          (.error (.raised (.noMatchingActionResult flow.id state.id (signaled ++ ids))),
            before)) := by
  intro ways
  induction actions generalizing signaled r with
  | nil => exact ⟨[], [], r, .nil, .inr (.inr ⟨rfl, by rw [List.append_nil]; rfl⟩)⟩
  | cons action rest ih =>
    cases came : (action r.context).1 with
    | error cause =>
      refine ⟨[], [], r, .nil, .inr (.inl ⟨action, rest, cause, rfl, came, ?_⟩)⟩
      rw [runUntilMatch, outcome_bind, outcome_runAction_error came]
      rfl
    | ok event =>
      rw [outcome_runUntilMatch_cons came]
      cases found : findTransition flow state ((r.acted action).signaled event).context with
      | some t =>
        exact ⟨[], [], r, .nil, .inl ⟨action, rest, event, t, rfl, came,
          findTransition_eq_some_iff.mp found, rfl⟩⟩
      | none =>
        obtain ⟨done, ids, before, fruitless, ends⟩ :=
          ih (signaled ++ [event.id]) ((r.acted action).signaled event)
        refine ⟨action :: done, event.id :: ids, before,
          .cons came (findTransition_eq_none_iff.mp found) fruitless, ?_⟩
        rcases ends with ⟨last, rest', event', t, split, comes, first, goes⟩ |
          ⟨last, rest', cause, split, fails, stops⟩ | ⟨all, stops⟩
        · exact .inl ⟨last, rest', event', t, by rw [split]; rfl, comes, first, goes⟩
        · exact .inr (.inl ⟨last, rest', cause, by rw [split]; rfl, fails, stops⟩)
        · rw [List.append_assoc] at stops
          exact .inr (.inr ⟨by rw [all], stops⟩)

end Engine

/-- **An action state runs the shortest prefix of its actions that leads on.** Whatever the request
is when it comes there, the actions are run one after the other as long as each comes to an event
after which the criteria of no transition hold. Then there is one after whose event some do, and the
first such transition is executed there and then; or there is one that fails, which is the error; or
there are no more actions, and the error lists the events of all of them. Nothing else has been run
by then. -/
theorem shortest_prefix_runs (flow : Flow) {state : State} {actions : List Action}
    {transitions : List Transition} (kind : state.kind = .action actions transitions)
    (r : Request) :
    let ways := transitions ++ flow.globalTransitions
    ∃ done ids before, Fruitless ways done ids r before ∧
      ((∃ action rest event t, actions = done ++ action :: rest ∧
          (action before.context).1 = .ok event ∧
          let found := (before.acted action).signaled event
          t.IsFirst ways found.context ∧ Ran (done ++ [action]) r found ∧
          Engine.outcome (Engine.enterKind flow state) r =
            Engine.outcome (Engine.executeTransition flow state t) found) ∨
        (∃ action rest cause, actions = done ++ action :: rest ∧
          (action before.context).1 = .error cause ∧
          Ran (done ++ [action]) r (before.acted action) ∧
          Engine.outcome (Engine.enterKind flow state) r =
            (.error (.raised (.actionExecution flow.id (some state.id) cause)),
              before.acted action)) ∨
        actions = done ∧ ids.length = actions.length ∧ Ran actions r before ∧
          Engine.outcome (Engine.enterKind flow state) r =
            (.error (.raised (.noMatchingActionResult flow.id state.id ids)), before)) := by
  intro ways
  have own : state.transitions = transitions := by rw [State.transitions, kind]; rfl
  have enters : Engine.enterKind flow state = Engine.runUntilMatch flow state [] actions := by
    simp only [Engine.enterKind, kind]
  obtain ⟨done, ids, before, fruitless, ends⟩ := Engine.runUntilMatch_cases flow state [] actions r
  rw [own] at fruitless ends
  rw [enters]
  refine ⟨done, ids, before, fruitless, ?_⟩
  have ran (action : Action) : Ran (done ++ [action]) r (before.acted action) :=
    fruitless.ran.append (.acted action before)
  rcases ends with ⟨action, rest, event, t, split, comes, first, goes⟩ |
    ⟨action, rest, cause, split, fails, stops⟩ | ⟨rfl, stops⟩
  · exact .inl ⟨action, rest, event, t, split, comes, first,
      (ran action).after (Request.runs_signaled _ _), goes⟩
  · exact .inr (.inl ⟨action, rest, cause, split, fails, ran action, stops⟩)
  · exact .inr (.inr ⟨rfl, fruitless.length_eq, fruitless.ran, stops⟩)

/-! ### A bunch of keys -/

/-- A key is tried; the event tells which one it was. -/
def tryKey (name : String) : Action := fun c => (.ok (.named name), c.note (.text name))

/-- The way out once the iron key was tried. -/
def fitting : Transition := ⟨.event "iron", [], some (.fixed "path"), .preserve, .empty⟩

/-- A lock with three keys to try, of which the second one fits. -/
def padlock : State :=
  ⟨"padlock", [], [], [], .empty,
    .action [tryKey "brass", tryKey "iron", tryKey "gold"] [fitting]⟩

/-- The third key is not tried. -/
theorem second_action_matches :
    let r := Request.new gatekeeper caller fun _ => .ok yard
    ∃ found, Ran [tryKey "brass", tryKey "iron"] r found ∧ found.event = some (.named "iron") ∧
      Engine.outcome (Engine.enterKind yard padlock) r =
        Engine.outcome (Engine.executeTransition yard padlock fitting) found := by
  intro r
  have kind : padlock.kind = .action [tryKey "brass", tryKey "iron", tryKey "gold"] [fitting] := rfl
  obtain ⟨done, ids, before, fruitless, ends⟩ := shortest_prefix_runs yard kind r
  have fit {d : Transition} {c : Context} (first : d.IsFirst [fitting] c) : d = fitting :=
    List.mem_singleton.mp first.mem
  rcases ends with ⟨action, rest, event, t, split, comes, first, ran, goes⟩ |
    ⟨action, rest, cause, split, fails, -⟩ | ⟨rfl, -⟩
  · cases fruitless with
    | nil =>
      -- Brass leads nowhere.
      obtain ⟨rfl, -⟩ := List.cons.inj split
      cases comes
      obtain rfl := fit first
      obtain ⟨-, -, -, holds, -⟩ := first
      exact absurd holds (by decide)
    | cons comes₀ none₀ later =>
      obtain ⟨rfl, tail⟩ := List.cons.inj split
      cases comes₀
      cases later with
      | nil =>
        obtain ⟨rfl, -⟩ := List.cons.inj tail
        cases comes
        obtain rfl := fit first
        exact ⟨_, ran, rfl, goes⟩
      | cons comes₁ none₁ _ =>
        -- Nothing comes after iron.
        obtain ⟨rfl, -⟩ := List.cons.inj tail
        cases comes₁
        exact absurd (none₁ fitting List.mem_cons_self) (by decide)
  · have tried : action ∈ [tryKey "brass", tryKey "iron", tryKey "gold"] := by
      rw [split]
      exact List.mem_append_right _ List.mem_cons_self
    simp only [List.mem_cons, List.not_mem_nil, or_false] at tried
    rcases tried with rfl | rfl | rfl <;> cases fails
  · cases fruitless with
    | cons comes₀ none₀ later =>
      cases comes₀
      cases later with
      | cons comes₁ none₁ _ =>
        cases comes₁
        exact absurd (none₁ fitting List.mem_cons_self) (by decide)

end Parley
