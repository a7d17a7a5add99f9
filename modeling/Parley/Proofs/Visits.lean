import Parley.Proofs.Flash
import Parley.Proofs.Lives

/-!
# Parley.Proofs.Visits

A visit of a view state, and its view scope. While the visit lasts no session begins, ends or enters
a state, and view scope passes along the journal from one request to the next. The exit from the
state empties it, and the next thing told is that a state is being entered.

* `Request.Lingers`: from one moment to a later one the visit has lasted.
* `Request.Left`, `Request.Gone`: the state has been exited, and the next one is being entered.
* `Engine.Heading`: where a move leads that was made in the view.
* `Engine.rest_visits`: what remains of a request during a visit.
-/

namespace Parley

/-- A session begins, ends or enters a state. -/
def Entry.moves : Entry → Bool
  | .notice (.sessionStarting ..) _ => true
  | .notice (.sessionEnded ..) _ => true
  | .notice (.stateEntering _) _ => true
  | _ => false

/-- The entries tell of no session that begins, ends or enters a state. -/
def Unmoved (entries : List Entry) : Prop := ∀ entry ∈ entries, entry.moves = false

theorem Unmoved.nil : Unmoved [] := fun _ mem => absurd mem List.not_mem_nil

theorem Unmoved.append {front rest : List Entry} (h : Unmoved front) (h' : Unmoved rest) :
    Unmoved (front ++ rest) := by
  intro entry mem
  rcases List.mem_append.mp mem with mem | mem
  · exact h entry mem
  · exact h' entry mem

theorem Unmoved.singleton {entry : Entry} (h : entry.moves = false) : Unmoved [entry] := by
  intro other mem
  rwa [List.mem_singleton.mp mem]

/-- What becomes of a visit at a place until a call ends, from when its scope was as given and with
these entries written since. It lasts, and the scope with it, to the end of the call, or until a
state is being entered, when view scope is empty. -/
def Visited (p : Place) (a : Option Attributes) (entries : List Entry) (x : Execution) : Prop :=
  ∃ stay gone b, entries = stay ++ gone ∧ Unmoved stay ∧ Passes .view a stay b ∧
    ((gone = [] ∧ ∃ s, x.session? = some s ∧ s.place = p ∧ b = some s.viewScope) ∨
      ∃ state shown rest, gone = .notice (.stateEntering state) shown :: rest ∧
        shown.scope? .view = some .empty)

namespace Request

/-! ## While the visit lasts -/

def Unmoving (r r' : Request) : Prop :=
  ∃ added, r'.journal = r.journal ++ added ∧ Unmoved added

/-- From one moment to a later one the execution stands where it stood, nothing else was told, and
view scope has passed along. -/
structure Lingers (r r' : Request) : Prop where
  traceable : Traceable .view r r'
  unmoving : Unmoving r r'
  stance : r'.execution.stance = r.execution.stance

/-- The state has been exited, and a state is about to be entered. -/
def Left (start r : Request) : Prop :=
  ∃ stay b, r.journal = start.journal ++ stay ∧ Unmoved stay ∧
    Passes .view (start.context.scope? .view) stay b ∧ r.context.scope? .view = some .empty

/-- A state has been entered after the exit. -/
def Gone (start r : Request) : Prop :=
  ∃ stay b state shown rest,
    r.journal = start.journal ++ (stay ++ .notice (.stateEntering state) shown :: rest) ∧
    Unmoved stay ∧ Passes .view (start.context.scope? .view) stay b ∧
    shown.scope? .view = some .empty

theorem Unmoving.refl (r : Request) : Unmoving r r := ⟨[], (List.append_nil _).symm, .nil⟩

theorem Unmoving.trans {r s r' : Request} (h : Unmoving r s) (h' : Unmoving s r') :
    Unmoving r r' := by
  obtain ⟨added, journal, unmoved⟩ := h
  obtain ⟨added', journal', unmoved'⟩ := h'
  exact ⟨added ++ added', by rw [journal', journal, List.append_assoc], unmoved.append unmoved'⟩

theorem Unmoving.kept {r r' : Request} (journal : r'.journal = r.journal) : Unmoving r r' :=
  ⟨[], by rw [journal, List.append_nil], .nil⟩

namespace Lingers

variable {start r s r' : Request}

theorem refl (r : Request) : Lingers r r := ⟨.refl r, .refl r, rfl⟩

theorem trans (h : Lingers r s) (h' : Lingers s r') : Lingers r r' :=
  ⟨h.traceable.trans h'.traceable, h.unmoving.trans h'.unmoving, h'.stance.trans h.stance⟩

/-- One more entry that tells of no move and shows nothing else. -/
theorem written {entry : Entry} (unread : entry.reading? = none) (unmoved : entry.moves = false)
    (r : Request) : Lingers r { r with journal := r.journal ++ [entry] } :=
  ⟨.written unread rfl rfl, ⟨[entry], rfl, .singleton unmoved⟩, rfl⟩

theorem told {hook : Hook} (unmoved : ∀ shown, (Entry.notice hook shown).moves = false)
    (r : Request) : Lingers r (r.told hook) :=
  ⟨.told hook r, ⟨_, rfl, .singleton (unmoved _)⟩, rfl⟩

theorem take (t : Transition) (r : Request) : Lingers r (r.take t) :=
  ⟨.written rfl rfl rfl, ⟨_, rfl, .singleton rfl⟩, rfl⟩

theorem clearFlash (r : Request) : Lingers r r.clearFlash := ⟨.kept rfl rfl, .kept rfl, rfl⟩

/-- What was written down, with the scope that passed along it. -/
theorem journal (h : Lingers start r) : ∃ stay, r.journal = start.journal ++ stay ∧ Unmoved stay ∧
    Passes .view (start.context.scope? .view) stay (r.context.scope? .view) := by
  obtain ⟨stay, journal, passes⟩ := h.traceable
  obtain ⟨stay', journal', unmoved⟩ := h.unmoving
  obtain rfl : stay = stay' := List.append_cancel_left (journal.symm.trans journal')
  exact ⟨stay, journal, unmoved, passes⟩

end Lingers

end Request

instance : Hushed Request.Lingers where
  hush {r r'} h := by
    refine ⟨Hushed.hush h, ?_, h.quiet.touch.stance_eq⟩
    cases h with
    | noticed hook passing =>
      refine ⟨_, rfl, .singleton ?_⟩
      cases hook <;> first | rfl | cases passing
    | absorbed c =>
      refine ⟨_, rfl, .append (fun entry mem => ?_) (.singleton rfl)⟩
      obtain ⟨value, -, rfl⟩ := List.mem_map.mp mem
      rfl
    | status status =>
      obtain ⟨sessions, e⟩ := r.updateSession_eq fun s => { s with status := status }
      exact .kept (by rw [e])
    | _ => exact .kept rfl

namespace Request

variable {start r : Request}

/-! ## The exit -/

theorem session_of_stance (h : r.execution.stance = start.execution.stance) {s : Session Flow}
    (top : start.execution.session? = some s) :
    ∃ t, r.execution.session? = some t ∧ t.place = s.place := by
  have places : r.execution.sessions.map Session.place =
      start.execution.sessions.map Session.place := congrArg Stance.places h
  have heads := congrArg List.head? places
  rw [List.head?_map, List.head?_map] at heads
  change r.execution.session?.map Session.place =
    start.execution.session?.map Session.place at heads
  rw [top] at heads
  exact Option.map_eq_some_iff.mp heads

theorem Lingers.session (h : Lingers start r) {s : Session Flow}
    (top : start.execution.session? = some s) :
    ∃ t, r.execution.session? = some t ∧ t.place = s.place := session_of_stance h.stance top

theorem scope?_view {s : Session Flow} (top : r.execution.session? = some s) :
    r.context.scope? .view = some s.viewScope := by
  obtain ⟨rest, stack⟩ := List.head?_eq_some_iff.mp top
  simp [context, Context.scope?, Context.session?, stack, Session.map]

theorem Lingers.cleared (h : Lingers start r) {s : Session Flow}
    (top : start.execution.session? = some s) :
    Left start (r.updateSession fun s => { s with viewScope := .empty }) := by
  obtain ⟨stay, journal, unmoved, passes⟩ := h.journal
  obtain ⟨t, top, -⟩ := h.session top
  obtain ⟨rest, stack⟩ := List.head?_eq_some_iff.mp top
  refine ⟨stay, _, ?_, unmoved, passes, ?_⟩
  · rw [updateSession, stack]
    exact journal
  · simp [updateSession, stack, context, Context.scope?, Context.session?, Session.map]

theorem Left.fired (h : Left start r) (t : Transition) : Left start (r.fire t) := by
  obtain ⟨stay, b, journal, unmoved, passes, empty⟩ := h
  refine ⟨stay ++ [.fired t], b, ?_, unmoved.append (.singleton rfl),
    passes.append (.silent rfl .done), empty⟩
  rw [fire, journal, List.append_assoc]

theorem Left.entering (h : Left start r) (state : String) :
    Gone start (r.told (.stateEntering state)) := by
  obtain ⟨stay, b, journal, unmoved, passes, empty⟩ := h
  refine ⟨stay, b, state, r.context, [], ?_, unmoved, passes, empty⟩
  rw [told, journal, List.append_assoc]

theorem Gone.grown (h : Gone start r) {r' : Request} {later : List Entry}
    (journal : r'.journal = r.journal ++ later) : Gone start r' := by
  obtain ⟨stay, b, state, shown, rest, journal', gone⟩ := h
  refine ⟨stay, b, state, shown, rest ++ later, ?_, gone⟩
  simp [journal, journal']

end Request

namespace Engine

variable {α β : Type}

instance {start : Request} :
    Hushed (fun r r' => Request.Lingers start r → Request.Lingers start r') where
  hush step lingers := lingers.trans (Hushed.hush step)

/-- Where a move leads that was made in the view: nowhere, or out of it. -/
def Heading (start : Request) : Move → Request → Prop
  | .begin .., _ => False
  | .enter flow target, r => flow.hasState target = true ∧ start.Left r
  | .rest, r => start.Lingers r

/-- The visit lasts, or the next state has been entered. -/
def Visiting (start r : Request) : Prop := start.Lingers r ∨ start.Gone r

section

variable {start : Request} {session : Session Flow} {flow : Flow} {state : State} {part : ViewPart}
  {transitions : List Transition}

theorem runExits_lingers (position : Nat) (actions : List Action) :
    Ensures start.Lingers (runExits flow state position actions) (fun _ => start.Lingers)
      fun _ => start.Lingers := by
  induction actions generalizing position with
  | nil => exact .pure fun _ lingers => lingers
  | cons action rest ih =>
    refine .bind (Q := fun _ => start.Lingers) ?_ fun _ => ih _
    refine .bind (Does.keeps (.within (E := fun _ => True) action)) fun result =>
      .modify (fun r lingers => lingers.trans (.written rfl rfl r)) ?_
    split
    · exact .pure fun _ lingers => lingers
    · exact .raise fun _ lingers => lingers

theorem exitState_left (top : start.execution.session? = some session)
    (kind : state.kind = .view part transitions) :
    Ensures start.Lingers (exitState flow state) (fun _ => start.Left) fun _ => start.Lingers := by
  have view : state.isView = true := by rw [State.isView, kind]
  refine .bind (runExits_lingers 0 state.exit) fun _ => ?_
  rw [if_pos view]
  exact fun r lingers => lingers.cleared top

/-- In the view the visit lasts, and a transition with a target leads out of it. -/
theorem heading (top : start.execution.session? = some session)
    (kind : state.kind = .view part transitions) :
    Outing .any flow state start.Lingers (Heading start) fun _ => start.Lingers where
  hush h lingers := lingers.trans (Hushed.hush h)
  fails _ lingers := lingers
  astray _ _ _ _ lingers := lingers
  shows _ _ lingers := lingers
  leaves t _ there :=
    .modify (fun r lingers => lingers.trans (.take t r)) (.bind (exitState_left top kind) fun _ =>
      .modify (fun _ left => left.fired t) (.pure fun _ left => ⟨there, left⟩))

theorem renderView_rests :
    Ensures start.Lingers (renderView flow state part)
      (fun move r => move = .rest ∧ start.Lingers r) fun _ => start.Lingers :=
  ((Does.keeps (.renderView flow state part)).and_yields
    (renderView_yields flow state part)).gives fun _ _ ⟨lingers, rests, _⟩ => ⟨rests, lingers⟩

variable (top : start.execution.session? = some session)
  (here : session.place.state? = some state) (kind : state.kind = .view part transitions)
include top here kind

theorem resumption_heading (event : Option Event) :
    Ensures start.Lingers (Execution.resumption event) (Heading start) fun _ => start.Lingers := by
  have resuming : Resuming .any start.Lingers (Heading start) fun _ => start.Lingers :=
    { hush := fun h lingers => lingers.trans (Hushed.hush h)
      flash := fun lingers => lingers.trans (.clearFlash _)
      goes := fun {s current r} at_top stood lingers => by
        obtain ⟨t, found, same⟩ := lingers.session top
        cases found.symm.trans at_top
        rw [same] at stood
        cases stood.symm.trans here
        exact ⟨_, lingers, heading top kind⟩
      refuses := fun _ _ lingers => lingers }
  exact (resuming.resumption event).any

/-- A handler leads out of the view, if it sends the execution to a state that there is. -/
theorem recover_heading (e : ExecutionError) :
    Ensures start.Lingers (recover e) (Heading start) fun _ => start.Lingers := by
  rw [recover_eq]
  refine .modify (fun r lingers => lingers.trans (.told (fun _ => rfl) r))
    (Upon.any (.consult (fun lingers => lingers) fun {r s handler} at_top _ _ lingers => ?_))
  have after : start.Lingers (r.absorb (handler.handle e r.context).2) :=
    lingers.trans (Hushed.hush (.absorbed _))
  refine Ensures.given (P := start.Lingers) ?_ fun _ same => same ▸ after
  refine .obey (fun _ _ _ lingers => lingers) (fun _ _ lingers => lingers) fun target _ => ?_
  refine .reroute (R := start.Left) ?_ (fun there _ left => ⟨there, left⟩)
    fun _ _ lingers => lingers
  obtain ⟨t, found, same⟩ := lingers.session top
  cases found.symm.trans at_top
  have here : s.state.bind s.flow.state? = some state := by
    rw [← same] at here
    exact here
  rw [exitPosition, here]
  exact exitState_left top kind

end

/-! ## Whole requests -/

section

variable {start : Request}

/-- What has gone stays gone. -/
theorem Blind.gone {x : Engine α} (blind : Blind x) :
    Ensures start.Gone x (fun _ => start.Gone) fun _ => start.Gone := by
  intro r gone
  obtain ⟨-, -, later, journal, -⟩ := blind.alike (r := r) rfl
  have gone := gone.grown journal
  split
  · rename_i came
    rwa [came] at gone
  · rename_i came
    rwa [came] at gone

/-- Of a move that leads out of the view, the first thing told is that a state is being entered. -/
theorem enterState_gone {flow : Flow} {target : String} (had : flow.hasState target = true) :
    Ensures start.Left (enterState flow target) (fun _ => start.Gone) fun _ => start.Gone := by
  obtain ⟨state, found⟩ := Flow.state?_of_hasState had
  rw [enterState_eq found]
  exact .modify (fun r left => left.entering state.id)
    (MadeOf.entrance Tracked.accounts flow state).blind.gone

theorem proceed_visits {limit : Nat} {move : Move} (far : limit = 0 → move = .rest) :
    Ensures (Heading start move) (proceed limit move) (fun _ => Visiting start)
      fun _ => Visiting start := by
  cases move with
  | begin flow input => exact fun r => False.elim
  | rest => cases limit <;> exact .pure fun _ => .inl
  | enter flow target =>
    cases limit with
    | zero => cases far rfl
    | succ limit =>
      rintro r ⟨had, left⟩
      have gone : Ensures start.Left (proceed (limit + 1) (.enter flow target))
          (fun _ => start.Gone) fun _ => start.Gone :=
        .bind (enterState_gone had) fun next => (Tracked.proceed limit next).blind.gone
      exact gone.mono (fun _ left => left) (fun _ _ => .inr) (fun _ _ => .inr) r left

theorem pause_visits :
    Ensures (Visiting start) pause (fun _ => Visiting start) fun _ => Visiting start := by
  rintro r (lingers | gone)
  · have paused : Ensures start.Lingers pause (fun _ => start.Lingers) fun _ => start.Lingers := by
      refine .get fun r _ => ?_
      split
      · refine .modify (fun r lingers => lingers.trans (Hushed.hush (.status .paused))) ?_
        exact fun r lingers => lingers.trans (.told (fun _ => rfl) r)
      · exact .pure fun _ lingers => lingers
    exact paused.mono (fun _ h => h) (fun _ _ => .inl) (fun _ _ => .inl) r lingers
  · exact Tracked.pause.blind.gone.mono (fun _ h => h) (fun _ _ => .inr) (fun _ _ => .inr) r gone

/-- What remains of a request when the move that is under way is made in a view. -/
theorem rest_visits {session : Session Flow} {state : State} {part : ViewPart}
    {transitions : List Transition} {m : Remainder}
    (top : start.execution.session? = some session) (here : session.place.state? = some state)
    (kind : state.kind = .view part transitions)
    (made : Ensures start.Lingers m.move
      (fun move r => Heading start move r ∧ (m.limit = 0 → move = .rest)) fun _ => start.Lingers) :
    Ensures start.Lingers m.rest (fun _ => Visiting start) fun _ => Visiting start := by
  refine .bind (.tryCatch (F := fun _ => Visiting start)
    (.bind (made.stops fun _ _ => .inl) fun move r ⟨heading, far⟩ => proceed_visits far r heading)
    fun stop => ?_) fun _ => pause_visits
  split
  · rename_i e _
    -- The error is of the view, or it comes after the visit.
    rintro r (lingers | gone)
    · have on : Ensures start.Lingers (recover e >>= proceed moveLimit) (fun _ => Visiting start)
          fun _ => Visiting start :=
        .bind ((recover_heading top here kind e).stops fun _ _ => .inl) fun next =>
          proceed_visits nofun
      exact on r lingers
    · have on : Tracked (recover e >>= proceed moveLimit) :=
        .bind (Tracked.recover e) (Tracked.proceed moveLimit)
      exact on.blind.gone.mono (fun _ h => h) (fun _ _ => .inr) (fun _ _ => .inr) r gone
  · exact fun _ visiting => visiting

end

end Engine

/-! ## Visits -/

theorem Engine.Visiting.visit {start r : Request} {s : Session Flow} (h : Engine.Visiting start r)
    (top : start.execution.session? = some s) :
    ∃ later, r.journal = start.journal ++ later ∧
      Visited s.place (some s.viewScope) later r.execution := by
  have first := Request.scope?_view top
  obtain lingers | ⟨stay, b, state, shown, rest, journal, unmoved, passes, empty⟩ := h
  · obtain ⟨stay, journal, unmoved, passes⟩ := lingers.journal
    obtain ⟨t, at_top, same⟩ := lingers.session top
    rw [first, Request.scope?_view at_top] at passes
    exact ⟨stay, journal, stay, [], _, (List.append_nil stay).symm, unmoved, passes,
      .inl ⟨rfl, t, at_top, same, rfl⟩⟩
  · rw [first] at passes
    exact ⟨_, journal, stay, _, b, rfl, unmoved, passes, .inr ⟨state, shown, rest, rfl, empty⟩⟩

/-- A visit goes on to the end of a call from any moment at which a move is made in the view. -/
theorem Call.visit_of_rest {x : Execution} {c : Call} {m : Engine.Remainder} {start r : Request}
    (answer : c.answer x = .ofOutcome (Engine.outcome m.rest r)) (lingers : start.Lingers r)
    {s : Session Flow}
    (top : start.execution.session? = some s) {state : State} (here : s.place.state? = some state)
    {part : ViewPart} {transitions : List Transition} (kind : state.kind = .view part transitions)
    (made : Engine.Ensures start.Lingers m.move
      (fun move r => Engine.Heading start move r ∧ (m.limit = 0 → move = .rest))
      fun _ => start.Lingers) :
    ∃ later, (c.answer x).journal = start.journal ++ later ∧
      Visited s.place (some s.viewScope) later (c.answer x).execution := by
  have visits := Engine.rest_visits top here kind made r lingers
  rw [answer]
  rcases came : Engine.outcome m.rest r with ⟨_ | _, r'⟩ <;> rw [came] at visits <;>
    exact visits.visit top

theorem Call.visit_of_resume {x : Execution} {s : Session Flow} (top : x.session? = some s)
    {part : ViewPart} (view : s.place.InView part) (event : Option Event) (external : External)
    (directory : Directory) :
    let c := Call.resume event external directory
    Visited s.place (some s.viewScope) (c.answer x).journal (c.answer x).execution := by
  intro c
  obtain ⟨state, transitions, here, kind⟩ := view
  by_cases active : x.isActive = true
  · let start := Request.new { x with history := .preserve } external directory
    have reaches : c.Reaches x ⟨Execution.resumption event, Engine.moveLimit, true⟩
        (start.told .resuming) := ⟨active, .first⟩
    have top : start.execution.session? = some s := top
    have heading : Engine.Ensures start.Lingers (Execution.resumption event)
        (fun move r => Engine.Heading start move r ∧ (Engine.moveLimit = 0 → move = .rest))
        fun _ => start.Lingers :=
      (Engine.resumption_heading top here kind event).gives fun _ _ heading => ⟨heading, nofun⟩
    obtain ⟨later, journal, visit⟩ := Call.visit_of_rest (Call.answer_of_reaches reaches)
      (.told (fun _ => rfl) start) top here kind heading
    rw [journal]
    exact visit
  · obtain ⟨reason, refused⟩ := Call.answer_of_not_admitted (c := c) active
    rw [refused]
    exact ⟨[], [], _, rfl, .nil, .done, .inl ⟨rfl, s, top, rfl, rfl⟩⟩

/-! ## Entering a view -/

/-- The session with nothing in view scope. -/
def Session.emptied {φ : Type} (s : Session φ) : Session φ := { s with viewScope := .empty }

/-- The variables of a view, one after the other put into view scope. -/
def Context.filled : List FlowVariable → Context → Context
  | [], c => c
  | v :: rest, c => filled rest
      (c.updateSession fun s => { s with viewScope := s.viewScope.put v.name (v.create c) })

/-- The moment at which a session is in a state, and its entry actions are still to be run. -/
def Request.entering (state : String) (r : Request) : Request :=
  (r.told (.stateEntering state)).updateSession fun s => { s with state := some state }

theorem Request.context_updateSession {f : Session Flow → Session Flow}
    {g : Session String → Session String} (same : ∀ s, g (s.map Flow.id) = (f s).map Flow.id)
    (r : Request) : (r.updateSession f).context = r.context.updateSession g := by
  unfold updateSession
  split
  · rename_i stack
    simp [context, Context.updateSession, stack]
  · rename_i s rest stack
    simp [context, Context.updateSession, stack, same]

/-- Filling view scope is all that happens while the variables of a view are evaluated. -/
theorem Engine.outcome_fillVariables (vars : List FlowVariable) (r : Request) :
    ∃ r', outcome (fillVariables
        (fun name value s => { s with viewScope := s.viewScope.put name value }) vars) r =
      (.ok (), r') ∧ r'.context = r.context.filled vars ∧ r'.journal = r.journal ∧
        r'.execution.stance = r.execution.stance := by
  induction vars generalizing r with
  | nil => exact ⟨r, rfl, rfl, rfl, rfl⟩
  | cons v rest ih =>
    let put (s : Session Flow) : Session Flow :=
      { s with viewScope := s.viewScope.put v.name (v.create r.context) }
    obtain ⟨r', filled, context, journal, stance⟩ := ih (r.updateSession put)
    refine ⟨r', filled, ?_, ?_, ?_⟩
    · rw [context, Context.filled]
      exact congrArg _ (Request.context_updateSession (fun _ => rfl) r)
    · rw [journal]
      obtain ⟨sessions, e⟩ := r.updateSession_eq put
      rw [e]
    · rw [stance]
      exact Execution.places_updateSession put r fun _ => rfl

namespace Call

variable {x : Execution} {c : Call} {r : Request} {s : Session Flow} {state : State}
  {target : String} {limit : Nat} {sheltered : Bool}

theorem reaches_entry (h : c.Reaches x ⟨Engine.step (.enter s.flow target), limit, sheltered⟩ r)
    (found : s.flow.state? target = some state) (top : r.execution.session? = some s) :
    c.Reaches x ⟨(do
      Engine.runActions s.flow (some state) state.entry
      Engine.notify (.stateEntered s.state state.id)
      Engine.enterKind s.flow state), limit, sheltered⟩ (r.entering state.id) := by
  have way := h.2
  simp only [Engine.step, Engine.enterState, found] at way
  have top : (r.told (.stateEntering state.id)).execution.session? = some s := top
  have told : Engine.outcome (Engine.notify (.stateEntering state.id)) r =
      (.ok (), r.told (.stateEntering state.id)) := rfl
  have way := (way.within told).within rfl
  simp only [top] at way
  exact ⟨h.1, way.within rfl⟩

/-- The entry actions are run during the visit. -/
theorem lingers_entry {r' : Request} {result : Except Stop Unit}
    (ran : Engine.outcome (Engine.runActions s.flow (some state) state.entry)
      (r.entering state.id) = (result, r')) : (r.entering state.id).Lingers r' := by
  have kept := Engine.Does.keeps (P := (r.entering state.id).Lingers)
    (.runActions s.flow (some state) state.entry) (r.entering state.id) (.refl _)
  rw [ran] at kept
  cases result <;> exact kept

theorem session_entering (top : r.execution.session? = some s) :
    (r.entering state.id).execution.session? = some { s with state := some state.id } := by
  obtain ⟨rest, stack⟩ := List.head?_eq_some_iff.mp top
  simp [Request.entering, Request.told, Request.updateSession, Execution.session?, stack]

/-- What was written down when the entry actions have been run. -/
theorem journal_entry {r' : Request} {result : Except Stop Unit}
    (top : r.execution.session? = some s)
    (ran : Engine.outcome (Engine.runActions s.flow (some state) state.entry)
      (r.entering state.id) = (result, r')) :
    ∃ entry, r'.journal = r.journal ++ .notice (.stateEntering state.id) r.context :: entry ∧
      Unmoved entry ∧ Passes .view (some s.viewScope) entry (r'.context.scope? .view) := by
  obtain ⟨entry, journal, unmoved, passes⟩ := (lingers_entry ran).journal
  obtain ⟨rest, stack⟩ := List.head?_eq_some_iff.mp top
  refine ⟨entry, ?_, unmoved, ?_⟩
  · rw [journal]
    simp [Request.entering, Request.told, Request.updateSession, stack]
  · convert passes using 1
    simp [Request.entering, Request.told, Request.updateSession, Request.context, Context.scope?,
      Context.session?, stack, Session.map]

variable {part : ViewPart} {transitions : List Transition} {r' : Request}

/-- Once the entry actions have passed, the visit goes on with the variables of the view. -/
theorem visit_opened
    (h : c.Reaches x ⟨Engine.step (.enter s.flow target), limit, sheltered⟩ r)
    (top : r.execution.session? = some s) (found : s.flow.state? target = some state)
    (kind : state.kind = .view part transitions)
    (ran : Engine.outcome (Engine.runActions s.flow (some state) state.entry)
      (r.entering state.id) = (.ok (), r')) :
    ∃ later, (c.answer x).journal =
        r'.journal ++ .notice (.stateEntered s.state state.id) r'.context :: later ∧
      Visited ⟨s.flow, some state.id⟩
        (((r'.context.setScope .view .empty).filled part.vars).scope? .view) later
        (c.answer x).execution := by
  let entered := r'.told (.stateEntered s.state state.id)
  have self : s.flow.state? state.id = some state := by rwa [Flow.id_of_state? found]
  have view : Engine.enterKind s.flow state = Engine.enterView s.flow state part := by
    rw [Engine.enterKind, kind]
  have entering : Engine.Reaches (c.first x) (c.opening x)
    ⟨Engine.enterKind s.flow state, limit, sheltered⟩ entered :=
      ((reaches_entry h found top).2.within ran).within rfl
  rw [view] at entering
  obtain ⟨opened, filled, context, journal, stance⟩ := Engine.outcome_fillVariables part.vars
    (entered.updateSession Session.emptied)
  have showing : c.Reaches x ⟨Engine.renderView s.flow state part, limit, sheltered⟩ opened :=
    ⟨h.1, (entering.within rfl).within filled⟩
  have stance : opened.execution.stance = (r.entering state.id).execution.stance := by
    rw [stance, Execution.places_updateSession Session.emptied entered fun _ => rfl]
    exact (lingers_entry ran).stance
  obtain ⟨t, at_top, place⟩ := Request.session_of_stance stance (session_entering top)
  have place : t.place = ⟨s.flow, some state.id⟩ := place
  have here : t.place.state? = some state := by rw [place]; exact self
  obtain ⟨later, whole, visit⟩ := visit_of_rest (answer_of_reaches showing) (.refl opened) at_top
    here kind (Engine.renderView_rests.gives
      fun move r ⟨rests, lingers⟩ => ⟨rests ▸ lingers, fun _ => rests⟩)
  refine ⟨later, ?_, ?_⟩
  · obtain ⟨sessions, e⟩ := entered.updateSession_eq Session.emptied
    rw [whole, journal, e]
    simp [entered, Request.told]
  · have emptied := Request.context_updateSession (f := Session.emptied) (g := Session.emptied)
      (fun _ => rfl) entered
    rw [← Request.scope?_view at_top, context, emptied, place] at visit
    exact visit

/-- When an entry action has failed, the visit goes on as it is. -/
theorem visit_unopened
    (h : c.Reaches x ⟨Engine.step (.enter s.flow target), limit, sheltered⟩ r)
    (top : r.execution.session? = some s) (found : s.flow.state? target = some state)
    (kind : state.kind = .view part transitions) {stop : Stop}
    (ran : Engine.outcome (Engine.runActions s.flow (some state) state.entry)
      (r.entering state.id) = (.error stop, r')) :
    ∃ later, (c.answer x).journal = r'.journal ++ later ∧
      Visited ⟨s.flow, some state.id⟩ (r'.context.scope? .view) later (c.answer x).execution := by
  have self : s.flow.state? state.id = some state := by rwa [Flow.id_of_state? found]
  have entry := answer_of_reaches (reaches_entry h found top)
  obtain ⟨t, at_top, place⟩ := (lingers_entry ran).session (session_entering top)
  have place : t.place = ⟨s.flow, some state.id⟩ := place
  have here : t.place.state? = some state := by rw [place]; exact self
  have failed : c.answer x =
      .ofOutcome (Engine.outcome (Engine.Remainder.rest ⟨throw stop, limit, sheltered⟩) r') := by
    rw [entry]
    simp only [Engine.Remainder.rest, Engine.outcome_bind, Engine.outcome_tryCatch, ran]
    rfl
  obtain ⟨later, whole, visit⟩ := visit_of_rest failed (.refl r') at_top here kind
    fun r lingers => lingers
  rw [← Request.scope?_view at_top, place] at visit
  exact ⟨later, whole, visit⟩

end Call

theorem Execution.Carried.frames_eq {x y : Execution} {stored : Nat} (h : x.Carried stored y) :
    y.frames = (List.map Session.reread)^[stored] x.frames := by
  induction h with
  | kept => rfl
  | keyed h key ih => exact ih
  | restored h had ih =>
    rw [Function.iterate_succ_apply', ← ih, frames_restore had, frames_reread_snapshot]

/-- **View scope lives with the visit of a view, once the view has been entered.** A request on an
execution that stands in a view goes on with the visit: view scope passes along the journal from
what it was, and either it is there when the request ends, or a state is being entered, with nothing
in view scope. When a session enters a view, the entry actions are the first of the visit, and view
scope passes along what they do. If they pass, it is then emptied and filled with the variables of
the view, and from there the visit goes on. If one of them fails, it goes on as it is. Between two
requests view scope is reread as often as the execution is stored. -/
theorem view_scope_lives_with_view (x : Execution) (c : Call) :
    (∀ event external directory s part, c = .resume event external directory →
      x.session? = some s → s.place.InView part →
        Visited s.place (some s.viewScope) (c.answer x).journal (c.answer x).execution) ∧
      (∀ s target state part transitions limit sheltered r result r',
        c.Reaches x ⟨Engine.step (.enter s.flow target), limit, sheltered⟩ r →
        r.execution.session? = some s → s.flow.state? target = some state →
        state.kind = .view part transitions →
        Engine.outcome (Engine.runActions s.flow (some state) state.entry) (r.entering state.id) =
          (result, r') →
          ∃ entry later, Unmoved entry ∧
            Passes .view (some s.viewScope) entry (r'.context.scope? .view) ∧
            (result = .ok () → (c.answer x).journal =
                r.journal ++ .notice (.stateEntering state.id) r.context ::
                  (entry ++ .notice (.stateEntered s.state state.id) r'.context :: later) ∧
              Visited ⟨s.flow, some state.id⟩
                (((r'.context.setScope .view .empty).filled part.vars).scope? .view) later
                (c.answer x).execution) ∧
            ∀ stop, result = .error stop → (c.answer x).journal =
                r.journal ++ .notice (.stateEntering state.id) r.context :: (entry ++ later) ∧
              Visited ⟨s.flow, some state.id⟩ (r'.context.scope? .view) later
                (c.answer x).execution) ∧
      ∀ stored y, (c.answer x).execution.Carried stored y →
        y.frames = (List.map Session.reread)^[stored] (c.answer x).execution.frames := by
  refine ⟨?_, ?_, fun stored y carried => carried.frames_eq⟩
  · rintro event external directory s part rfl top view
    exact Call.visit_of_resume top view event external directory
  · intro s target state part transitions limit sheltered r result r' h top found kind ran
    obtain ⟨entry, journal, unmoved, passes⟩ := Call.journal_entry top ran
    rcases result with stop | ⟨⟩
    · obtain ⟨later, whole, visit⟩ := Call.visit_unopened h top found kind ran
      refine ⟨entry, later, unmoved, passes, nofun, fun _ _ => ⟨?_, visit⟩⟩
      rw [whole, journal, List.append_assoc, List.cons_append]
    · obtain ⟨later, whole, visit⟩ := Call.visit_opened h top found kind ran
      refine ⟨entry, later, unmoved, passes, fun _ => ⟨?_, visit⟩, nofun⟩
      rw [whole, journal, List.append_assoc, List.cons_append]

/-! ## A note on a wall -/

def jot : Action := fun c =>
  (.ok .success, c.updateScope .view fun a => a.put "note" (.text "here"))

/-- A view with a variable. Something is noted when the state is entered, or when it is rendered. -/
def wall (entry render : List Action) : State :=
  { State.waiting "wall" [] with
    entry := entry
    kind := .view ⟨fun _ => .ok ⟨"wall", .null⟩, render, [⟨"lamp", .literal (.text "on")⟩], false,
      false⟩ [] }

def gallery (entry render : List Action) : Flow :=
  { Flow.blank "gallery" .empty with start := some "wall", states := [wall entry render] }

def hung (entry render : List Action) : Answer :=
  Call.answer (.create (gallery entry render) [])
    (.start .empty caller fun _ => .ok (gallery entry render))

/-- What was noted on entry is gone once the state has been entered, with nothing run since. -/
theorem entry_note_lost : ∃ front seen rest s,
    (hung [jot] []).journal = front ++ .notice (.stateEntered none "wall") seen :: rest ∧
      Holding "note" (.text "here") (seen.scope? .view) ∧
      ¬ Undone .view (Holding "note" (.text "here")) rest ∧
      (hung [jot] []).execution.session? = some s ∧ s.state = some "wall" ∧
      s.viewScope.get? "note" = none := by
  have whole : (hung [jot] []).journal = [_, _, _, _, _] ++ .notice _ _ :: [_] := rfl
  refine ⟨_, _, _, _, whole, rfl, ?_, rfl, rfl, rfl⟩
  rintro ⟨before, after, mem, -⟩
  cases List.mem_singleton.mp mem

/-- What was noted while the view was rendered is still there when it is rendered again, be it after
a store. -/
theorem note_kept_between_renders :
    let left := (hung [] [jot]).execution
    let again := Call.resume none caller fun _ => .ok (gallery [] [jot])
    ∃ s, left.session? = some s ∧ s.viewScope.get? "note" = some (.text "here") ∧
      Visited s.place (some s.viewScope) (again.answer left).journal (again.answer left).execution ∧
      (∃ front seen later, (hung [] [jot]).journal =
          front ++ .notice (.stateEntered none "wall") seen :: later ∧
        Visited s.place (some ⟨[("lamp", .text "on")]⟩) later left) ∧
      ∃ y, (again.answer left).execution.Carried 1 y ∧
        y.frames = (again.answer left).execution.frames.map Session.reread := by
  intro left again
  let first : Call := .start .empty caller fun _ => .ok (gallery [] [jot])
  have top : left.session? = some ⟨gallery [] [jot], some "wall", .paused, .empty,
    ⟨[("lamp", .text "on"), ("note", .text "here")]⟩⟩ := rfl
  have reaches : first.Reaches (.create (gallery [] [jot]) [])
    ⟨Engine.step (.enter (gallery [] [jot]) "wall"), 99999, true⟩ _ :=
      ⟨rfl, Engine.Reaches.first.next rfl⟩
  have had : Execution.restore (fun _ => .ok (gallery [] [jot])) []
    (again.answer left).execution.snapshot.reread .empty ⟨0, 1⟩ = .ok _ := rfl
  obtain ⟨-, entered, -⟩ := view_scope_lives_with_view (.create (gallery [] [jot]) []) first
  obtain ⟨resumed, -, stored⟩ := view_scope_lives_with_view left again
  obtain ⟨entry, later, -, -, passed, -⟩ :=
    entered ⟨gallery [] [jot], none, .active, .empty, .empty⟩ "wall" (wall [] [jot]) _ _ _ _ _
      (.ok ()) _ reaches rfl rfl rfl rfl
  obtain ⟨journal, visit⟩ := passed rfl
  refine ⟨_, top, rfl, resumed _ _ _ _ _ rfl top ⟨_, _, rfl, rfl⟩, ?_, _, .restored .kept had,
    stored 1 _ (.restored .kept had)⟩
  exact ⟨_, _, later, journal.trans (List.append_assoc _ (_ :: entry) _).symm, visit⟩

end Parley
