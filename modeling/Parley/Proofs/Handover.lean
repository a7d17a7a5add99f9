import Parley.Proofs.Lives
import Parley.Proofs.Mappers

/-!
# Parley.Proofs.Handover

What a subflow hands over as it ends, and what becomes of it in the flow below. Its output is what
the end state maps, with what the flow maps on top of it. The output is mapped into the scopes below
and signaled, and only then the next transition is looked for. Until it is mapped, those scopes are
exactly as they were when the subflow began, if the execution was kept in memory; whenever it was
stored meanwhile, they were reread, and a number that does not read back as itself has changed.

* `Engine.closing_inversion`: the output.
* `Request.takenUp`: the moment at which the next transition is looked for.
* `subflow_hands_over`: all of it, for any execution in any course of requests.
* `scope_drifts_below_subflow`: a number in a scope below that is another one as the subflow ends.
-/

namespace Parley

/-! ## Mappers -/

/-- What a mapper makes of a target with what it takes from a source, if nothing goes wrong. Without
a mapper the target stays as it is. -/
def Mapper.Makes {σ τ : Type} [Properties σ] [Properties τ] (mapper : Option Mapper) (source : σ)
    (target made : τ) : Prop :=
  match mapper with
  | none => made = target
  | some mapper => ∃ results, Mapper.run source mapper target = (results, made) ∧
      MappingResult.errors results = []

namespace Context

theorem length_updateSession (c : Context) (f : Session String → Session String) :
    (c.updateSession f).sessions.length = c.sessions.length := by
  unfold updateSession
  split <;> simp [*]

theorem length_setScope (c : Context) (scope : Scope) (a : Attributes) :
    (c.setScope scope a).sessions.length = c.sessions.length := by
  cases scope with
  | flow => exact c.length_updateSession _
  | view => exact c.length_updateSession _
  | _ => rfl

/-- Writing into a scope adds no session and takes none away. -/
theorem length_setProperty {c changed : Context} {path : Path} {value : Value}
    (wrote : c.setProperty path value = .ok changed) :
    changed.sessions.length = c.sessions.length := by
  obtain ⟨scope, below, a, b, -, -, -, rfl⟩ := setProperty_eq_ok_iff.mp wrote
  exact c.length_setScope scope b

end Context

theorem Mapping.length_run {σ : Type} [Properties σ] (m : Mapping) (source : σ) (c : Context) :
    (m.run source c).2.sessions.length = c.sessions.length := by
  obtain ⟨outcome, left, comes, ran⟩ := m.run_comes source c
  rw [ran]
  cases comes with
  | missing | unconverted | unwritable => rfl
  | written _ writes =>
    unfold Expression.assign at writes
    split at writes
    · exact Context.length_setProperty writes
    · cases writes

namespace Mapper

variable {σ : Type} [Properties σ]

theorem length_run (source : σ) (mapper : Mapper) (c : Context) :
    (run source mapper c).2.sessions.length = c.sessions.length := by
  induction mapper generalizing c with
  | nil => rfl
  | cons m rest ih => exact (ih _).trans (m.length_run source c)

/-- A mapping finds the scopes of a session and leaves them in place. -/
theorem Makes.session {source : σ} {mapper : Option Mapper} {c made : Context}
    (h : Makes mapper source c made) (stack : c.sessions ≠ []) :
    ∃ top, made.session? = some top := by
  have length : made.sessions.length = c.sessions.length := by
    cases mapper with
    | none => rw [show made = c from h]
    | some mapper =>
      obtain ⟨results, run, -⟩ := h
      have same := length_run source mapper c
      rwa [run] at same
  cases sessions : made.sessions with
  | nil =>
    rw [sessions] at length
    exact (stack (List.length_eq_zero_iff.mp length.symm)).elim
  | cons top rest => exact ⟨top, by rw [Context.session?, sessions]; rfl⟩

end Mapper

/-! ## The output -/

namespace Engine

variable {α β : Type} {flow : Flow} {r r' : Request}

theorem outcome_bind_ok {x : Engine α} {f : α → Engine β} {b : β}
    (h : outcome (x >>= f) r = (.ok b, r')) :
    ∃ a between, outcome x r = (.ok a, between) ∧ outcome (f a) between = (.ok b, r') := by
  rw [outcome_bind] at h
  split at h
  · rename_i a between came
    exact ⟨a, between, came, h⟩
  · cases h

theorem checkMapped_ok {results : List MappingResult}
    (h : outcome (checkMapped flow results) r = (.ok (), r')) :
    MappingResult.errors results = [] ∧ r' = r := by
  unfold checkMapped at h
  split at h
  · rename_i clean
    cases h
    exact ⟨clean, rfl⟩
  · cases h

/-- What is mapped out of a request does not change it. -/
theorem mapFrom_ok {mapper : Option Mapper} {target made : Attributes}
    (h : outcome (mapFrom flow mapper target) r = (.ok made, r')) :
    Mapper.Makes mapper r.context target made ∧ r' = r := by
  cases mapper with
  | none =>
    cases h
    exact ⟨rfl, rfl⟩
  | some mapper =>
    obtain ⟨_, _, looked, h⟩ := outcome_bind_ok h
    cases looked
    obtain ⟨_, _, checked, h⟩ := outcome_bind_ok h
    obtain ⟨clean, rfl⟩ := checkMapped_ok checked
    cases h
    exact ⟨⟨_, rfl, clean⟩, rfl⟩

theorem length_closing {state : State} {part : EndPart} {result : Except Stop (Bool × Attributes)}
    (h : outcome (closing flow state part) r = (result, r')) :
    r'.execution.sessions.length = r.execution.sessions.length := by
  have closes : Touched (flow.FailsIn (some state.id)) (closing flow state part) :=
    Does.closing flow state part
  have touches : Touches r (outcome (closing flow state part) r).2 := closes.madeOf.steps r
  rw [h] at touches
  have places := congrArg Stance.places touches.stance_eq
  simpa [Execution.stance] using congrArg List.length places

/-- The output of a session that is not the outermost one: what the end state maps, and on top of it
what the flow maps once its end actions have run. -/
theorem closing_inversion {state : State} {part : EndPart} {root : Bool} {output : Attributes}
    (inner : r.execution.sessions.length ≠ 1)
    (h : outcome (closing flow state part) r = (.ok (root, output), r')) :
    root = false ∧ ∃ own, Mapper.Makes part.output r.context .empty own ∧
      outcome (runActions flow (some state) flow.endActions)
        (r.told (.sessionEnding state.id own)) = (.ok (), r') ∧
      Mapper.Makes flow.output r'.context own output := by
  obtain ⟨_, _, looked, respond⟩ := outcome_bind_ok h
  cases looked
  simp only [inner, decide_false] at respond
  obtain ⟨_, _, unanswered, take⟩ := outcome_bind_ok respond
  cases unanswered
  obtain ⟨own, _, mapped, tell⟩ := outcome_bind_ok take
  obtain ⟨makes, rfl⟩ := mapFrom_ok mapped
  obtain ⟨_, _, told, run⟩ := outcome_bind_ok tell
  cases told
  obtain ⟨⟨⟩, _, ran, finish⟩ := outcome_bind_ok run
  obtain ⟨made, _, mapped', give⟩ := outcome_bind_ok finish
  obtain ⟨makes', rfl⟩ := mapFrom_ok mapped'
  cases give
  exact ⟨rfl, own, makes, ran, makes'⟩

end Engine

/-! ## Taking up -/

/-- The moment at which a session has taken up what it was handed: it is mapped into the scopes, and
an event tells of it. -/
def Request.takenUp (mapped : Context) (event : Event) (r : Request) : Request :=
  let taken := (r.absorb mapped).updateSession fun s => { s with status := .active }
  Request.told (.eventSignaled event) { taken with event := some event }

namespace Request

variable {r : Request} {mapped : Context} {parent : Session Flow} {outer : List (Session Flow)}
  {top : Session String}

theorem sessions_takenUp (stack : r.execution.sessions = parent :: outer)
    (found : mapped.session? = some top) (event : Event) :
    (r.takenUp mapped event).execution.sessions =
      { parent with scope := top.scope, viewScope := top.viewScope, status := .active } ::
        outer := by
  simp [takenUp, told, absorb, adopt, absorbSessions, updateSession, stack, found]

/-- Every scope shows what the mapping has made of it. -/
theorem scope?_takenUp (stack : r.execution.sessions = parent :: outer)
    (found : mapped.session? = some top) (event : Event) (scope : Scope) :
    (r.takenUp mapped event).context.scope? scope = mapped.scope? scope := by
  have sessions := sessions_takenUp stack found event
  have shown : (r.takenUp mapped event).context.session? =
      some ⟨parent.flow.id, parent.state, .active, top.scope, top.viewScope⟩ := by
    rw [Context.session?, context, sessions]
    rfl
  cases scope with
  | flow => simp [Context.scope?, shown, found]
  | view => simp [Context.scope?, shown, found]
  | _ => simp [takenUp, told, absorb, adopt, absorbSessions, updateSession, stack, found, context,
      Context.scope?]

end Request

namespace Engine

theorem outcome_mapInto {flow : Flow} {mapper : Option Mapper} {source : Attributes} {r : Request}
    {mapped : Context} (makes : Mapper.Makes mapper source r.context mapped) :
    outcome (mapInto flow mapper source) r = (.ok (), r.absorb mapped) := by
  have mapping : ∃ results, MappingResult.errors results = [] ∧
      Mapper.run source (mapper.getD []) r.context = (results, mapped) := by
    cases mapper with
    | none => exact ⟨[], rfl, congrArg (Prod.mk []) makes.symm⟩
    | some mapper =>
      obtain ⟨results, run, clean⟩ := makes
      exact ⟨results, clean, run⟩
  obtain ⟨results, clean, run⟩ := mapping
  have mapped_in : outcome (within (Mapper.run source (mapper.getD []))) r =
      (.ok results, r.absorb mapped) := by
    have done : outcome (within (Mapper.run source (mapper.getD []))) r =
      (.ok (Mapper.run source (mapper.getD []) r.context).1,
        r.absorb (Mapper.run source (mapper.getD []) r.context).2) := rfl
    rw [done, run]
  rw [mapInto, outcome_bind, mapped_in]
  simp only [checkMapped, clean]
  rfl

theorem outcome_takeTransition_unmatched {flow : Flow} {state : State} {r : Request}
    (unmatched : ∀ u ∈ state.transitions ++ flow.globalTransitions,
      u.criteria.holds r.context = false) :
    outcome (takeTransition flow state) r =
      (.error (.raised (.noMatchingTransition flow.id state.id r.eventName)), r) := by
  have unfound : findTransition flow state r.context = none := by
    unfold findTransition
    rw [List.find?_eq_none]
    exact fun u mem => by simp [unmatched u mem]
  have looked : outcome get r = (.ok r, r) := rfl
  rw [takeTransition, outcome_bind, looked]
  simp only [unfound]
  rfl

end Engine

theorem Call.reaches_takenUp {x : Execution} {c : Call} {flow : Flow} {state : State}
    {part : SubflowPart} {output : Attributes} {event : Event} {limit : Nat} {sheltered : Bool}
    {r : Request} {mapped : Context}
    (h : c.Reaches x ⟨Engine.takeUp flow state part output event, limit, sheltered⟩ r)
    (makes : Mapper.Makes part.output output r.context mapped) :
    c.Reaches x ⟨Engine.takeTransition flow state, limit, sheltered⟩ (r.takenUp mapped event) :=
  ⟨h.1, ((h.2.within (Engine.outcome_mapInto makes)).within rfl).within rfl⟩

/-- From the end of a session to the moment at which the next transition is looked for. -/
theorem Call.reaches_lookout {x : Execution} {c : Call} {flow : Flow} {ended : State}
    {part : EndPart} {limit : Nat} {sheltered : Bool} {s : Request} {output : Attributes}
    (closes : c.Closes x flow ended part limit sheltered false output s)
    {child parent : Session Flow} {outer : List (Session Flow)}
    (stack : s.execution.sessions = child :: parent :: outer) {state : State}
    {subflow : SubflowPart} {transitions : List Transition}
    (here : parent.state.bind parent.flow.state? = some state)
    (kind : state.kind = .subflow subflow transitions) {mapped : Context}
    (maps : Mapper.Makes subflow.output output s.dropSession.context mapped) :
    let next :=
      (s.dropSession.told (.sessionEnded flow.id output)).takenUp mapped ⟨ended.id, output⟩
    c.Reaches x ⟨Engine.takeTransition parent.flow state, limit, sheltered⟩ next ∧
      (∃ top, mapped.session? = some top ∧ next.execution.sessions =
        { parent with scope := top.scope, viewScope := top.viewScope, status := .active } ::
          outer) ∧
      ∀ scope, next.context.scope? scope = mapped.scope? scope := by
  have below : s.dropSession.execution.sessions = parent :: outer := by
    rw [Request.dropSession, stack]
    rfl
  have nonempty : s.dropSession.context.sessions ≠ [] := by simp [Request.context, below]
  obtain ⟨top, found⟩ := maps.session nonempty
  have taking := Call.reaches_takeUp (Call.reaches_leave closes)
    (by rw [Execution.session?, below]; rfl) here kind
  have shown : (s.dropSession.told (.sessionEnded flow.id output)).execution.sessions =
      parent :: outer := below
  exact ⟨Call.reaches_takenUp taking maps, ⟨top, found, Request.sessions_takenUp shown found _⟩,
    Request.scope?_takenUp shown found _⟩

/-- What a moment has written down stays in the journal of the call. -/
theorem Call.journal_of_reaches {x : Execution} {c : Call} {m : Engine.Remainder} {r : Request}
    (blind : m.move.Blind) (h : c.Reaches x m r) :
    ∃ later, (c.answer x).journal = r.journal ++ later := by
  obtain ⟨-, -, later, journal, -⟩ := Call.agree blind h h rfl
  exact ⟨later, journal⟩

/-- The first way whose criteria hold is taken. -/
theorem Call.reaches_executeTransition {x : Execution} {c : Call} {flow : Flow} {state : State}
    {limit : Nat} {sheltered : Bool} {r : Request} {t : Transition} {before after : List Transition}
    (h : c.Reaches x ⟨Engine.takeTransition flow state, limit, sheltered⟩ r)
    (ways : state.transitions ++ flow.globalTransitions = before ++ t :: after)
    (skipped : ∀ u ∈ before, u.criteria.holds r.context = false)
    (holds : t.criteria.holds r.context = true) :
    c.Reaches x ⟨Engine.executeTransition flow state t, limit, sheltered⟩ r := by
  have found : Engine.findTransition flow state r.context = some t := by
    unfold Engine.findTransition
    rw [List.find?_eq_some_iff_append]
    exact ⟨holds, before, after, ways, fun u mem => by simp [skipped u mem]⟩
  have way := h.2.within rfl
  simp only [found] at way
  exact ⟨h.1, way⟩

/-- **A subflow hands over its output and nothing else.** A session that is not the outermost one
comes to an end state, in any course of requests, stored or not. Its output is what the end state
maps in its context, and on top of it what its flow maps in its context once the end actions have
run. If the execution was never stored, the sessions below are exactly those that were there when it
began; in general they are those, reread at most as often as the execution was stored. To the scopes
of the next one the request does nothing but to map the output into them; the event has the name of
the end state and the output for its attributes; and of the ways out of the subflow state, its own
before those of the flow, the first is taken whose criteria hold in the scopes as they are then. -/
theorem subflow_hands_over {stored : Nat} {x : Execution} {ledger : List Entry}
    (lives : x.Lives stored ledger) {c : Call} {flow : Flow} {ended : State} {part : EndPart}
    {limit : Nat} {sheltered root : Bool} {r s : Request} {output : Attributes}
    (ends : c.Reaches x ⟨Engine.enterEnd flow ended part, limit, sheltered⟩ r)
    (closes : Engine.outcome (Engine.closing flow ended part) r = (.ok (root, output), s))
    {child parent : Session Flow} {outer : List (Session Flow)}
    (stack : s.execution.sessions = child :: parent :: outer) {state : State}
    {subflow : SubflowPart} {transitions : List Transition}
    (here : parent.state.bind parent.flow.state? = some state)
    (kind : state.kind = .subflow subflow transitions) {mapped : Context}
    (maps : Mapper.Makes subflow.output output s.dropSession.context mapped) :
    let next :=
      (s.dropSession.told (.sessionEnded flow.id output)).takenUp mapped ⟨ended.id, output⟩
    (∃ own, Mapper.Makes part.output r.context .empty own ∧
        Engine.outcome (Engine.runActions flow (some ended) flow.endActions)
          (r.told (.sessionEnding ended.id own)) = (.ok (), s) ∧
        Mapper.Makes flow.output s.context own output) ∧
      (stored = 0 → Stands (ledger ++ s.journal) (parent.frame :: outer.map Session.frame)) ∧
      Rests stored (ledger ++ s.journal) (parent.frame :: outer.map Session.frame) ∧
      (∃ top, mapped.session? = some top ∧ next.execution.sessions =
        { parent with scope := top.scope, viewScope := top.viewScope, status := .active } ::
          outer) ∧
      (∀ scope, next.context.scope? scope = mapped.scope? scope) ∧
      next.event = some ⟨ended.id, output⟩ ∧
      (∀ before t after, state.transitions ++ parent.flow.globalTransitions = before ++ t :: after →
        (∀ u ∈ before, u.criteria.holds next.context = false) →
        t.criteria.holds next.context = true →
          c.Reaches x ⟨Engine.executeTransition parent.flow state t, limit, sheltered⟩ next) ∧
      ((∀ u ∈ state.transitions ++ parent.flow.globalTransitions,
          u.criteria.holds next.context = false) →
        Engine.outcome (Engine.takeTransition parent.flow state) next =
          (.error (.raised (.noMatchingTransition parent.flow.id state.id ended.id)), next)) := by
  have length := Engine.length_closing closes
  rw [stack] at length
  have inner : r.execution.sessions.length ≠ 1 := by
    rw [← length]
    simp
  obtain ⟨rfl, own, makes, ran, makes'⟩ := Engine.closing_inversion inner closes
  have ending : c.Closes x flow ended part limit sheltered false output s := ⟨r, ends, closes⟩
  obtain ⟨looking, sessions, scopes⟩ := Call.reaches_lookout ending stack here kind maps
  have rests : Rests stored (ledger ++ s.journal) (parent.frame :: outer.map Session.frame) := by
    have leaving := Call.reaches_leave ending
    have handing : c.Reaches x ⟨Engine.handOver ended false output, limit, sheltered⟩
        (s.dropSession.told (.sessionEnded flow.id output)) := ⟨leaving.1, leaving.2.within rfl⟩
    obtain ⟨later, journal⟩ := Call.journal_of_reaches
      (Engine.Tracked.handOver ended false output).blind handing
    have founded := c.founded lives.founded
    have frames : s.dropSession.context.frames = parent.frame :: outer.map Session.frame := by
      rw [Request.frames_context, Execution.frames, Request.dropSession, stack]
      rfl
    have whole : ledger ++ (c.answer x).journal = (ledger ++ s.journal) ++
        .notice (.sessionEnded flow.id output) s.dropSession.context :: later := by
      simp [journal, Request.told, Request.dropSession]
    rw [← frames]
    exact founded.once whole (by simp [frames])
  exact ⟨⟨own, makes, ran, makes'⟩, rests.stands, rests, sessions, scopes, rfl,
    fun before t after => Call.reaches_executeTransition looking,
    Engine.outcome_takeTransition_unmatched⟩

/-! ## An answer -/

/-- A property carried over under another name. -/
def carry (source target : String) : Mapper :=
  [⟨⟨source, .bare (.path [source])⟩, ⟨target, .bare (.path [target])⟩, none, false⟩]

/-- A flow that waits until it may go, and then gives a reply. -/
def replying : Flow :=
  { Flow.blank "replying" .empty with
    start := some "wait", vars := [⟨"reply", .literal (.text "yes")⟩]
    states := [.waiting "wait" [⟨.event "go", [], some (.fixed "bye"), .preserve, .empty⟩],
      ⟨"bye", [], [], [], .empty, .final ⟨none, some (carry "reply" "answer")⟩⟩] }

/-- Once the other flow has told its answer, home is next. -/
def homeward : Transition :=
  ⟨.condition ⟨"told", .bare (.path ["told"])⟩, [], some (.fixed "home"), .preserve, .empty⟩

def sent : State :=
  ⟨"send", [], [], [], .empty, .subflow ⟨.fixed "replying", none, some (carry "answer" "told")⟩
    [⟨.event "lost", [], some (.fixed "home"), .preserve, .empty⟩, homeward]⟩

def sending : Flow :=
  { Flow.blank "sending" .empty with start := some "send", states := [sent, .waiting "home" []] }

def senders : Directory := fun id => .ok (if id = "sending" then sending else replying)

/-- The subflow waits, after a request, and is back from a store. -/
def awaiting : Execution :=
  { Execution.create sending [] with
    status := .active
    sessions := [⟨replying, some "wait", .paused, ⟨[("reply", .text "yes")]⟩, .empty⟩,
      ⟨sending, some "send", .active, .empty, .empty⟩]
    key := some ⟨0, 1⟩ }

def send : Call := .start .empty caller senders

def fetch : Call := .resume (some ⟨"go", .empty⟩) caller senders

theorem awaiting_lives : ∃ ledger, awaiting.Lives 1 ledger := by
  have answered : (send.answer (.create sending [])).result = .ok () := rfl
  have called := (Execution.Lives.created sending []).called send (by simp [answered])
  have had : Execution.restore senders []
      (send.answer (.create sending [])).execution.snapshot.reread .empty ⟨0, 1⟩ =
        .ok awaiting := rfl
  exact ⟨_, called.restored had⟩

theorem subflow_answer_mapped : ∃ next,
    fetch.Reaches awaiting ⟨Engine.executeTransition sending sent homeward, 99999, true⟩ next ∧
      next.event = some ⟨"bye", ⟨[("answer", .text "yes")]⟩⟩ ∧
      next.context.scope? .flow = some ⟨[("told", .text "yes")]⟩ := by
  obtain ⟨ledger, lives⟩ := awaiting_lives
  have left : fetch.Reaches awaiting ⟨Engine.step (.enter replying "bye"), 99999, true⟩ _ :=
    ⟨rfl, Engine.Reaches.first.next rfl⟩
  obtain ⟨-, -, -, -, scopes, event, taken, -⟩ := subflow_hands_over lives
    (Call.reaches_enterKind left rfl rfl rfl) rfl rfl rfl rfl ⟨_, rfl, rfl⟩
  refine ⟨_, taken [_] homeward [] rfl ?_ rfl, event, scopes .flow⟩
  intro u mem
  cases List.mem_singleton.mp mem
  rfl

/-! ## A number below -/

/-- The flow that calls the other one has a value of its own in its scope. -/
def lobbyWith (value : Value) : Flow := { lobby with vars := [⟨"own", .literal value⟩] }

def hallsWith (value : Value) : Directory := fun id =>
  .ok (if id = "lobby" then lobbyWith value else whisper)

/-- The execution as its first request leaves it: the subflow has begun and waits. -/
def calledWith (value : Value) : Execution :=
  ((Call.start .empty caller (hallsWith value)).answer (.create (lobbyWith value) [])).execution

/-- It is stored and had back. -/
def backWith (value : Value) : Execution :=
  { Execution.create (lobbyWith value) [] with
    status := .active
    sessions := [⟨whisper, some "ask", .paused, .empty, .empty⟩,
      ⟨lobbyWith value, some "call", .active, ⟨[("own", Json.rereadValue value)]⟩, .empty⟩]
    key := some ⟨0, 1⟩ }

/-- The value is in the scope below the subflow, and that comes back with the value reread. -/
theorem calledWith_restored (value : Value) :
    (calledWith value).sessions.map (fun t => (t.flow.id, t.scope.get? "own")) =
        [("whisper", none), ("lobby", some value)] ∧
      Execution.restore (hallsWith value) [] (calledWith value).snapshot.reread .empty ⟨0, 1⟩ =
        .ok (backWith value) := ⟨rfl, rfl⟩

/-- The subflow ends, and the next transition is found. -/
theorem own_value_reread (value : Value) :
    ∃ t next, (Call.resume (some ⟨"go", .empty⟩) caller (hallsWith value)).Reaches (backWith value)
        ⟨Engine.executeTransition (lobbyWith value) calling t, 99999, true⟩ next ∧
      next.context.scope? .flow = some ⟨[("own", Json.rereadValue value)]⟩ := by
  have arriving : (Call.resume (some ⟨"go", .empty⟩) caller (hallsWith value)).Reaches
      (backWith value) ⟨Engine.step (.enter whisper "bye"), 99999, true⟩ _ :=
    ⟨rfl, Engine.Reaches.first.next rfl⟩
  obtain ⟨looking, -, scopes⟩ := Call.reaches_lookout
    ⟨_, Call.reaches_enterKind arriving rfl rfl rfl, rfl⟩ rfl rfl rfl rfl
  have ways : calling.transitions ++ (lobbyWith value).globalTransitions = [] ++
      ⟨.event "bye", [], some (.fixed "home"), .preserve, .empty⟩ :: [] := rfl
  exact ⟨_, _, Call.reaches_executeTransition looking ways nofun rfl, scopes .flow⟩

/-- Nothing has written there, and the number is another one. -/
theorem scope_drifts_below_subflow :
    (calledWith drifting).sessions.map (fun t => (t.flow.id, t.scope.get? "own")) =
        [("whisper", none), ("lobby", some drifting)] ∧
      Execution.restore (hallsWith drifting) [] (calledWith drifting).snapshot.reread .empty
        ⟨0, 1⟩ = .ok (backWith drifting) ∧
      ∃ t next, (Call.resume (some ⟨"go", .empty⟩) caller (hallsWith drifting)).Reaches
          (backWith drifting)
          ⟨Engine.executeTransition (lobbyWith drifting) calling t, 99999, true⟩ next ∧
        ∃ scope, next.context.scope? .flow = some scope ∧ scope.get? "own" ≠ some drifting := by
  obtain ⟨called, had⟩ := calledWith_restored drifting
  obtain ⟨t, next, going, shown⟩ := own_value_reread drifting
  exact ⟨called, had, t, next, going, _, shown, fun same => reread_drifting (Option.some.inj same)⟩

end Parley
