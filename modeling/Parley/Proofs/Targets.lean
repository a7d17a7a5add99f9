import Parley.Proofs.Routing
import Parley.Proofs.Success

/-!
# Parley.Proofs.Targets

States to go to are there. Where all flows are closed a call misses a state only where no name could
be looked at before: it comes to a transition whose target is computed, or that has none outside of
views, or to a handler that has its own way (`Call.Misses`).

* `Request.Fair`: all flows at hand are of a kind, and what was announced as an error is excused.
  `Engine.excusing`: each move keeps it so, and what it raises is excused too.
* `Execution.call_excused`, `Execution.after_within`: one call, and any number of calls.
* `targets_found`: flows that are built, and whole runs over closed flows.
-/

namespace Parley

/-! ## States that are missed -/

/-- The reasons for a call on an execution to miss a state although flows are closed, as the error
tells it: in a flow, from a state, to a target. Each is a moment that the call comes to. -/
inductive Call.Misses (K : Flow → Prop) (x : Execution) (c : Call) :
    String → String → String → Prop where
  /-- A transition is fired whose target is computed, and comes to nothing but that: once its guards
  have let it pass, the target is the name of no state of the flow. -/
  | computed {flow : Flow} {state : State} {t : Transition} {expression : Expression}
      {target : String} {limit : Nat} {sheltered : Bool} {r r' : Request} (known : K flow)
      (here : state ∈ flow.states) (way : t ∈ flow.ways state)
      (fires : c.Reaches x ⟨Engine.executeTransition flow state t, limit, sheltered⟩ r)
      (fails : Engine.outcome (Engine.executeTransition flow state t) r =
        (.error (.raised (.targetStateNotFound flow.id state.id target)), r'))
      (names : t.target = some (.computed expression))
      (now : (Target.computed expression).resolve r'.context = .ok target)
      (missing : flow.hasState target = false) : Misses K x c flow.id state.id target
  /-- A transition is fired that has no target, and there is no view to render again. -/
  | targetless {flow : Flow} {state : State} {t : Transition} {limit : Nat} {sheltered : Bool}
      {r r' : Request} (known : K flow) (here : state ∈ flow.states) (way : t ∈ flow.ways state)
      (fires : c.Reaches x ⟨Engine.executeTransition flow state t, limit, sheltered⟩ r)
      (fails : Engine.outcome (Engine.executeTransition flow state t) r =
        (.error (.raised (.targetStateNotFound flow.id state.id "<none>")), r'))
      (names : t.target = none) (other : state.isView = false) :
      Misses K x c flow.id state.id "<none>"
  /-- The handler that is asked goes to a state that it had not declared. -/
  | undeclared {e : ExecutionError} {s : Session Flow} {h : Handler} {target : String}
      {r : Request} (known : K s.flow)
      (asks : c.Reaches x ⟨Engine.consult e, Engine.moveLimit, false⟩ r)
      (top : r.execution.session? = some s)
      (asked : s.handlers.find? (fun h => h.accepts e) = some h)
      (sent : (h.handle e r.context).1 = .ok (.enterState target))
      (other : h.target ≠ some target) (missing : s.flow.hasState target = false) :
      Misses K x c s.flow.id (s.state.getD "") target
  /-- The handler that is asked raises the error on its own account. -/
  | raised {e : ExecutionError} {s : Session Flow} {h : Handler} {flow place target : String}
      {r : Request} (known : K s.flow)
      (asks : c.Reaches x ⟨Engine.consult e, Engine.moveLimit, false⟩ r)
      (top : r.execution.session? = some s)
      (asked : s.handlers.find? (fun h => h.accepts e) = some h)
      (failed : (h.handle e r.context).1 = .error (.targetStateNotFound flow place target)) :
      Misses K x c flow place target

/-- If the error is about a state that was missed, there is a reason. -/
def ExecutionError.Excused (K : Flow → Prop) (x : Execution) (c : Call) (e : ExecutionError) :
    Prop :=
  ∀ flow place target, e = .targetStateNotFound flow place target →
    c.Misses K x flow place target

theorem ExecutionError.Excused.of_missed {K : Flow → Prop} {x : Execution} {c : Call}
    {e : ExecutionError} (other : e.missed = false) : e.Excused K x c := by
  rintro _ _ _ rfl
  cases other

/-- All flows at hand are of the kind, and all announced errors are excused. -/
structure Request.Fair (K : Flow → Prop) (x : Execution) (c : Call) (r : Request) : Prop where
  sessions : ∀ s ∈ r.execution.sessions, K s.flow
  directory : ∀ id f, r.directory id = .ok f → K f
  announced : ∀ e context, .notice (.exceptionThrown e) context ∈ r.journal → e.Excused K x c

namespace Request.Fair

variable {K : Flow → Prop} {x : Execution} {c : Call} {r r' : Request}

theorem of_append (h : r.Fair K x c) {added : List Entry}
    (flows : r'.execution.sessions.map Session.flow = r.execution.sessions.map Session.flow)
    (directory : r'.directory = r.directory) (journal : r'.journal = r.journal ++ added)
    (unannounced : ∀ e context, .notice (.exceptionThrown e) context ∈ added → e.Excused K x c) :
    r'.Fair K x c := by
  refine ⟨fun s mem => ?_, directory ▸ h.directory, fun e context mem => ?_⟩
  · obtain ⟨before, there, same⟩ := List.mem_map.mp (flows ▸ List.mem_map_of_mem mem)
    exact same ▸ h.sessions before there
  · rcases List.mem_append.mp (journal ▸ mem) with earlier | now
    · exact h.announced e context earlier
    · exact unannounced e context now

theorem told (h : r.Fair K x c) {hook : Hook}
    (excused : ∀ e, hook = .exceptionThrown e → e.Excused K x c) : (r.told hook).Fair K x c := by
  refine h.of_append rfl rfl rfl fun e context mem => ?_
  cases List.mem_singleton.mp mem
  exact excused e rfl

theorem other (h : r.Fair K x c) {hook : Hook} (other : ∀ e, hook ≠ .exceptionThrown e) :
    (r.told hook).Fair K x c := h.told fun e same => absurd same (other e)

theorem plain (h : r.Fair K x c) {hook : Hook} (plain : hook.plain = true) :
    (r.told hook).Fair K x c := by
  refine h.other ?_
  rintro _ rfl
  cases plain

theorem dropSession (h : r.Fair K x c) : r.dropSession.Fair K x c :=
  ⟨fun s mem => h.sessions s (List.mem_of_mem_tail mem), h.directory, h.announced⟩

theorem updateSession {f : Session Flow → Session Flow} (flow : ∀ s, (f s).flow = s.flow)
    (h : r.Fair K x c) : (r.updateSession f).Fair K x c := by
  unfold Request.updateSession
  split
  · exact h
  · rename_i s rest stack
    refine h.of_append (by simp [stack, flow]) rfl (List.append_nil _).symm fun e context none => ?_
    exact absurd none List.not_mem_nil

theorem quiet (h : r.Fair K x c) (quiet : Quiet r r') : r'.Fair K x c := by
  cases quiet with
  | noticed hook plain => exact h.plain plain
  | absorbed c =>
    refine h.of_append ?_ rfl rfl fun e context mem => ?_
    · -- What comes back from a context changes scopes, and no flows.
      unfold Request.absorb adopt absorbSessions
      cases r.execution.sessions with
      | nil => rfl
      | cons s rest => cases c.session? <;> rfl
    · simp at mem
  | session f flow => exact h.updateSession flow
  | _ => exact ⟨h.sessions, h.directory, h.announced⟩

end Request.Fair

/-- The move leads to a state that is there, or into a flow of the kind. -/
def Move.Sound (K : Flow → Prop) : Move → Prop
  | .begin flow _ => K flow
  | .enter flow target => K flow ∧ flow.hasState target = true
  | .rest => True

namespace Engine

instance {x : Execution} {c : Call} {limit : Nat} {sheltered : Bool} :
    Moments.Flowing fun move r => c.Reaches x ⟨move, limit, sheltered⟩ r :=
  ⟨fun ⟨admitted, here⟩ came => ⟨admitted, here.within came⟩⟩

section

variable {K : Flow → Prop} {x : Execution} {c : Call}

instance : Leaving fun r r' => r.Fair K x c → r'.Fair K x c where
  quiet h fair := fair.quiet h
  taken r t fair := fair.of_append rfl rfl rfl (by simp)
  fired r t fair := fair.of_append rfl rfl rfl (by simp)
  exited r state position passed fair := fair.of_append rfl rfl rfl (by simp)

/-- Where the work goes on: in a flow of the kind, and in one of its states. -/
structure Among (K : Flow → Prop) (x : Execution) (c : Call) (flow : Flow) (state : Option State)
    (r : Request) : Prop where
  fair : r.Fair K x c
  known : K flow
  here : ∀ s, state = some s → s ∈ flow.states

/-- The error is excused. -/
def Pardoned (K : Flow → Prop) (x : Execution) (c : Call) (stop : Stop) (r : Request) : Prop :=
  (∀ e, stop = .raised e → e.Excused K x c) ∧ r.Fair K x c

theorem Pardoned.endless {r : Request} (fair : r.Fair K x c) : Pardoned K x c .endless r := by
  refine ⟨fun e same => ?_, fair⟩
  cases same

theorem Pardoned.raised {e : ExecutionError} {r : Request} (excused : e.Excused K x c)
    (fair : r.Fair K x c) : Pardoned K x c (.raised e) r :=
  ⟨fun _ same => by cases same; exact excused, fair⟩

variable (closed : ∀ f, K f → f.Closed)
include closed

/-- A transition that leads to no state has no name for it that could have been looked at. -/
theorem excused_of_astray {flow : Flow} {state : State} {t : Transition} {e : ExecutionError}
    {limit : Nat} {sheltered : Bool} {r r' : Request} (known : K flow) (here : state ∈ flow.states)
    (way : t ∈ flow.ways state)
    (fires : c.Reaches x ⟨executeTransition flow state t, limit, sheltered⟩ r)
    (fails : outcome (executeTransition flow state t) r = (.error (.raised e), r'))
    (astray : Astray flow state t r' e) : e.Excused K x c := by
  rintro _ _ named rfl
  cases astray with
  | targetless names other => exact .targetless known here way fires fails names other
  | @missing target _ names now missing =>
    cases target with
    | computed expression => exact .computed known here way fires fails names now missing
    | fixed id =>
      cases now
      have found : flow.hasState named = true := by
        rcases List.mem_append.mp way with own | global
        · exact (closed flow known).transitions state here t own named names
        · exact (closed flow known).globalTransitions t global named names
      cases missing.symm.trans found

theorem excusing (limit : Nat) (sheltered : Bool) :
    Course (fun move r => c.Reaches x ⟨move, limit, sheltered⟩ r) (Among K x c)
      (fun flow state _ => Among K x c flow (some state)) (Request.Fair K x c)
      (fun move r => move.Sound K ∧ r.Fair K x c) (Pardoned K x c) where
  hush h among := { among with fair := among.fair.quiet h.quiet }
  session flow _ among := { among with fair := among.fair.updateSession flow }
  fails fails among := .raised (.of_missed fails.2) among.fair
  astray way fires fails astray among :=
    .raised (excused_of_astray closed among.known (among.here _ rfl) way fires fails astray)
      among.fair
  shows _ _ among := ⟨trivial, among.fair⟩
  leaves {flow state} t target there := by
    rintro r ⟨fair, known, here⟩
    have leads : Ensures (Request.Fair K x c) (depart flow state t target)
        (fun move r => move = .enter flow target ∧ r.Fair K x c) (Pardoned K x c) :=
      depart_keeps (fun fails fair => .raised (.of_missed fails.2) fair) t target
    refine (leads.gives ?_) r fair
    rintro _ r ⟨rfl, fair⟩
    exact ⟨⟨known, there⟩, fair⟩
  calls input _ had among := ⟨among.fair.directory _ _ had, among.fair⟩
  opens {flow input r} next := by
    obtain ⟨known, fair⟩ := next
    have told : (r.told (.sessionStarting flow.id input)).Fair K x c := fair.other nofun
    refine ⟨⟨fun s mem => ?_, told.directory, told.announced⟩, known, nofun⟩
    rcases List.mem_cons.mp mem with rfl | mem
    · exact known
    · exact fair.sessions s mem
  started {flow r} among :=
    ⟨⟨among.known, (closed flow among.known).start⟩, among.fair.plain rfl⟩
  enters {flow target state s r} found _ next := by
    have told : (r.told (.stateEntering state.id)).Fair K x c := next.2.other nofun
    refine ⟨told.updateSession fun _ => rfl, next.1.1, fun _ same => ?_⟩
    cases same
    exact List.mem_of_find?_eq_some found
  acts _ among := { among with fair := among.fair.quiet (.absorbed _) }
  stumbles fails among := .raised (.of_missed fails.2) among.fair
  entered among := { among with fair := among.fair.plain rfl }
  misses missing next := by
    have there := next.1.2
    simp [Flow.hasState, missing] at there
  nobody _ _ next := .raised (.of_missed rfl) (next.2.other nofun)
  finishes {flow state r} output _ among := by
    intro left
    have fair : left.Fair K x c := among.fair.dropSession.other nofun
    exact ⟨trivial, fair.sessions, fair.directory, fair.announced⟩
  returns _ _ among := among.fair.dropSession.other nofun
  resumes {parent state part transitions r} top here _ fair := by
    obtain ⟨id, -, found⟩ := Option.bind_eq_some_iff.mp here
    refine ⟨fair, fair.sessions parent (List.mem_of_head? top), fun _ same => ?_⟩
    cases same
    exact List.mem_of_find?_eq_some found
  refuses _ _ fair := .raised (.of_missed rfl) fair

/-! ### The first move, and the way on after an error -/

theorem first_excuses (known : K x.flow) :
    Upon (fun move r => c.Reaches x ⟨move, moveLimit, true⟩ r) (Request.Fair K x c) (c.first x)
      (fun move r => move.Sound K ∧ r.Fair K x c) (Pardoned K x c) := by
  have course := excusing (x := x) (c := c) closed moveLimit true
  cases c with
  | start input external directory =>
    refine .of (course.opening fun r fair => ?_)
    exact course.opens ⟨known, fair⟩
  | resume event external directory =>
    have resuming : Resuming
        (fun move r => Call.Reaches x (.resume event external directory) ⟨move, moveLimit, true⟩ r)
        (Request.Fair K x (.resume event external directory))
        (fun move r => move.Sound K ∧ r.Fair K x (.resume event external directory))
        (Pardoned K x (.resume event external directory)) :=
      { hush := fun h fair => fair.quiet h.quiet
        flash := fun fair => ⟨fair.sessions, fair.directory, fair.announced⟩
        goes := fun {s state r} top here fair => by
          obtain ⟨found, -⟩ := Place.of_state? here
          refine ⟨_, ⟨fair, fair.sessions s (List.mem_of_head? top), fun _ same => ?_⟩,
            course.outing s.flow state⟩
          cases same
          exact List.mem_of_find?_eq_some found
        refuses := fun _ _ fair => .raised (.of_missed rfl) fair }
    exact resuming.resumption event

omit closed in
/-- A state that a handler has declared is there. -/
theorem declared_there {s : Session Flow} {h : Handler} {target : String} (good : s.flow.Closed)
    (asked : h ∈ s.handlers) (declared : h.target = some target) :
    s.flow.hasState target = true := by
  unfold Session.handlers at asked
  rcases List.mem_append.mp asked with inState | own
  · cases here : s.state.bind s.flow.state? with
    | none => simp [here] at inState
    | some state =>
      obtain ⟨id, -, found⟩ := Option.bind_eq_some_iff.mp here
      have inState : h ∈ state.handlers := by simpa [here] using inState
      exact good.stateHandlers state (List.mem_of_find?_eq_some found) h inState target declared
  · exact good.handlers h own target declared

theorem consult_excuses {e : ExecutionError} (excused : e.Excused K x c) :
    Upon (fun move r => c.Reaches x ⟨move, moveLimit, false⟩ r) (Request.Fair K x c) (consult e)
      (fun move r => move.Sound K ∧ r.Fair K x c) (Pardoned K x c) := by
  refine .consult (.raised excused) fun {r s h} top found asks fair => ?_
  rw [handlerFor_eq] at found
  have known : K s.flow := fair.sessions s (List.mem_of_head? top)
  have after : (r.absorb (h.handle e r.context).2).Fair K x c := fair.quiet (.absorbed _)
  refine .obey ?_ ?_ fun target sent => .reroute (R := Request.Fair K x c) ?_ ?_ ?_
  · rintro e' failed _ rfl
    refine .raised ?_ after
    rintro _ _ _ rfl
    exact .raised known asks top found failed
  · rintro - _ rfl
    exact ⟨trivial, after⟩
  · have exits : Does (fun r r' => r.Fair K x c → r'.Fair K x c)
      (s.flow.FailsIn s.state) (exitPosition s) := .exitPosition s
    exact (exits.maintains (fun step => step)
      fun fails fair => .raised (.of_missed fails.2) fair).given fun _ same => same ▸ after
  · exact fun there _ fair => ⟨⟨known, there⟩, fair⟩
  · rintro missing _ rfl
    refine .raised ?_ after
    rintro _ _ _ ⟨⟩
    refine .undeclared known asks top found sent (fun declared => ?_) missing
    cases missing.symm.trans
      (declared_there (closed _ known) (List.mem_of_find?_eq_some found) declared)

/-- A call that is not refused keeps to flows of the kind, and its errors are excused. -/
theorem serve_excuses (known : K x.flow) (admitted : c.Admitted x)
    (fair : (c.opening x).Fair K x c) :
    Ensures (· = c.opening x) (serve (c.first x)) (fun _ r => r.Fair K x c) (Pardoned K x c) := by
  rintro _ rfl
  have proceeds (sheltered : Bool) {first : Engine Move}
      (h : Upon (fun move r => c.Reaches x ⟨move, moveLimit, sheltered⟩ r) (Request.Fair K x c)
        first (fun move r => move.Sound K ∧ r.Fair K x c) (Pardoned K x c)) :=
    Course.proceed (M := fun limit move r => c.Reaches x ⟨move, limit, sheltered⟩ r)
      (fun limit => excusing closed limit sheltered) (fun here came => ⟨here.1, here.2.next came⟩)
      (fun _ next => .endless next.2) moveLimit h
  have pauses : Ensures (Request.Fair K x c) pause (fun _ => Request.Fair K x c)
      (Pardoned K x c) := by
    have does : Does (fun r r' => r.Fair K x c → r'.Fair K x c) (fun _ => False) pause := .pause
    exact does.maintains (fun step => step) fun none => none.elim
  have moves := proceeds true (first_excuses closed known) (c.opening x)
    ⟨fair, admitted, .first⟩
  rcases came : outcome (c.first x >>= proceed moveLimit) (c.opening x) with ⟨stop | done, r⟩ <;>
    rw [came] at moves
  · cases stop with
    | endless =>
      rw [outcome_serve_endless came]
      exact moves
    | raised e =>
      have goesOn : afterError e = (consult e >>= proceed moveLimit) >>= fun _ => pause :=
        (bind_assoc ..).symm
      rw [outcome_serve_raised came, goesOn]
      have begins : Reaches (c.first x) (c.opening x) _ _ := .first
      have recovers := begins.recovers came
      rw [recover_eq] at recovers
      have asks : c.Reaches x ⟨consult e, moveLimit, false⟩ (r.told (.exceptionThrown e)) :=
        ⟨admitted, recovers.within rfl⟩
      have excused := moves.1 e rfl
      have told : (r.told (.exceptionThrown e)).Fair K x c := moves.2.told fun _ same => by
        cases same
        exact excused
      have after := proceeds false (consult_excuses closed excused)
      exact (Ensures.bind after fun _ => pauses.given fun _ rests => rests.2) _ ⟨told, asks⟩
  · rw [outcome_serve_done came]
    exact pauses r moves.2

end

end Engine

/-! ## Calls -/

/-- The execution and its sessions are of flows of the kind. -/
structure Execution.Within (K : Flow → Prop) (x : Execution) : Prop where
  flow : K x.flow
  sessions : ∀ s ∈ x.sessions, K s.flow

/-- The flows that can be had are of the kind. -/
def Directory.Gives (K : Flow → Prop) (directory : Directory) : Prop :=
  ∀ id f, directory id = .ok f → K f

/-- The error was announced in the course of the call, or it is what the call came to. -/
def Answer.Raises (a : Answer) (e : ExecutionError) : Prop :=
  (∃ context, .notice (.exceptionThrown e) context ∈ a.journal) ∨ a.result = .error (.raised e)

namespace Execution

variable {K : Flow → Prop} {x : Execution}

/-- A call keeps an execution to flows of the kind, and its errors are excused. -/
theorem call_excused (closed : ∀ f, K f → f.Closed) (among : x.Within K) (c : Call)
    (gives : c.directory.Gives K) :
    (c.answer x).execution.Within K ∧ ∀ e, (c.answer x).Raises e → e.Excused K x c := by
  by_cases admitted : c.Admitted x
  · have opening : (c.opening x).Fair K x c := by
      refine ⟨?_, fun id f had => gives id f (c.opening_directory x ▸ had), fun e context mem => ?_⟩
      · cases c <;> exact among.sessions
      · cases c with
        | start => cases mem
        | resume => cases List.mem_singleton.mp mem
    have served := Engine.serve_excuses closed among.flow admitted opening _ rfl
    have flow : (Engine.outcome (Engine.serve (c.first x)) (c.opening x)).2.execution.flow =
        x.flow := by
      have setting := ((c.first_tracked x).serve.changes (c.opening x)).setting_eq
      refine (congrArg Setting.flow setting).trans ?_
      cases c <;> rfl
    rw [Call.answer_of_admitted admitted]
    rcases came : Engine.outcome (Engine.serve (c.first x)) (c.opening x) with ⟨stop | done, r⟩ <;>
      rw [came] at served flow
    · refine ⟨⟨flow ▸ among.flow, served.2.sessions⟩, ?_⟩
      rintro e (⟨context, announced⟩ | failed)
      · exact served.2.announced e context announced
      · cases failed
        exact served.1 e rfl
    · refine ⟨⟨flow ▸ among.flow, served.sessions⟩, ?_⟩
      rintro e (⟨context, announced⟩ | failed)
      · exact served.announced e context announced
      · cases failed
  · obtain ⟨reason, refused⟩ := Call.answer_of_not_admitted admitted
    rw [refused]
    refine ⟨among, ?_⟩
    rintro e (⟨context, announced⟩ | failed)
    · cases announced
    · cases failed
      exact .of_missed rfl

theorem restoreSessions_within {directory : Directory} {root : Flow}
    {stored : List (Session String)} {sessions : List (Session Flow)} (gives : directory.Gives K)
    (known : K root)
    (ok : restoreSessions directory root stored = .ok sessions) : ∀ s ∈ sessions, K s.flow := by
  induction stored generalizing sessions with
  | nil =>
    cases ok
    exact fun s none => absurd none List.not_mem_nil
  | cons t outer ih =>
    rw [restoreSessions] at ok
    split at ok
    · cases ok
    · rename_i below restored
      split at ok
      · cases ok
      · rename_i inner here
        cases ok
        have flow : K inner.flow := by
          unfold restoreSession at here
          split at here
          · cases here
            exact known
          · split at here
            · rename_i flow had
              cases here
              exact gives _ _ had
            · cases here
        intro s mem
        rcases List.mem_cons.mp mem with rfl | mem
        · exact flow
        · exact ih restored s mem

/-- What comes out of a store is of the flows that can be had, whatever was stored. -/
theorem restore_within {directory : Directory} {listeners : List Listener} {snapshot : Snapshot}
    {scope : Attributes} {key : Key} (gives : directory.Gives K)
    (ok : restore directory listeners snapshot scope key = .ok x) : x.Within K := by
  unfold restore at ok
  split at ok
  · cases ok
  · rename_i root had
    have known : K root := gives _ _ had
    split at ok
    · cases ok
    · rename_i sessions restored
      cases ok
      exact ⟨known, restoreSessions_within gives known restored⟩

/-- What one call keeps, any number of calls keep. -/
theorem after_within (closed : ∀ f, K f → f.Closed) (among : x.Within K) (calls : List Call)
    (gives : ∀ c ∈ calls, c.directory.Gives K) : (x.after calls).Within K := by
  induction calls generalizing x with
  | nil => exact among
  | cons c rest ih =>
    have here := (call_excused closed among c (gives c List.mem_cons_self)).1
    exact ih here fun d mem => gives d (List.mem_cons_of_mem _ mem)

end Execution

/-- **Targets do not dangle.** What a builder hands over is closed: there are states, the start
state is one of them, and so is each that a transition or a handler names. And in any run over
closed flows, whenever a call misses a state, it has come to a transition whose target is computed
then, to one without a target outside of views, or to a handler that goes where it had not declared
to go or raises the error itself. -/
theorem targets_found :
    (∀ (b : Builder) context f, (FlowBuilder.assemble context b).1 = .ok f → f.Closed) ∧
      ∀ K : Flow → Prop, (∀ f, K f → f.Closed) → ∀ x : Execution, x.Within K →
        ∀ (before : List Call) (c : Call), (∀ d ∈ before ++ [c], d.directory.Gives K) →
          ∀ flow place target, (c.answer (x.after before)).Raises
            (.targetStateNotFound flow place target) →
              c.Misses K (x.after before) flow place target := by
  refine ⟨fun b context f ok => Builder.assemble_closed ok, ?_⟩
  intro K closed x among before c gives flow place target raised
  have started : (x.after before).Within K :=
    Execution.after_within closed among before fun d mem => gives d (List.mem_append_left _ mem)
  have gives_here : c.directory.Gives K := gives c (by simp)
  exact (Execution.call_excused closed started c gives_here).2 _ raised _ _ _ rfl

/-! ## A computed target -/

/-- The call came to nothing but a state that was missed. -/
def Answer.misses (flow place target : String) (a : Answer) : Bool :=
  match a.result with
  | .error (.raised (.targetStateNotFound f p t)) => f = flow && p = place && t = target
  | _ => false

theorem Answer.raises_of_misses {flow place target : String} {a : Answer}
    (h : a.misses flow place target = true) :
    a.Raises (.targetStateNotFound flow place target) := by
  unfold misses at h
  split at h
  · rename_i failed
    simp only [Bool.and_eq_true, decide_eq_true_eq, and_assoc] at h
    obtain ⟨rfl, rfl, rfl⟩ := h
    exact .inr failed
  · cases h

/-- A model whose only transition goes where a variable tells. -/
def signpost : FlowModel :=
  let away : TransitionModel :=
    ⟨some "go", none, some "$\x7bflowScope.place\x7d", [], none, .empty⟩
  { FlowModel.empty with
    vars := [⟨"place", some (.text "nowhere"), none⟩]
    states := [⟨"here", .view none false false [] [] [away], [], [], [], .empty⟩] }

def signposted : Except BuildError Flow :=
  (FlowBuilder.assemble ⟨"trip", .empty, .ofActions []⟩ (Builder.new (.ofModel (.ok signpost)))).1

@[irreducible] def trip : Flow := signposted.toOption.getD (.blank "trip" .empty)

/-- Nowhere is missed in a flow where nothing but a computed target can be. -/
theorem nowhere_is_computed :
    let launch : Call := .start .empty ⟨"", .empty⟩ fun _ => .ok trip
    let go : Call := .resume (some (.named "go")) ⟨"", .empty⟩ fun _ => .ok trip
    trip.Closed ∧ go.Misses (· = trip) ((Execution.create trip []).after [launch])
      "trip" "here" "nowhere" := by
  intro launch go
  obtain ⟨closed, excused⟩ := targets_found
  have built : signposted = .ok trip := by
    have good : signposted.isOk = true := by decide +kernel
    unfold trip
    exact eq_ok_of_isOk good _
  have known : trip.Closed := closed _ _ trip built
  have gives : ∀ d ∈ [launch] ++ [go], d.directory.Gives (· = trip) := by
    intro d mem id f had
    simp only [List.cons_append, List.nil_append, List.mem_cons, List.not_mem_nil, or_false] at mem
    rcases mem with rfl | rfl <;> cases had <;> rfl
  have among : (Execution.create trip []).Within (· = trip) := by
    constructor
    · rfl
    · intro s none
      exact absurd none List.not_mem_nil
  have missed : (go.answer ((Execution.create trip []).after [launch])).misses
      "trip" "here" "nowhere" = true := by decide +kernel
  have flows : ∀ f, f = trip → f.Closed := fun f same => same ▸ known
  exact ⟨known, excused _ flows _ among [launch] go gives _ _ _ (Answer.raises_of_misses missed)⟩

end Parley
