import Parley.Proofs.Stance

/-!
# Parley.Proofs.Course

The course of a request, and what has to be known of it so that something holds throughout. The
engine is walked through once, and whoever wants to know something of its moves says what it is in a
state, on the way into one, between two sessions and at rest, and why each of these gives the next.

* `Engine.Outing`: what has to be known of the work in a state, from its transitions to the way out.
* `Engine.Course`: what has to be known of the moves. `Engine.Course.step`, `Engine.Course.proceed`:
  then it is known of each of them, and of one after the other.
* `Engine.Moments`: which moments a request comes to, where that matters.
-/

namespace Parley

/-- Where a state of a flow may go next. -/
def Flow.ways (f : Flow) (s : State) : List Transition := s.transitions ++ f.globalTransitions

/-- What every touch keeps is kept on the way out of a state. -/
theorem Parting.of_touch {P : Request → Prop} (kept : ∀ {r r'}, Touch r r' → P r → P r') :
    Parting fun r r' => P r → P r' where
  hush h := kept h.quiet.touch
  session _ _ flow state := kept (.session _ flow state)
  taken _ t := kept (.taken t)
  fired _ t := kept (.fired t)
  exited _ state position passed := kept (.exited state position passed)

namespace Engine

variable {α β : Type}

/-! ## Moments -/

/-- Moments of a request: what is left of a move, and the request as it is then. -/
abbrev Moments := Engine Move → Request → Prop

/-- When a part of what is left is done, the rest is left. -/
class Moments.Flowing (M : Moments) : Prop where
  within : ∀ {α : Type} {x : Engine α} {f : α → Engine Move} {a : α} {r r' : Request},
    M (x >>= f) r → outcome x r = (.ok a, r') → M (f a) r'

/-- Any moment at all. -/
def Moments.any : Moments := fun _ _ => True

instance : Moments.any.Flowing := ⟨fun _ _ => trivial⟩

/-- Work that begins with `P` at one of the moments comes to a result with `Q`, or stops with
`F`. -/
def Upon (M : Moments) (P : Request → Prop) (x : Engine Move) (Q : Move → Request → Prop)
    (F : Stop → Request → Prop) : Prop := Ensures (fun r => P r ∧ M x r) x Q F

namespace Upon

variable {M : Moments} {P P' R : Request → Prop} {Q : Move → Request → Prop}
  {F : Stop → Request → Prop} {x : Engine Move}

theorem of (h : Ensures P x Q F) : Upon M P x Q F := h.given fun _ => And.left

theorem any (h : Upon .any P x Q F) : Ensures P x Q F := h.given fun _ known => ⟨known, trivial⟩

theorem given (h : Upon M P x Q F) (pre : ∀ r, P' r → P r) : Upon M P' x Q F :=
  Ensures.given h fun r ⟨known, here⟩ => ⟨pre r known, here⟩

variable [M.Flowing]

theorem bind {y : Engine α} {f : α → Engine Move} {S : α → Request → Prop} (hy : Ensures P y S F)
    (hf : ∀ a, Upon M (S a) (f a) Q F) : Upon M P (y >>= f) Q F := by
  rintro r ⟨known, here⟩
  have comes := hy r known
  rw [outcome_bind]
  rcases came : outcome y r with ⟨stop | a, r'⟩ <;> rw [came] at comes
  · exact comes
  · exact hf a r' ⟨comes, Moments.Flowing.within here came⟩

/-- What was read is the request as it still is. -/
theorem read {f : Request → Engine Move} (h : ∀ r, P r → Upon M (· = r) (f r) Q F) :
    Upon M P (MonadState.get >>= f) Q F := by
  rintro r ⟨known, here⟩
  exact h r known r ⟨rfl, Moments.Flowing.within here rfl⟩

theorem modify {g : Request → Request} {f : Unit → Engine Move} (change : ∀ r, P r → R (g r))
    (h : Upon M R (f ()) Q F) : Upon M P (modify g >>= f) Q F :=
  bind (S := fun _ => R) change fun _ => h

end Upon

/-! ## In a state -/

/-- The way out of a state by a transition once its target is known. -/
def depart (flow : Flow) (state : State) (t : Transition) (target : String) : Engine Move := do
  modify (Request.take t)
  exitState flow state
  modify (Request.fire t)
  return .enter flow target

/-- The error that the transition leads to no state: it has no target, and there is no view to
render again, or the flow has no state of that name. -/
inductive Astray (flow : Flow) (state : State) (t : Transition) (r : Request) :
    ExecutionError → Prop where
  | targetless (none : t.target = none) (other : state.isView = false) :
      Astray flow state t r (.targetStateNotFound flow.id state.id "<none>")
  | missing {target : Target} {named : String} (some : t.target = some target)
      (now : target.resolve r.context = .ok named) (missing : flow.hasState named = false) :
      Astray flow state t r (.targetStateNotFound flow.id state.id named)

/-- What stops a transition: something that is known of the work in a state, or the error that the
transition leads to none. -/
def Lost (flow : Flow) (state : State) (t : Transition) (P : Request → Prop)
    (F : Stop → Request → Prop) (stop : Stop) (r : Request) : Prop :=
  F stop r ∨ ∃ e, stop = .raised e ∧ Astray flow state t r e ∧ P r

theorem Astray.raises {flow : Flow} {state : State} {t : Transition} {r : Request}
    {e : ExecutionError} (h : Astray flow state t r e) : flow.RaisesIn (some state.id) e := by
  cases h <;> exact ⟨rfl, fun _ same => same⟩

theorem renderView_yields (flow : Flow) (state : State) (part : ViewPart) :
    Yields (renderView flow state part) fun move r => move = .rest ∧ r.Shows part := by
  refine .bind fun _ => Ensures.read fun r _ => ?_
  split
  · exact .raise fun _ _ => trivial
  · rename_i view made
    refine .modify (R := Request.Shows part) ?_ (.pure fun _ shows => ⟨rfl, shows⟩)
    rintro r' rfl
    exact ⟨view, r'.execution.view, rfl, made⟩

/-- What a way out of a state keeps is known where it leads. -/
theorem depart_keeps {P : Request → Prop} [Parting fun r r' => P r → P r']
    {F : Stop → Request → Prop} {flow : Flow} {state : State}
    (fails : ∀ {e r}, flow.FailsIn (some state.id) e → P r → F (.raised e) r) (t : Transition)
    (target : String) :
    Ensures P (depart flow state t target) (fun move r => move = .enter flow target ∧ P r) F := by
  have does : Does (fun r r' => P r → P r') (flow.FailsIn (some state.id))
    (exitState flow state) := .exitState flow state
  have exits : Ensures P (exitState flow state) (fun _ => P) F :=
    does.maintains (fun step => step) fails
  have taken (r : Request) : P r → P (r.take t) := Parting.taken (R := fun r r' => P r → P r') r t
  have fired (r : Request) : P r → P (r.fire t) := Parting.fired (R := fun r r' => P r → P r') r t
  exact .modify taken (.bind exits fun _ => .modify fired (.pure fun _ known => ⟨rfl, known⟩))

/-- What is known while work goes on in a state, and what is then known of where it leads. -/
structure Outing (M : Moments) (flow : Flow) (state : State) (P : Request → Prop)
    (Q : Move → Request → Prop) (F : Stop → Request → Prop) : Prop where
  hush : ∀ {r r'}, Hush r r' → P r → P r'
  fails : ∀ {e r}, flow.FailsIn (some state.id) e → P r → F (.raised e) r
  astray : ∀ {t e r r'}, t ∈ flow.ways state → M (executeTransition flow state t) r →
    outcome (executeTransition flow state t) r = (.error (.raised e), r') →
    Astray flow state t r' e → P r' → F (.raised e) r'
  shows : ∀ {part transitions r}, state.kind = .view part transitions → r.Shows part → P r →
    Q .rest r
  leaves : ∀ t {target}, flow.hasState target = true → Ensures P (depart flow state t target) Q F

instance : Hushed Hush := ⟨fun h => h⟩

namespace Outing

variable {M : Moments} {flow : Flow} {state : State} {P : Request → Prop}
  {Q : Move → Request → Prop} {F F' : Stop → Request → Prop} (o : Outing M flow state P Q F)
include o

theorem stops (weaker : ∀ stop r, F stop r → F' stop r) : Outing M flow state P Q F' where
  hush := o.hush
  fails fails known := weaker _ _ (o.fails fails known)
  astray way fires failed astray known := weaker _ _ (o.astray way fires failed astray known)
  shows := o.shows
  leaves t _ there := (o.leaves t there).stops weaker

theorem keeps {x : Engine α} (h : Does Hush (flow.FailsIn (some state.id)) x) :
    Ensures P x (fun _ => P) F := h.maintains o.hush o.fails

theorem renderView {part : ViewPart} {transitions : List Transition}
    (kind : state.kind = .view part transitions) : Ensures P (renderView flow state part) Q F := by
  refine ((o.keeps (.renderView flow state part)).and_yields
    (renderView_yields flow state part)).gives ?_
  rintro move r ⟨known, rfl, shows⟩
  exact o.shows kind shows known

theorem resolveTarget {t : Transition} {target : Target} (names : t.target = some target) :
    Ensures P (resolveTarget flow state target) (fun named r => flow.hasState named = true ∧ P r)
      (Lost flow state t P F) := by
  refine .read fun r known => ?_
  split
  · refine .raise fun _ same => .inl (o.fails ⟨⟨rfl, fun _ told => ?_⟩, rfl⟩ (same ▸ known))
    cases told
  · rename_i named now
    split
    · rename_i there
      exact .pure fun _ same => ⟨there, same ▸ known⟩
    · rename_i missing
      refine .raise fun _ same => .inr ⟨_, rfl, ?_, same ▸ known⟩
      subst same
      exact .missing names now (by simpa using missing)

theorem executeTransition_lost (t : Transition) :
    Ensures P (executeTransition flow state t) Q (Lost flow state t P F) := by
  have keeps {α : Type} {x : Engine α} (h : Does Hush (flow.FailsIn (some state.id)) x) :
      Ensures P x (fun _ => P) (Lost flow state t P F) := (o.keeps h).stops fun _ _ => .inl
  refine .bind (keeps (.modify (fun _ _ => rfl) fun _ => .transition _)) fun _ =>
    .bind (keeps (.mention _ rfl)) fun _ => .bind (keeps (.passGuards flow state t)) fun _ => ?_
  split
  · rename_i names
    split
    · rename_i kind
      exact (o.renderView kind).stops fun _ _ => .inl
    · rename_i other
      refine .raise fun r known => .inr ⟨_, rfl, .targetless names ?_, known⟩
      unfold State.isView
      split
      · rename_i part transitions kind
        exact absurd kind (other part transitions)
      · rfl
  · rename_i target names
    refine .bind (o.resolveTarget names) fun named => ?_
    rintro r ⟨there, known⟩
    exact (o.leaves t there).stops (fun _ _ => .inl) r known

/-- That a state is missed is excused by the whole of the work, so only here. -/
theorem executeTransition {t : Transition} (way : t ∈ flow.ways state) :
    Upon M P (executeTransition flow state t) Q F := by
  rintro r ⟨known, here⟩
  have comes := o.executeTransition_lost t r known
  rcases came : outcome (Engine.executeTransition flow state t) r with ⟨stop | move, r'⟩ <;>
    rw [came] at comes
  · obtain failed | ⟨e, rfl, astray, still⟩ := comes
    · exact failed
    · exact o.astray way here came astray still
  · exact comes

variable [M.Flowing]

theorem takeTransition : Upon M P (takeTransition flow state) Q F := by
  refine .read fun r known => ?_
  split
  · rename_i t found
    exact (o.executeTransition (List.mem_of_find?_eq_some found)).given fun _ same => same ▸ known
  · exact .of (.raise fun _ same => o.fails ⟨⟨rfl, fun _ same => same⟩, rfl⟩ (same ▸ known))

theorem runUntilMatch (signaled : List String) (actions : List Action) :
    Upon M P (runUntilMatch flow state signaled actions) Q F := by
  induction actions generalizing signaled with
  | nil => exact .of (.raise fun _ known => o.fails ⟨⟨rfl, fun _ same => same⟩, rfl⟩ known)
  | cons action rest ih =>
    refine .bind (o.keeps (.runAction flow (some state) action)) fun event =>
      .bind (o.keeps (.signal event)) fun _ => .read fun r known => ?_
    split
    · rename_i t found
      exact (o.executeTransition (List.mem_of_find?_eq_some found)).given
        fun _ same => same ▸ known
    · exact (ih _).given fun _ same => same ▸ known

end Outing

/-! ## Moves -/

/-- What is known of moves: `At` in a state, or in a session that has entered none, `Entering` on
the way into a state, `Below` when a session has ended over another one, `Q` of the move that is
next, and `F` of what stops them. -/
structure Course (M : Moments) (At : Flow → Option State → Request → Prop)
    (Entering : Flow → State → Option String → Request → Prop) (Below : Request → Prop)
    (Q : Move → Request → Prop) (F : Stop → Request → Prop) : Prop where
  -- Work that goes on where a session stands, and the ways out of a state.
  hush : ∀ {flow state r r'}, Hush r r' → At flow state r → At flow state r'
  session : ∀ {flow state r} {f : Session Flow → Session Flow}, (∀ s, (f s).flow = s.flow) →
    (∀ s, (f s).state = s.state) → At flow state r → At flow state (r.updateSession f)
  fails : ∀ {flow state e r}, flow.FailsIn (state.map State.id) e → At flow state r →
    F (.raised e) r
  astray : ∀ {flow state t e r r'}, t ∈ flow.ways state →
    M (executeTransition flow state t) r →
    outcome (executeTransition flow state t) r = (.error (.raised e), r') →
    Astray flow state t r' e → At flow (some state) r' → F (.raised e) r'
  shows : ∀ {flow state part transitions r}, state.kind = .view part transitions →
    r.Shows part → At flow (some state) r → Q .rest r
  leaves : ∀ {flow state} t {target}, flow.hasState target = true →
    Ensures (At flow (some state)) (depart flow state t target) Q F
  -- A session begins.
  calls : ∀ {flow state part transitions id subflow r} input,
    state.kind = .subflow part transitions → r.directory id = .ok subflow →
    At flow (some state) r → Q (.begin subflow input) r
  opens : ∀ {flow input r}, Q (.begin flow input) r →
    At flow none ((r.told (.sessionStarting flow.id input)).addSession (.fresh flow))
  started : ∀ {flow r}, At flow none r →
    Q (.enter flow flow.startState) (r.told (.sessionStarted flow.id))
  -- A state is entered, or is not there.
  enters : ∀ {flow target state s r}, flow.state? target = some state →
    r.execution.session? = some s → Q (.enter flow target) r →
    Entering flow state s.state
      ((r.told (.stateEntering state.id)).updateSession fun s => { s with state := some state.id })
  acts : ∀ {flow state previous r} c, Entering flow state previous r →
    Entering flow state previous (r.absorb c)
  stumbles : ∀ {flow state previous e r}, flow.FailsIn (some state.id) e →
    Entering flow state previous r → F (.raised e) r
  entered : ∀ {flow state previous r}, Entering flow state previous r →
    At flow (some state) (r.told (.stateEntered previous state.id))
  misses : ∀ {flow target r}, flow.state? target = none → Q (.enter flow target) r →
    F (.raised (.targetStateNotFound flow.id (r.execution.state?.getD "<start>") target)) r
  nobody : ∀ {flow target state r}, flow.state? target = some state →
    r.execution.session? = none → Q (.enter flow target) r →
    F (.raised (.illegalState "no active flow session")) (r.told (.stateEntering state.id))
  -- A session ends, and the one below goes on.
  finishes : ∀ {flow state r} output, r.execution.sessions.length = 1 → At flow (some state) r →
    let left := r.dropSession.told (.sessionEnded flow.id output)
    Q .rest { left with
      execution := { left.execution with status := .ended, outcome := some ⟨state.id, output⟩ } }
  returns : ∀ {flow state r} output, r.execution.sessions.length ≠ 1 → At flow (some state) r →
    Below (r.dropSession.told (.sessionEnded flow.id output))
  resumes : ∀ {parent state part transitions r}, r.execution.session? = some parent →
    parent.state.bind parent.flow.state? = some state → state.kind = .subflow part transitions →
    Below r → At parent.flow (some state) r
  refuses : ∀ {r} reason, (∀ parent, r.execution.session? = some parent →
    ¬ parent.place.InSubflow) → Below r → F (.raised (.illegalState reason)) r

namespace Course

variable {M : Moments} {At : Flow → Option State → Request → Prop}
  {Entering : Flow → State → Option String → Request → Prop} {Below : Request → Prop}
  {Q : Move → Request → Prop} {F : Stop → Request → Prop} (course : Course M At Entering Below Q F)
  {flow : Flow} {state : State}
include course

theorem failsIn {e : ExecutionError} {r : Request} (fails : flow.FailsIn (some state.id) e)
    (known : At flow (some state) r) : F (.raised e) r := by
  have laid : flow.FailsIn (Option.map State.id (some state)) e := fails
  exact course.fails laid known

theorem outing (flow : Flow) (state : State) : Outing M flow state (At flow (some state)) Q F where
  hush := course.hush
  fails := course.failsIn
  astray := course.astray
  shows := course.shows
  leaves := course.leaves

/-- Work that goes on where a session stands. -/
theorem keeps {state : Option State} {x : Engine α} {E : ExecutionError → Prop}
    (h : ∀ {R : Request → Request → Prop} [Stirring R], Does R E x)
    (laid : ∀ e, E e → flow.FailsIn (state.map State.id) e) :
    Ensures (At flow state) x (fun _ => At flow state) F := by
  have : Stirring fun r r' => At flow state r → At flow state r' :=
    { hush := course.hush, session := fun _ _ => course.session }
  have kept : Does (fun r r' => At flow state r → At flow state r') E x := h
  exact kept.maintains (fun step => step) fun raised known => course.fails (laid _ raised) known

/-- Work that cannot fail. -/
theorem settles {state : Option State} {x : Engine α}
    (h : ∀ {R : Request → Request → Prop} [Stirring R], Does R (fun _ => False) x) :
    Ensures (At flow state) x (fun _ => At flow state) F := course.keeps h nofun

theorem enterView {part : ViewPart} {transitions : List Transition}
    (kind : state.kind = .view part transitions) :
    Ensures (At flow (some state)) (enterView flow state part) Q F :=
  .bind (course.settles .clearView) fun _ =>
    .bind (course.settles (.fillVariables (by intros; rfl) (by intros; rfl) part.vars)) fun _ =>
    (course.outing flow state).renderView kind

theorem enterSubflow {part : SubflowPart} {transitions : List Transition}
    (kind : state.kind = .subflow part transitions) :
    Ensures (At flow (some state)) (enterSubflow flow state part) Q F := by
  refine .read fun r known => ?_
  split
  · exact .raise fun _ same => course.failsIn ⟨⟨rfl, fun _ same => same⟩, rfl⟩ (same ▸ known)
  · rename_i subflow had
    have looks : Does Eq (flow.FailsIn (some state.id)) (mapFrom flow part.input .empty) :=
      .mapFrom flow part.input .empty
    refine .bind ((looks.ensures (P := (· = r)) fun steps same => ?_).stops ?_)
      fun input => .pure fun _ same => same ▸ course.calls input kind had known
    · induction steps with
      | refl => exact same
      | tail _ step ih => exact step ▸ ih
    · rintro _ _ ⟨rfl, e, rfl, fails⟩
      exact course.failsIn fails known

theorem closing (part : EndPart) :
    Ensures (At flow (some state)) (closing flow state part)
      (fun ended r => ended.1 = decide (r.execution.sessions.length = 1) ∧ At flow (some state) r)
      F := by
  refine .read fun r known => ?_
  let P (r' : Request) : Prop :=
    r'.execution.sessions.length = r.execution.sessions.length ∧ At flow (some state) r'
  have keeps {α : Type} {x : Engine α} (h : Does Hush (flow.FailsIn (some state.id)) x) :
      Ensures P x (fun _ => P) F := by
    refine h.maintains (fun hush ⟨same, known⟩ => ⟨?_, course.hush hush known⟩)
      fun fails known => course.failsIn fails known.2
    have places := congrArg (List.length ∘ Stance.places) hush.quiet.touch.stance_eq
    simpa [Execution.stance, same] using places
  refine Ensures.given (P := P) ?_ fun _ same => same ▸ ⟨rfl, known⟩
  exact .bind (keeps (.finalResponse flow state part _)) fun _ =>
    .bind (keeps (.mapFrom flow part.output _)) fun _ => .bind (keeps (.mention _ rfl)) fun _ =>
    .bind (keeps (.runActions flow (some state) flow.endActions)) fun _ =>
    .bind (keeps (.mapFrom flow flow.output _)) fun _ => .pure fun r' ⟨same, known⟩ =>
      ⟨by simp [same], known⟩

theorem entryActions (previous : Option String) (actions : List Action) :
    Ensures (Entering flow state previous) (runActions flow (some state) actions)
      (fun _ => Entering flow state previous) F := by
  induction actions with
  | nil => exact .pure fun _ entering => entering
  | cons action rest ih =>
    have acts : Ensures (Entering flow state previous) (within action)
        (fun _ => Entering flow state previous) F := fun r entering => course.acts _ entering
    refine .bind (Q := fun _ => Entering flow state previous) (.bind acts fun result => ?_)
      fun _ => ih
    split
    · exact .pure fun _ entering => entering
    · exact .raise fun _ entering => course.stumbles ⟨⟨rfl, fun _ same => same⟩, rfl⟩ entering

/-- A session begins where nothing but the stack has to be known. -/
theorem opening {P : Request → Prop} {input : Attributes}
    (opens : ∀ r, P r →
      At flow none ((r.told (.sessionStarting flow.id input)).addSession (.fresh flow))) :
    Ensures P (beginSession flow input) Q F := by
  rw [beginSession_eq]
  refine .modify (R := fun r => ∃ r', P r' ∧ r = r'.told (.sessionStarting flow.id input))
    (fun r known => ⟨r, known, rfl⟩) (.modify (R := At flow none) ?_ ?_)
  · rintro _ ⟨r, known, rfl⟩
    exact opens r known
  · exact
      .bind (course.settles (.fillVariables (by intros; rfl) (by intros; rfl) flow.vars)) fun _ =>
      .bind (course.keeps (.mapInto flow flow.input input) fun _ fails => fails) fun _ =>
      .bind (course.keeps (.runActions flow none flow.startActions) fun _ fails => fails) fun _ =>
      .bind (course.settles (.updateSession (fun _ => rfl) fun _ => rfl)) fun _ =>
      .modify (fun _ => course.started) (.pure fun _ next => next)

variable [M.Flowing]

theorem resumeParent (ended : String) (output : Attributes) :
    Upon M Below (resumeParent ended output) Q F := by
  refine .read fun r known => ?_
  have refused (reason : String)
      (other : ∀ parent, r.execution.session? = some parent → ¬ parent.place.InSubflow) :
      Upon M (· = r) (raise (.illegalState reason)) Q F :=
    .of (.raise fun _ same => same ▸ course.refuses reason other known)
  cases top : r.execution.session? with
  | none => exact refused _ fun parent there => nomatch top.symm.trans there
  | some parent =>
    dsimp only
    have away (h : ¬ parent.place.InSubflow) (p : Session Flow)
        (there : r.execution.session? = some p) : ¬ p.place.InSubflow := by
      cases top.symm.trans there
      exact h
    cases here : parent.state.bind parent.flow.state? with
    | none =>
      refine refused _ (away ?_)
      rintro ⟨state, part, transitions, found, -⟩
      cases here.symm.trans found
    | some state =>
      dsimp only
      split
      · rename_i part transitions kind
        have at_parent := course.resumes top here kind known
        refine .given (P := At parent.flow (some state)) ?_ fun _ same => same ▸ at_parent
        have o := course.outing parent.flow state
        exact .bind (o.keeps (.mapInto parent.flow part.output output)) fun _ =>
          .bind (course.settles (.updateSession (fun _ => rfl) fun _ => rfl)) fun _ =>
          .bind (o.keeps (.signal _)) fun _ => o.takeTransition
      · rename_i other
        refine refused _ (away ?_)
        rintro ⟨_, part, transitions, found, kind⟩
        cases here.symm.trans found
        exact other part transitions kind

theorem enterEnd (part : EndPart) :
    Upon M (At flow (some state)) (enterEnd flow state part) Q F := by
  rw [enterEnd_eq]
  refine .bind (course.closing part) fun (root, output) => ?_
  cases root with
  | true =>
    refine .of (.modify (R := fun r => ∃ r', r'.execution.sessions.length = 1 ∧
      At flow (some state) r' ∧ r = r'.dropSession) ?_ ?_)
    · rintro r ⟨root, known⟩
      exact ⟨r, of_decide_eq_true root.symm, known, rfl⟩
    · refine .modify (R := fun r => ∃ r', r'.execution.sessions.length = 1 ∧
        At flow (some state) r' ∧ r = r'.dropSession.told (.sessionEnded flow.id output)) ?_ ?_
      · rintro _ ⟨r, last, known, rfl⟩
        exact ⟨r, last, known, rfl⟩
      · refine .modify (R := Q .rest) ?_ (.pure fun _ rests => rests)
        rintro _ ⟨r, last, known, rfl⟩
        exact course.finishes output last known
  | false =>
    refine .modify (R := fun r => ∃ r', r'.execution.sessions.length ≠ 1 ∧
      At flow (some state) r' ∧ r = r'.dropSession) ?_ ?_
    · rintro r ⟨root, known⟩
      exact ⟨r, of_decide_eq_false root.symm, known, rfl⟩
    · refine .modify (R := Below) ?_ (course.resumeParent state.id output)
      rintro _ ⟨r, more, known, rfl⟩
      exact course.returns output more known

theorem enterKind : Upon M (At flow (some state)) (enterKind flow state) Q F := by
  unfold Engine.enterKind
  split
  · exact (course.outing flow state).runUntilMatch [] _
  · rename_i kind
    exact .of (course.enterView kind)
  · exact (course.outing flow state).takeTransition
  · rename_i kind
    exact .of (course.enterSubflow kind)
  · exact course.enterEnd _

theorem enterState (target : String) :
    Upon M (Q (.enter flow target)) (enterState flow target) Q F := by
  unfold Engine.enterState
  split
  · rename_i missing
    refine .read fun r known => .of (.raise ?_)
    rintro _ rfl
    exact course.misses missing known
  · rename_i state found
    refine .modify (R := fun r => ∃ r', Q (.enter flow target) r' ∧
      r = r'.told (.stateEntering state.id)) (fun r known => ⟨r, known, rfl⟩) (.read ?_)
    rintro _ ⟨r, known, rfl⟩
    have same : (r.told (.stateEntering state.id)).execution.session? = r.execution.session? := rfl
    rw [same]
    cases top : r.execution.session? with
    | none => exact .of (.raise fun _ same => same ▸ course.nobody found top known)
    | some s =>
      refine .modify (R := Entering flow state s.state) ?_ ?_
      · rintro _ rfl
        exact course.enters found top known
      · exact .bind (course.entryActions s.state state.entry) fun _ =>
          .modify (fun _ => course.entered) course.enterKind

/-- Each move gives what is known of the next. -/
theorem step (move : Move) : Upon M (Q move) (step move) Q F := by
  cases move with
  | begin flow input => exact .of (course.opening fun _ => course.opens)
  | enter flow target => exact course.enterState target
  | rest => exact .of (.pure fun _ rests => rests)

end Course

/-- Move after move, each at its moments, until the execution rests or there are no more: by
induction on how many there may be. -/
theorem Course.proceed {M : Nat → Moments} [∀ limit, (M limit).Flowing]
    {At : Flow → Option State → Request → Prop}
    {Entering : Flow → State → Option String → Request → Prop} {Below : Request → Prop}
    {Q : Move → Request → Prop} {F : Stop → Request → Prop}
    (course : ∀ limit, Course (M limit) At Entering Below Q F)
    (next : ∀ {limit move following r r'}, M (limit + 1) move r →
      outcome move r = (.ok following, r') → M limit (Engine.step following) r')
    (endless : ∀ {move r}, move ≠ .rest → Q move r → F .endless r) {P : Request → Prop}
    (limit : Nat) {first : Engine Move} (h : Upon (M limit) P first Q F) :
    Ensures (fun r => P r ∧ M limit first r) (first >>= Engine.proceed limit)
      (fun _ => Q .rest) F := by
  induction limit generalizing P first with
  | zero =>
    refine .bind h fun move => ?_
    cases move with
    | rest => exact .pure fun _ rests => rests
    | begin | enter => exact fun _ known => endless (by nofun) known
  | succ limit ih =>
    rintro r here
    have comes := h r here
    rw [outcome_bind]
    rcases came : outcome first r with ⟨stop | move, r'⟩ <;> rw [came] at comes
    · exact comes
    · have further := ih ((course limit).step move) r' ⟨comes, next here.2 came⟩
      cases move with
      | rest => exact comes
      | begin | enter => exact further

/-- Where the moments do not matter. -/
theorem Course.proceeds {At : Flow → Option State → Request → Prop}
    {Entering : Flow → State → Option String → Request → Prop} {Below : Request → Prop}
    {Q : Move → Request → Prop} {F : Stop → Request → Prop}
    (course : Course .any At Entering Below Q F)
    (endless : ∀ {move r}, move ≠ .rest → Q move r → F .endless r) (limit : Nat) (move : Move) :
    Ensures (Q move) (Engine.proceed limit move) (fun _ => Q .rest) F := by
  have start : Upon .any (Q move) (Pure.pure move) Q F := .of (.pure fun _ known => known)
  have goesOn := Course.proceed (M := fun _ => .any) (fun _ => course) (fun _ _ => trivial) endless
    limit start
  exact goesOn.given fun _ known => ⟨known, trivial⟩

/-! ## The first move of a resumed execution -/

/-- What is known before a resumed execution moves: it goes on where the innermost session stands,
and is refused only where that is not in a view. -/
structure Resuming (M : Moments) (Idle : Request → Prop) (Q : Move → Request → Prop)
    (F : Stop → Request → Prop) : Prop where
  hush : ∀ {r r'}, Hush r r' → Idle r → Idle r'
  flash : ∀ {r}, Idle r → Idle r.clearFlash
  goes : ∀ {s state r}, r.execution.session? = some s → s.place.state? = some state → Idle r →
    ∃ P, P r ∧ Outing M s.flow state P Q F
  refuses : ∀ {r} reason, (∀ s part, r.execution.session? = some s → ¬ s.place.InView part) →
    Idle r → F (.raised (.illegalState reason)) r

namespace Resuming

variable {M : Moments} {Idle : Request → Prop} {Q : Move → Request → Prop}
  {F : Stop → Request → Prop} (idle : Resuming M Idle Q F)
include idle

/-- There is no view where there is no such session, or none in such a state. -/
theorem refused {S : α → Request → Prop} (reason : String) {r : Request}
    (away : ∀ s part, r.execution.session? = some s → ¬ s.place.InView part) (known : Idle r) :
    Ensures (· = r) (raise (.illegalState reason) : Engine α) S F :=
  .raise fun _ same => same ▸ idle.refuses reason away known

theorem position :
    Ensures Idle position (fun found r => Idle r ∧ ∃ s, r.execution.session? = some s ∧
      s.place = ⟨found.1, some found.2⟩) F := by
  refine .read fun r known => ?_
  cases top : r.execution.session? with
  | none => exact idle.refused _ (fun s part there => nomatch top.symm.trans there) known
  | some s =>
    dsimp only
    split
    · rename_i nowhere
      refine idle.refused _ ?_ known
      rintro t part there ⟨state, _, found, -⟩
      cases top.symm.trans there
      simp [Place.state?, Session.place, nowhere] at found
    · rename_i id here
      exact .pure fun _ same => same ▸ ⟨known, s, top, by rw [Session.place, here]⟩

theorem handleEvent [M.Flowing] (event : Event) : Upon M Idle (handleEvent event) Q F := by
  have signals : Ensures Idle (signal event) (fun _ => Idle) F := by
    have does : Does Hush (fun _ => False) (signal event) := .signal event
    exact does.maintains idle.hush fun none => none.elim
  refine .modify (fun _ => idle.flash) (.bind signals fun _ => .bind idle.position ?_)
  rintro ⟨flow, id⟩
  rintro r ⟨⟨known, s, top, place⟩, here⟩
  have flow_eq : s.flow = flow := congrArg Place.flow place
  subst flow_eq
  have state : s.place.state? = s.flow.state? id := by rw [place]; rfl
  dsimp only at here ⊢
  cases found : s.flow.state? id with
  | none =>
    simp only [found] at here ⊢
    refine idle.refuses _ ?_ known
    rintro t part there ⟨other, _, stood, -⟩
    cases top.symm.trans there
    cases (state.trans found).symm.trans stood
  | some current =>
    simp only [found] at here ⊢
    obtain ⟨P, stands, o⟩ := idle.goes top (state.trans found) known
    have goesOn : Upon M P (do
        updateSession fun s => { s with status := .active }
        takeTransition s.flow current) Q F :=
      .bind (o.keeps (.session fun _ => .status .active)) fun _ => o.takeTransition
    exact goesOn r ⟨stands, here⟩

theorem refresh : Ensures Idle refresh Q F := by
  refine .bind idle.position ?_
  rintro ⟨flow, id⟩ r ⟨known, s, top, place⟩
  have flow_eq : s.flow = flow := congrArg Place.flow place
  subst flow_eq
  have state : s.place.state? = s.flow.state? id := by rw [place]; rfl
  have away (h : ∀ part transitions current, s.flow.state? id = some current →
      current.kind ≠ .view part transitions) (t : Session Flow) (part : ViewPart)
      (there : r.execution.session? = some t) : ¬ t.place.InView part := by
    rintro ⟨current, transitions, stood, kind⟩
    cases top.symm.trans there
    exact h part transitions current (state.symm.trans stood) kind
  dsimp only
  cases found : s.flow.state? id with
  | none =>
    refine idle.refuses _ (away ?_) known
    intro part transitions current found'
    cases found.symm.trans found'
  | some current =>
    dsimp only
    have refused (other : ∀ part transitions, current.kind ≠ .view part transitions) :=
      idle.refuses s!"flow '{s.flow.id}' is not paused in a view state" (away fun part transitions
        current' found' => by cases found.symm.trans found'; exact other part transitions) known
    cases kind : current.kind with
    | view part transitions =>
      obtain ⟨P, stands, o⟩ := idle.goes top (state.trans found) known
      exact o.renderView kind r stands
    | _ => exact refused fun part transitions same => nomatch kind.symm.trans same

theorem resumption [M.Flowing] (event : Option Event) :
    Upon M Idle (Execution.resumption event) Q F := by
  cases event with
  | some event => exact idle.handleEvent event
  | none => exact .of idle.refresh

end Resuming

/-! ## The way on after an error -/

/-- The error is raised again where there is no handler for it. Otherwise it is enough to know what
comes of the handler's choice, with the request as the handler has left it. -/
theorem Upon.consult {M : Moments} {P : Request → Prop} {Q : Move → Request → Prop}
    {F : Stop → Request → Prop} {e : ExecutionError}
    (unhandled : ∀ {r}, P r → F (.raised e) r)
    (chosen : ∀ {r s handler}, r.execution.session? = some s →
      handlerFor s.flow (s.state.bind s.flow.state?) e = some handler → M (consult e) r → P r →
      Ensures (· = r.absorb (handler.handle e r.context).2) (obey s (handler.handle e r.context).1)
        Q F) :
    Upon M P (consult e) Q F := by
  rintro r ⟨known, here⟩
  have again : Ensures (· = r) (raise e : Engine Move) Q F :=
    .raise fun _ same => same ▸ unhandled known
  suffices h : Ensures (· = r) (Engine.consult e) Q F from h r rfl
  refine .get fun _ same => ?_
  subst same
  split
  · exact again
  · rename_i s top
    split
    · exact again
    · rename_i handler found
      rintro _ rfl
      exact chosen top found here known _ rfl

/-- What a handler chooses is an error, nothing more to do, or a state to go to. -/
theorem Ensures.obey {P : Request → Prop} {Q : Move → Request → Prop} {F : Stop → Request → Prop}
    {s : Session Flow} {choice : Except ExecutionError Handling}
    (raises : ∀ e, choice = .error e → ∀ r, P r → F (.raised e) r)
    (rests : choice = .ok .handled → ∀ r, P r → Q .rest r)
    (goes : ∀ target, choice = .ok (.enterState target) → Ensures P (reroute s target) Q F) :
    Ensures P (obey s choice) Q F := by
  rcases choice with e | _ | target
  · exact .raise (raises e rfl)
  · exact .pure (rests rfl)
  · exact goes target rfl

/-- A session is sent to a state of its flow, or there is none of that name. -/
theorem Ensures.reroute {P R : Request → Prop} {Q : Move → Request → Prop}
    {F : Stop → Request → Prop} {s : Session Flow} {target : String}
    (exits : Ensures P (exitPosition s) (fun _ => R) F)
    (there : s.flow.hasState target = true → ∀ r, R r → Q (.enter s.flow target) r)
    (misses : s.flow.hasState target = false → ∀ r, P r →
      F (.raised (.targetStateNotFound s.flow.id (s.state.getD "") target)) r) :
    Ensures P (reroute s target) Q F := by
  unfold Engine.reroute
  dsimp only
  split
  · rename_i had
    exact .bind exits fun _ => .pure (there had)
  · rename_i missing
    exact .raise (misses (by simpa using missing))

end Engine

end Parley
