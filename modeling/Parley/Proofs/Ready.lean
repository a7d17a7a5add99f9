import Parley.Proofs.Course

/-!
# Parley.Proofs.Ready

Moves that can be made. While an execution is under way the move that is next finds the sessions it
needs, and what goes wrong is laid to the flow in which the execution then stands.

* `Engine.Ready`: the move that is next can be made. At rest the execution has ended, or its view
  has just been rendered.
* `Engine.readiness`: a move that can be made leads to one that can be made, or to an error of the
  flow in which the execution then stands. `Engine.proceed_rests`: so does move after move.
-/

namespace Parley

namespace Engine

variable {α β : Type}

/-- The move that is next can be made. At rest there is none: the execution has ended, or it stands
in a view that it shows. -/
def Ready (K : Flow → Prop) (directory : Directory) : Move → Request → Prop
  | .begin flow _, r => K flow ∧ ∃ p rest, r.Stands K directory p rest ∧ p.InSubflow
  | .enter flow _, r => ∃ state rest, r.Stands K directory ⟨flow, state⟩ rest
  | .rest, r => (∃ o, r.execution.stance = .ended o) ∨
      ∃ p rest part, r.Stands K directory p rest ∧ p.InView part ∧ r.Shows part

/-- The execution stands somewhere, and the error is laid to the flow in which it does. -/
def Failed (K : Flow → Prop) (directory : Directory) (stop : Stop) (r : Request) : Prop :=
  ∃ p rest, r.Stands K directory p rest ∧ ∀ e, stop = .raised e → p.flow.Raises e

/-- The execution stands in a state that is one of the flow, or in a session that has entered
none. -/
def Placed (K : Flow → Prop) (directory : Directory) (flow : Flow) (state : Option State)
    (r : Request) : Prop :=
  (∀ s, state = some s → flow.state? s.id = some s) ∧
    ∃ rest, r.Stands K directory ⟨flow, state.map State.id⟩ rest

section

variable {K : Flow → Prop} {directory : Directory} {p : Place} {rest : List Place}
  {Q : α → Request → Prop} {S : β → Request → Prop}

theorem Touched.ensures {x : Engine α} (h : Touched p.flow.Raises x) :
    Ensures (Request.Stands K directory p rest) x (fun _ => Request.Stands K directory p rest)
      (Failed K directory) :=
  Does.maintains h (fun touch stands => stands.touched (.single touch)) fun {e r} blamed stands =>
    ⟨p, rest, stands, fun e' same => by cases same; exact blamed⟩

theorem Ensures.touch {x : Engine α} {f : α → Engine β}
    (hx : Touched (p.flow.FailsIn p.state) x)
    (hf : ∀ a, Ensures (Request.Stands K directory p rest) (f a) S (Failed K directory)) :
    Ensures (Request.Stands K directory p rest) (x >>= f) S (Failed K directory) :=
  .bind (Touched.ensures (hx.weaken fun _ fails => fails.1.1)) hf

namespace Placed

variable {flow : Flow} {state : Option State} {r r' : Request}

theorem touched (h : Placed K directory flow state r) (touch : Touch r r') :
    Placed K directory flow state r' := by
  obtain ⟨found, rest, stands⟩ := h
  exact ⟨found, rest, stands.touched (.single touch)⟩

theorem failed (h : Placed K directory flow state r) {e : ExecutionError} (raises : flow.Raises e) :
    Failed K directory (.raised e) r := by
  obtain ⟨-, rest, stands⟩ := h
  exact ⟨_, rest, stands, fun _ same => by cases same; exact raises⟩

end Placed

/-- A session begins over others that wait. -/
theorem placed_fresh {flow : Flow} {places : List Place} {r : Request} (known : K flow)
    (waiting : Waiting K places) (running : r.At directory places) (input : Attributes) :
    Placed K directory flow none
      ((r.told (.sessionStarting flow.id input)).addSession (.fresh flow)) := by
  have below := Execution.places_of_running running.stance
  have status := Execution.status_of_running running.stance
  have outcome := Execution.outcome_of_running running.stance
  refine ⟨nofun, places, ⟨running.directory, ?_⟩, nofun, known, waiting⟩
  simp [Execution.stance, Request.addSession, Request.told, Stance.running, Session.place,
    Session.fresh, status, outcome, below]

/-- The innermost session has ended over one that waits for it. -/
theorem stands_below {flow : Flow} {id : Option String} {r : Request} (output : Attributes)
    (stands : r.Stands K directory ⟨flow, id⟩ rest) (more : r.execution.sessions.length ≠ 1) :
    ∃ q below, (r.dropSession.told (.sessionEnded flow.id output)).Stands K directory q below ∧
      q.InSubflow := by
  have status := Execution.status_of_running stands.stance
  have outcome := Execution.outcome_of_running stands.stance
  cases rest with
  | nil => exact absurd stands.depth more
  | cons q below =>
    have waits := stands.waiting q List.mem_cons_self
    refine ⟨q, below, ⟨⟨stands.directory, ?_⟩, waits.1.sound, waits.2,
      fun q mem => stands.waiting q (List.mem_cons_of_mem _ mem)⟩, waits.1⟩
    simp [Execution.stance, Request.dropSession, Request.told, Stance.running, status, outcome,
      stands.places]

/-- A move that can be made leads to one that can be made, or fails where it leads. -/
theorem readiness (lookup : ∀ id f, directory id = .ok f → K f) :
    Course .any (Placed K directory) (fun flow state _ => Placed K directory flow (some state))
      (fun r => ∃ q below, r.Stands K directory q below ∧ q.InSubflow) (Ready K directory)
      (Failed K directory) where
  hush h placed := placed.touched h.quiet.touch
  session flow state placed := placed.touched (.session _ flow state)
  fails fails placed := placed.failed fails.1.1
  astray _ _ _ astray placed := placed.failed astray.raises.1
  shows {flow state part transitions r} kind shows placed := by
    obtain ⟨found, rest, stands⟩ := placed
    exact .inr ⟨_, rest, part, stands, ⟨state, transitions, found state rfl, kind⟩, shows⟩
  leaves {flow state} t target there := by
    have : Parting fun r r' =>
        Placed K directory flow (some state) r → Placed K directory flow (some state) r' :=
      .of_touch fun touch placed => placed.touched touch
    refine (depart_keeps (fun fails placed => placed.failed fails.1.1) t target).gives ?_
    rintro move r ⟨rfl, -, rest, stands⟩
    exact ⟨_, rest, stands⟩
  calls {flow state part transitions id subflow r} input kind had placed := by
    obtain ⟨found, rest, stands⟩ := placed
    rw [stands.directory] at had
    exact ⟨lookup _ _ had, _, rest, stands, state, part, transitions, found state rfl, kind⟩
  opens {flow input r} ready := by
    obtain ⟨known, p, rest, stands, waits⟩ := ready
    exact placed_fresh known (stands.waiting_cons waits) stands.toAt input
  started {flow r} placed := by
    obtain ⟨-, rest, stands⟩ := placed.touched (.noticed (.sessionStarted flow.id) rfl)
    exact ⟨none, rest, stands⟩
  enters {flow target state s r} found top ready := by
    obtain ⟨previous, rest, stands⟩ := ready
    have self : flow.state? state.id = some state := by rwa [Flow.id_of_state? found]
    refine ⟨fun _ same => by cases same; exact self, rest, ?_⟩
    exact (stands.touched (.single (.noticed _ rfl))).enter self
  acts c placed := placed.touched (.absorbed c)
  stumbles fails placed := placed.failed fails.1.1
  entered placed := placed.touched (.noticed _ rfl)
  misses {flow target r} missing ready := by
    obtain ⟨previous, rest, stands⟩ := ready
    exact ⟨_, rest, stands, fun _ same => by cases same; rfl⟩
  nobody found none ready := by
    obtain ⟨previous, rest, stands⟩ := ready
    obtain ⟨s, top, -⟩ := stands.session
    cases none.symm.trans top
  finishes {flow state r} output last placed := by
    obtain ⟨-, rest, stands⟩ := placed
    have none : rest = [] :=
      List.eq_nil_of_length_eq_zero (Nat.succ.inj (stands.depth.symm.trans last))
    refine .inl ⟨⟨state.id, output⟩, ?_⟩
    simp [Execution.stance, Request.dropSession, Request.told, Stance.ended, stands.places, none]
  returns output more placed := by
    obtain ⟨-, rest, stands⟩ := placed
    exact stands_below output stands more
  resumes {parent state part transitions r} top here kind below := by
    obtain ⟨q, rest, stands, -⟩ := below
    obtain ⟨s, same, rfl⟩ := stands.session
    cases top.symm.trans same
    have here : parent.place.state? = some state := here
    obtain ⟨found, place⟩ := Place.of_state? here
    refine ⟨fun _ same => by cases same; exact found, rest, ?_⟩
    rwa [place] at stands
  refuses reason away below := by
    obtain ⟨q, rest, stands, waits⟩ := below
    obtain ⟨s, top, rfl⟩ := stands.session
    exact absurd waits (away s top)

theorem beginSession_ready {flow : Flow} {places : List Place} (known : K flow)
    (lookup : ∀ id f, directory id = .ok f → K f) (waiting : Waiting K places)
    (input : Attributes) :
    Ensures (Request.At directory places) (beginSession flow input) (Ready K directory)
      (Failed K directory) :=
  (readiness lookup).opening fun _ running => placed_fresh known waiting running input

/-- However many moves it takes. -/
theorem proceed_rests (lookup : ∀ id f, directory id = .ok f → K f) (limit : Nat) (move : Move) :
    Ensures (Ready K directory move) (proceed limit move) (fun _ => Ready K directory .rest)
      (Failed K directory) := by
  refine (readiness lookup).proceeds (fun {move r} further ready => ?_) limit move
  cases move with
  | begin flow input =>
    obtain ⟨-, p, rest, stands, -⟩ := ready
    exact ⟨p, rest, stands, nofun⟩
  | enter flow target =>
    obtain ⟨previous, rest, stands⟩ := ready
    exact ⟨_, rest, stands, nofun⟩
  | rest => exact absurd rfl further

end

end Engine

end Parley
