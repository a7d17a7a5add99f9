import Parley.Proofs.Ready

/-!
# Parley.Proofs.Sessions

The stack of sessions between requests. A request on an execution may fail at any point of its
moves, and whatever actions, views and handlers do, it leaves the execution either ended or standing
somewhere over sessions that wait for subflows.

* `Request.Settled`: what every request comes to, whether it fails or not (`Engine.serve_settles`).
* `Stance.Sound`: what status, outcome and stack have to do with each other.
* `calls_keep_sound`: they agree after any calls on an execution.
-/

namespace Parley

namespace Request

variable (K : Flow → Prop) (directory : Directory)

/-- The execution stands somewhere. -/
def UnderWay (r : Request) : Prop := ∃ p rest, r.Stands K directory p rest

/-- The execution has ended, or it stands somewhere. -/
def Settled (r : Request) : Prop := (∃ o, r.execution.stance = .ended o) ∨ r.UnderWay K directory

variable {K directory} {r r' : Request}

theorem Settled.touched (h : r.Settled K directory) (touches : Touches r r') :
    r'.Settled K directory := by
  obtain ⟨o, ended⟩ | ⟨p, rest, stands⟩ := h
  · exact .inl ⟨o, touches.stance_eq.trans ended⟩
  · exact .inr ⟨p, rest, stands.touched touches⟩

end Request

namespace Engine

variable {α : Type} {K : Flow → Prop} {directory : Directory} {p : Place} {rest : List Place}

theorem Ready.settled {r : Request} (h : Ready K directory .rest r) : r.Settled K directory := by
  obtain ⟨o, ended⟩ | ⟨p, rest, part, stands, -⟩ := h
  · exact .inl ⟨o, ended⟩
  · exact .inr ⟨p, rest, stands⟩

theorem Failed.underWay {stop : Stop} {r : Request} (h : Failed K directory stop r) :
    r.UnderWay K directory := by
  obtain ⟨p, rest, stands, -⟩ := h
  exact ⟨p, rest, stands⟩

/-! ## The first move of a resumed execution -/

/-- What a view in which an execution stands can do wrong is laid to its flow. -/
theorem resumption_ready (lookup : ∀ id f, directory id = .ok f → K f) (event : Option Event) :
    Ensures (Request.Stands K directory p rest) (Execution.resumption event) (Ready K directory)
      fun stop r =>
        Failed K directory stop r ∨ (∀ part, ¬ p.InView part) ∧ r.Stands K directory p rest := by
  have resuming : Resuming .any (Request.Stands K directory p rest) (Ready K directory)
      fun stop r =>
        Failed K directory stop r ∨ (∀ part, ¬ p.InView part) ∧ r.Stands K directory p rest :=
    { hush := fun h stands => stands.touched (.single h.quiet.touch)
      flash := fun stands => stands.touched (.single .flash)
      goes := fun {s state r} top here stands => by
        obtain ⟨t, same, rfl⟩ := stands.session
        cases top.symm.trans same
        obtain ⟨found, place⟩ := Place.of_state? here
        rw [place] at stands
        refine ⟨Placed K directory s.flow (some state), ⟨fun _ same => ?_, rest, stands⟩,
          ((readiness lookup).outing s.flow state).stops fun _ _ => .inl⟩
        cases same
        exact found
      refuses := fun reason away stands => by
        obtain ⟨s, top, rfl⟩ := stands.session
        exact .inr ⟨fun part => away s part top, stands⟩ }
  exact (resuming.resumption event).any

/-! ## Whole requests -/

/-- A handler that names a state to enter names one of the flow where the execution stands. -/
theorem reroute_ready {s : Session Flow} (target : String) :
    Ensures (Request.Stands K directory s.place rest) (reroute s target) (Ready K directory)
      (Failed K directory) := by
  have exits : Touched s.flow.Raises (exitPosition s) :=
    (Does.exitPosition s).weaken fun _ fails => fails.1.1
  refine .reroute (Touched.ensures (p := s.place) exits) (fun _ r stands => ?_) fun _ r stands => ?_
  · exact ⟨s.state, rest, stands⟩
  · exact ⟨_, rest, stands, fun _ same => by cases same; rfl⟩

/-- A handler may also settle the matter and leave the execution where it stands. -/
theorem recover_settles (e : ExecutionError) :
    Ensures (Request.UnderWay K directory) (recover e)
      (fun move r => move = .rest ∧ r.UnderWay K directory ∨ Ready K directory move r)
      fun _ => Request.UnderWay K directory := by
  rw [recover_eq]
  refine .modify (R := Request.UnderWay K directory) ?_
    (Upon.any (.consult (fun under => under) ?_))
  · rintro r ⟨p, rest, stands⟩
    exact ⟨p, rest, stands.touched (.single (.noticed (.exceptionThrown e) rfl))⟩
  rintro r s handler top - - ⟨p, rest, stands⟩
  obtain ⟨t, same, rfl⟩ := stands.session
  cases top.symm.trans same
  have stands := stands.touched (.single (.absorbed (handler.handle e r.context).2))
  refine .obey (fun _ _ r same => ?_) (fun _ r same => ?_) fun target _ => ?_
  · exact ⟨_, rest, same ▸ stands⟩
  · exact .inl ⟨rfl, _, rest, same ▸ stands⟩
  · exact (reroute_ready target).mono (fun _ same => same ▸ stands) (fun _ _ => .inr)
      fun _ _ => Failed.underWay

theorem settle_settles {P : Request → Prop} {first : Engine Move}
    (lookup : ∀ id f, directory id = .ok f → K f)
    (ready : Ensures P first (Ready K directory) fun _ => Request.UnderWay K directory) :
    Ensures P (settle first) (fun _ => Request.Settled K directory)
      fun _ => Request.UnderWay K directory := by
  have moves (move : Move) : Ensures (Ready K directory move) (proceed moveLimit move)
      (fun _ => Request.Settled K directory) fun _ => Request.UnderWay K directory :=
    (proceed_rests lookup moveLimit move).mono (fun _ h => h) (fun _ _ => Ready.settled)
      fun _ _ => Failed.underWay
  refine .tryCatch (.bind ready moves) fun stop => ?_
  cases stop with
  | endless => exact fun _ under => under
  | raised e =>
    refine .bind (recover_settles e) fun move r next => ?_
    obtain ⟨rfl, under⟩ | next := next
    · exact .inr under
    · exact moves move r next

theorem pause_settles :
    Ensures (Request.Settled K directory) pause (fun _ => Request.Settled K directory)
      fun _ => Request.UnderWay K directory := by
  have paused : Touched (fun _ => False) pause := .pause
  refine (Does.ensures paused fun touches settled => settled.touched touches).stops ?_
  rintro _ r ⟨-, e, -, none⟩
  exact none.elim

/-- A request that begins with a move leaves its execution settled, and under way if it fails. -/
theorem serve_settles {P : Request → Prop} {first : Engine Move}
    (lookup : ∀ id f, directory id = .ok f → K f)
    (ready : Ensures P first (Ready K directory) fun _ => Request.UnderWay K directory) :
    Ensures P (serve first) (fun _ => Request.Settled K directory)
      fun _ => Request.UnderWay K directory :=
  .bind (settle_settles lookup ready) fun _ => pause_settles

end Engine

/-! ## Calls on an execution -/

/-- Status, outcome and stack agree, every session below the innermost one waits in a subflow state,
and no session stands in a state that its flow does not have. -/
structure Stance.Sound (s : Stance) : Prop where
  notStarted : s.status = .notStarted → s.places = [] ∧ s.outcome = none
  active : s.status = .active → s.places ≠ [] ∧ s.outcome = none
  ended : s.status = .ended → s.places = [] ∧ s.outcome.isSome
  below : ∀ p ∈ s.places.tail, p.InSubflow
  placed : ∀ p ∈ s.places, p.Sound

theorem Request.Settled.sound {K : Flow → Prop} {directory : Directory} {r : Request}
    (h : r.Settled K directory) : r.execution.stance.Sound := by
  obtain ⟨o, ended⟩ | ⟨p, rest, stands⟩ := h
  · rw [ended]
    exact ⟨nofun, nofun, fun _ => ⟨rfl, rfl⟩, nofun, nofun⟩
  · rw [stands.stance]
    refine ⟨nofun, fun _ => ⟨by simp [Stance.running], rfl⟩, nofun,
      fun q mem => (stands.waiting q mem).1, fun q mem => ?_⟩
    rcases List.mem_cons.mp mem with rfl | mem
    · exact stands.sound
    · exact (stands.waiting q mem).1.sound

namespace Stance.Sound

variable {s : Stance}

theorem of_notStarted (h : s.Sound) (idle : s.status = .notStarted) :
    s = ⟨.notStarted, none, []⟩ := by
  obtain ⟨places, outcome⟩ := h.notStarted idle
  cases s
  simp_all

theorem of_active (h : s.Sound) (active : s.status = .active) :
    ∃ p rest, s = .running (p :: rest) ∧ p.Sound ∧ Waiting (fun _ => True) rest := by
  obtain ⟨places, outcome⟩ := h.active active
  obtain ⟨p, rest, e⟩ := List.exists_cons_of_ne_nil places
  have below := h.below
  rw [e] at below
  refine ⟨p, rest, ?_, h.placed p (by simp [e]), fun q mem => ⟨below q mem, trivial⟩⟩
  cases s
  simp_all [running]

end Stance.Sound

/-- The answer leaves the execution sound, and under way if it is an error. -/
def Answer.Settled (a : Answer) : Prop :=
  a.execution.stance.Sound ∧ ∀ stop, a.result = .error stop → a.execution.status = .active

/-- A call on an execution, with what it brings and the flows that can be had meanwhile. -/
inductive Call where
  | start (input : Attributes) (external : External) (directory : Directory)
  | resume (event : Option Event) (external : External) (directory : Directory)

def Call.answer (x : Execution) : Call → Answer
  | start input external directory => x.start input external directory
  | resume event external directory => x.resume event external directory

/-- The flows that can be had during the call. -/
def Call.directory : Call → Directory
  | .start _ _ directory => directory
  | .resume _ _ directory => directory

/-- The execution at the beginning of a request that is not refused. -/
def Execution.begun (x : Execution) : Execution :=
  { x with status := .active, history := .preserve }

/-- A call is refused, or a request is served and makes changes. -/
theorem Call.changes (x : Execution) (c : Call) :
    (∃ reason, c.answer x = x.refuse reason) ∨
      x.status ≠ .ended ∧ ∃ external directory r,
        Changes (Request.new x.begun external directory) r ∧
          (c.answer x).execution = r.execution ∧ (c.answer x).journal = r.journal := by
  cases c with
  | start input external directory =>
    by_cases idle : x.status = .notStarted
    · refine .inr ⟨by simp [idle], external, directory, _,
        (Engine.Tracked.beginSession x.flow input).serve.changes _, ?_⟩
      simp only [answer, Execution.start, if_pos idle]
      exact ⟨rfl, rfl⟩
    · exact .inl ⟨_, if_neg idle⟩
  | resume event external directory =>
    cases active : x.isActive with
    | true =>
      have status : x.status = .active := of_decide_eq_true active
      obtain ⟨r, changes, same⟩ := Execution.resume_changes event external directory active
      refine .inr ⟨by simp [status], external, directory, r, ?_, same⟩
      rwa [Execution.begun, ← status]
    | false => exact .inl ⟨_, if_neg (by simp [active])⟩

namespace Execution

/-- The execution after one call after the other, whatever their results. -/
def after (calls : List Call) (x : Execution) : Execution :=
  calls.foldl (fun x call => (call.answer x).execution) x

theorem create_sound (flow : Flow) (listeners : List Listener) :
    (create flow listeners).stance.Sound :=
  ⟨fun _ => ⟨rfl, rfl⟩, nofun, nofun, nofun, nofun⟩

variable {x : Execution} {external : External} {directory : Directory}

theorem answer_ensures {P : Request → Prop} {Q : Unit → Request → Prop} {F : Stop → Request → Prop}
    {work : Engine Unit} (tracked : work.Tracked) (h : Engine.Ensures P work Q F)
    (begun : P (Request.new x external directory)) :
    ∃ r, Changes (Request.new x external directory) r ∧
      (x.answer external directory work).execution = r.execution ∧
      (x.answer external directory work).journal = r.journal ∧
      match (x.answer external directory work).result with
      | .ok done => Q done r
      | .error stop => F stop r := by
  refine ⟨_, tracked.changes (Request.new x external directory), rfl, rfl, ?_⟩
  have comes := h _ begun
  have same : (x.answer external directory work).result =
    (Engine.outcome work (Request.new x external directory)).1 := rfl
  rcases e : Engine.outcome work (Request.new x external directory) with ⟨_ | _, r⟩ <;>
    simp only [e] at comes same <;> rw [same] <;> exact comes

theorem answer_settled {K : Flow → Prop} {P : Request → Prop} {work : Engine Unit}
    (tracked : work.Tracked)
    (h : Engine.Ensures P work (fun _ => Request.Settled K directory)
      fun _ => Request.UnderWay K directory)
    (begun : P (Request.new x external directory)) :
    (x.answer external directory work).Settled := by
  obtain ⟨r, -, e, -, comes⟩ := answer_ensures tracked h begun
  have settled : r.Settled K directory := by
    split at comes
    · exact comes
    · exact .inr comes
  unfold Answer.Settled
  rw [e]
  refine ⟨settled.sound, fun stop failed => ?_⟩
  rw [failed] at comes
  obtain ⟨p, rest, stands⟩ := comes
  exact status_of_running stands.stance

theorem start_sound (h : x.stance.Sound) (input : Attributes) :
    (x.start input external directory).execution.stance.Sound := by
  unfold start
  split
  · rename_i idle
    have before : x.stance = ⟨.notStarted, none, []⟩ := h.of_notStarted idle
    have ready : Engine.Ensures (Request.At directory []) (Engine.beginSession x.flow input)
        (Engine.Ready (fun _ => True) directory) (Engine.Failed (fun _ => True) directory) :=
      Engine.beginSession_ready trivial (fun _ _ _ => trivial) .nil input
    refine (answer_settled (Engine.Tracked.beginSession x.flow input).serve
      (Engine.serve_settles (fun _ _ _ => trivial)
        (ready.stops fun _ _ => Engine.Failed.underWay))
      ⟨rfl, ?_⟩).1
    have places : x.sessions.map Session.place = [] := congrArg Stance.places before
    have outcome : x.outcome = none := congrArg Stance.outcome before
    simp [stance, Request.new, Stance.running, places, outcome]
  · exact h

theorem resume_settled (h : x.stance.Sound) (active : x.isActive = true) (event : Option Event) :
    (x.resume event external directory).Settled := by
  obtain ⟨p, rest, before, placed, waiting⟩ := h.of_active (of_decide_eq_true active)
  have notified : Engine.Ensures (Request.Stands (fun _ => True) directory p rest)
      (Engine.notify .resuming) (fun _ => Request.Stands (fun _ => True) directory p rest)
      (Engine.Failed (fun _ => True) directory) :=
    (Engine.Touched.notify .resuming rfl).ensures
  have ready : Engine.Ensures (Request.Stands (fun _ => True) directory p rest)
      (resumption event) (Engine.Ready (fun _ => True) directory)
      fun _ => Request.UnderWay (fun _ => True) directory := by
    refine (Engine.resumption_ready (fun _ _ _ => trivial) event).stops ?_
    rintro stop r (failed | ⟨-, stands⟩)
    · exact failed.underWay
    · exact ⟨p, rest, stands⟩
  rw [resume, if_pos active]
  refine answer_settled (Engine.Tracked.resuming event)
    (.bind (notified.stops fun _ _ => Engine.Failed.underWay) fun _ =>
      Engine.serve_settles (fun _ _ _ => trivial) ready) ?_
  exact ⟨⟨rfl, before⟩, placed, trivial, waiting⟩

theorem resume_sound (h : x.stance.Sound) (event : Option Event) :
    (x.resume event external directory).execution.stance.Sound := by
  by_cases active : x.isActive = true
  · exact (resume_settled h active event).1
  · rwa [resume, if_neg active]

/-- What one call keeps, any number of calls keep. -/
theorem after_sound (calls : List Call) (h : x.stance.Sound) : (x.after calls).stance.Sound := by
  induction calls generalizing x with
  | nil => exact h
  | cons call rest ih =>
    refine ih ?_
    cases call with
    | start input external directory => exact start_sound h input
    | resume event external directory => exact resume_sound h event

end Execution

/-- Whatever flows, actions, views, handlers and events there are, and whether calls fail or not. -/
theorem calls_keep_sound (flow : Flow) (listeners : List Listener) (calls : List Call) :
    ((Execution.create flow listeners).after calls).stance.Sound :=
  Execution.after_sound calls (Execution.create_sound flow listeners)

end Parley
