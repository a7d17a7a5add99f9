import Parley.Proofs.Change

/-!
# Parley.Proofs.Stance

Where an execution stands: its status and the places of its sessions. Work that only touches a
request leaves it there, so what matters is what the moves do: a session begins, enters a state or
ends.

* `Request.Stands`: the execution is under way at some place, and every session below that one waits
  for a subflow.
* `Engine.Ensures`: what work comes to when it begins in a certain way, by a result or by a stop.
  `Engine.Yields`: what it comes to whenever there is a result.
* `Engine.Does.maintains`: what each step of some work keeps, the work keeps.
-/

namespace Parley

/-- The flow of a session, and the state that it has entered, if it has. -/
structure Place where
  flow : Flow
  state : Option String

def Session.place (s : Session Flow) : Place := ⟨s.flow, s.state⟩

namespace Place

def state? (p : Place) : Option State := p.state.bind p.flow.state?

/-- The state, if there is one, is one of the flow. -/
def Sound (p : Place) : Prop := ∀ id, p.state = some id → p.flow.hasState id = true

def InSubflow (p : Place) : Prop :=
  ∃ state part transitions, p.state? = some state ∧ state.kind = .subflow part transitions

def InView (part : ViewPart) (p : Place) : Prop :=
  ∃ state transitions, p.state? = some state ∧ state.kind = .view part transitions

end Place

/-- Status and outcome of an execution, and the places of its sessions, innermost first. -/
structure Stance where
  status : ExecutionStatus
  outcome : Option Outcome
  places : List Place

namespace Stance

def running (places : List Place) : Stance := ⟨.active, none, places⟩

def ended (o : Outcome) : Stance := ⟨.ended, some o, []⟩

end Stance

namespace Execution

def stance (x : Execution) : Stance := ⟨x.status, x.outcome, x.sessions.map Session.place⟩

variable {x : Execution} {places : List Place} {o : Outcome}

theorem status_of_running (h : x.stance = .running places) : x.status = .active :=
  congrArg Stance.status h

theorem outcome_of_running (h : x.stance = .running places) : x.outcome = none :=
  congrArg Stance.outcome h

theorem places_of_running (h : x.stance = .running places) :
    x.sessions.map Session.place = places := congrArg Stance.places h

theorem isActive_of_running (h : x.stance = .running places) : x.isActive = true := by
  simp [isActive, status_of_running h]

theorem hasEnded_of_running (h : x.stance = .running places) : x.hasEnded = false := by
  simp [hasEnded, status_of_running h]

theorem outcome_of_ended (h : x.stance = .ended o) : x.outcome = some o :=
  congrArg Stance.outcome h

theorem isActive_of_ended (h : x.stance = .ended o) : x.isActive = false := by
  have status : x.status = .ended := congrArg Stance.status h
  simp [isActive, status]

theorem hasEnded_of_ended (h : x.stance = .ended o) : x.hasEnded = true := by
  have status : x.status = .ended := congrArg Stance.status h
  simp [hasEnded, status]

end Execution

namespace Flow

theorem id_of_state? {f : Flow} {id : String} {state : State} (h : f.state? id = some state) :
    state.id = id := by
  simpa using List.find?_some h

theorem hasState_of_state? {f : Flow} {id : String} {state : State} (h : f.state? id = some state) :
    f.hasState id = true := by
  rw [hasState, h]
  rfl

theorem state?_of_hasState {f : Flow} {id : String} (h : f.hasState id = true) :
    ∃ state, f.state? id = some state := Option.isSome_iff_exists.mp h

end Flow

theorem Place.of_state? {p : Place} {state : State} (h : p.state? = some state) :
    p.flow.state? state.id = some state ∧ p = ⟨p.flow, some state.id⟩ := by
  obtain ⟨flow, id⟩ := p
  cases id with
  | none => cases h
  | some id =>
    have found : flow.state? id = some state := h
    rw [Flow.id_of_state? found]
    exact ⟨found, rfl⟩

theorem Place.sound_of_state? {p : Place} {state : State} (h : p.state? = some state) :
    p.Sound := by
  intro id here
  rw [Place.state?, here] at h
  exact Flow.hasState_of_state? h

theorem Place.InSubflow.sound {p : Place} (h : p.InSubflow) : p.Sound := by
  obtain ⟨state, _, _, found, -⟩ := h
  exact Place.sound_of_state? found

theorem Place.InView.sound {p : Place} {part : ViewPart} (h : p.InView part) : p.Sound := by
  obtain ⟨state, _, found, -⟩ := h
  exact Place.sound_of_state? found

/-! ## Touches -/

@[simp] theorem Execution.places_updateSession (f : Session Flow → Session Flow) (r : Request)
    (place : ∀ s, (f s).place = s.place) :
    (r.updateSession f).execution.stance = r.execution.stance := by
  unfold Request.updateSession
  split
  · rfl
  · rename_i s rest e
    simp [stance, e, place]

theorem Execution.stance_absorb (r : Request) (c : Context) :
    (r.absorb c).execution.stance = r.execution.stance := by
  have kept (sessions : List (Session Flow)) :
      (Request.absorbSessions c sessions).map Session.place = sessions.map Session.place := by
    cases sessions with
    | nil => rfl
    | cons s rest =>
      cases changed : c.session? <;> simp [Request.absorbSessions, changed, Session.place]
  simp [stance, Request.absorb, Request.adopt, kept]

theorem Touch.stance_eq {r r' : Request} (h : Touch r r') :
    r'.execution.stance = r.execution.stance := by
  cases h with
  | absorbed c => exact Execution.stance_absorb r c
  | session f flow state =>
    exact Execution.places_updateSession f r fun s => by rw [Session.place, flow, state]; rfl
  | _ => rfl

theorem Touches.stance_eq {r r' : Request} (h : Touches r r') :
    r'.execution.stance = r.execution.stance := by
  induction h with
  | refl => rfl
  | tail _ touch ih => exact touch.stance_eq.trans ih

theorem Touches.directory_eq {r r' : Request} (h : Touches r r') : r'.directory = r.directory :=
  congrArg Setting.directory
    (Changes.setting_eq (Relation.ReflTransGen.mono (fun _ _ => Change.touched) _ _ h))

/-! ## Standing somewhere

`K` is what is known of every flow that the directory has. -/

/-- Every session waits for a subflow. -/
def Waiting (K : Flow → Prop) (places : List Place) : Prop := ∀ p ∈ places, p.InSubflow ∧ K p.flow

theorem Waiting.nil {K : Flow → Prop} : Waiting K [] := nofun

/-- The execution is under way, with its sessions at these places. -/
structure Request.At (directory : Directory) (places : List Place) (r : Request) : Prop where
  directory : r.directory = directory
  stance : r.execution.stance = .running places

/-- The execution stands at a place, over sessions that wait. -/
structure Request.Stands (K : Flow → Prop) (directory : Directory) (p : Place) (rest : List Place)
    (r : Request) : Prop extends r.At directory (p :: rest) where
  sound : p.Sound
  known : K p.flow
  waiting : Waiting K rest

/-- The view is what the factory makes of the request, but for the view itself. -/
def Request.Shows (part : ViewPart) (r : Request) : Prop :=
  ∃ view before, r.execution.view = some view ∧
    part.factory { r.context with rendered := before } = .ok view

namespace Request.Stands

variable {K : Flow → Prop} {directory : Directory} {p : Place} {rest : List Place} {r r' : Request}

theorem touched (h : r.Stands K directory p rest) (touches : Touches r r') :
    r'.Stands K directory p rest :=
  ⟨⟨touches.directory_eq.trans h.directory, touches.stance_eq.trans h.stance⟩, h.sound, h.known,
    h.waiting⟩

theorem places (h : r.Stands K directory p rest) :
    r.execution.sessions.map Session.place = p :: rest := Execution.places_of_running h.stance

theorem depth (h : r.Stands K directory p rest) :
    r.execution.sessions.length = rest.length + 1 := by
  simpa using congrArg List.length h.places

theorem session (h : r.Stands K directory p rest) :
    ∃ s, r.execution.session? = some s ∧ s.place = p := by
  obtain ⟨s, sessions, e, place, -⟩ := List.map_eq_cons_iff.mp h.places
  exact ⟨s, by rw [Execution.session?, e]; rfl, place⟩

theorem waiting_cons (h : r.Stands K directory p rest) (waits : p.InSubflow) :
    Waiting K (p :: rest) := by
  intro q mem
  rcases List.mem_cons.mp mem with rfl | mem
  · exact ⟨waits, h.known⟩
  · exact h.waiting q mem

/-- The session that stands there enters a state of its flow. -/
theorem enter {flow : Flow} {previous : Option String} {id : String} {state : State}
    (h : r.Stands K directory ⟨flow, previous⟩ rest) (found : flow.state? id = some state) :
    (r.updateSession fun s => { s with state := some state.id }).Stands K directory
      ⟨flow, some state.id⟩ rest := by
  obtain ⟨s, sessions, e, place, below⟩ := List.map_eq_cons_iff.mp h.places
  have status := Execution.status_of_running h.stance
  have outcome := Execution.outcome_of_running h.stance
  have flow_eq : s.flow = flow := congrArg Place.flow place
  refine ⟨⟨?_, ?_⟩, ?_, h.known, h.waiting⟩
  · rw [Request.updateSession, e]
    exact h.directory
  · simp [Execution.stance, Request.updateSession, e, Session.place, Stance.running, status,
      outcome, flow_eq, ← below]
  · intro id' same
    cases same
    rw [Flow.id_of_state? found]
    exact Flow.hasState_of_state? found

end Request.Stands

namespace Engine

variable {α β : Type}

/-- Work that begins with `P` comes to a result with `Q`, or it stops with `F`. -/
def Ensures (P : Request → Prop) (x : Engine α) (Q : α → Request → Prop)
    (F : Stop → Request → Prop) : Prop :=
  ∀ r, P r →
    match outcome x r with
    | (.ok a, r') => Q a r'
    | (.error stop, r') => F stop r'

/-- Whenever the work comes to a result, it is with `Q`. -/
def Yields (x : Engine α) (Q : α → Request → Prop) : Prop :=
  Ensures (fun _ => True) x Q fun _ _ => True

namespace Ensures

variable {P P' R : Request → Prop} {Q Q' : α → Request → Prop} {S : β → Request → Prop}
  {F F' : Stop → Request → Prop}

theorem pure {a : α} (h : ∀ r, P r → Q a r) : Ensures P (Pure.pure a) Q F := h

theorem raise {e : ExecutionError} (h : ∀ r, P r → F (.raised e) r) :
    Ensures P (raise e : Engine α) Q F := h

theorem mono {x : Engine α} (h : Ensures P x Q F) (pre : ∀ r, P' r → P r)
    (post : ∀ a r, Q a r → Q' a r) (stop : ∀ stop r, F stop r → F' stop r) :
    Ensures P' x Q' F' := by
  intro r start
  have comes := h r (pre r start)
  split at comes
  · exact post _ _ comes
  · exact stop _ _ comes

theorem given {x : Engine α} (h : Ensures P x Q F) (pre : ∀ r, P' r → P r) : Ensures P' x Q F :=
  h.mono pre (fun _ _ h => h) fun _ _ h => h

theorem gives {x : Engine α} (h : Ensures P x Q F) (post : ∀ a r, Q a r → Q' a r) :
    Ensures P x Q' F := h.mono (fun _ h => h) post fun _ _ h => h

theorem stops {x : Engine α} (h : Ensures P x Q F) (stop : ∀ stop r, F stop r → F' stop r) :
    Ensures P x Q F' := h.mono (fun _ h => h) (fun _ _ h => h) stop

theorem bind {x : Engine α} {f : α → Engine β} (hx : Ensures P x Q F)
    (hf : ∀ a, Ensures (Q a) (f a) S F) : Ensures P (x >>= f) S F := by
  intro r start
  have comes := hx r start
  rw [outcome_bind]
  rcases e : outcome x r with ⟨_ | a, r'⟩ <;> rw [e] at comes
  · exact comes
  · exact hf a r' comes

theorem get {f : Request → Engine β} (h : ∀ r, P r → Ensures P (f r) S F) :
    Ensures P (MonadState.get >>= f) S F := fun r start => h r start r start

/-- What was read is the request as it still is. -/
theorem read {f : Request → Engine β} (h : ∀ r, P r → Ensures (· = r) (f r) S F) :
    Ensures P (MonadState.get >>= f) S F := fun r start => h r start r rfl

theorem modify {g : Request → Request} {f : Unit → Engine β} (change : ∀ r, P r → R (g r))
    (h : Ensures R (f ()) S F) : Ensures P (modify g >>= f) S F := fun r start =>
  h (g r) (change r start)

theorem tryCatch {x : Engine α} {f : Stop → Engine α} (hx : Ensures P x Q F)
    (hf : ∀ stop, Ensures (F stop) (f stop) Q F') : Ensures P (tryCatch x f) Q F' := by
  intro r start
  have comes := hx r start
  rw [outcome_tryCatch]
  rcases e : outcome x r with ⟨stop | a, r'⟩ <;> rw [e] at comes
  · exact hf stop r' comes
  · exact comes

end Ensures

theorem Yields.bind {S : β → Request → Prop} {x : Engine α} {f : α → Engine β}
    (h : ∀ a, Yields (f a) S) : Yields (x >>= f) S :=
  Ensures.bind (Q := fun _ _ => True) (fun _ _ => by split <;> trivial) h

theorem Ensures.and_yields {P : Request → Prop} {Q Q' : α → Request → Prop}
    {F : Stop → Request → Prop} {x : Engine α} (h : Ensures P x Q F) (yields : Yields x Q') :
    Ensures P x (fun a r => Q a r ∧ Q' a r) F := by
  intro r start
  have comes := h r start
  have result := yields r trivial
  split at comes
  · rename_i e
    rw [e] at result
    exact ⟨comes, result⟩
  · exact comes

/-- Work that is done by steps keeps what they keep one after the other, and what stops it is one
of its errors. -/
theorem Does.ensures {R : Request → Request → Prop} {P : Request → Prop}
    {E : ExecutionError → Prop} {x : Engine α} (h : Does R E x)
    (kept : ∀ {r r'}, Relation.ReflTransGen R r r' → P r → P r') :
    Ensures P x (fun _ => P) fun stop r => P r ∧ ∃ e, stop = .raised e ∧ E e := by
  intro r start
  have after := kept (h.madeOf.steps r) start
  have raised := h.raised r
  rcases came : outcome x r with ⟨stop | a, r'⟩ <;> rw [came] at after raised
  · exact ⟨after, raised stop rfl⟩
  · exact after

/-- Steps that keep something keep it throughout the work. -/
theorem Does.maintains {R : Request → Request → Prop} {P : Request → Prop}
    {E : ExecutionError → Prop} {F : Stop → Request → Prop} {x : Engine α} (h : Does R E x)
    (kept : ∀ {r r'}, R r r' → P r → P r') (fails : ∀ {e r}, E e → P r → F (.raised e) r) :
    Ensures P x (fun _ => P) F := by
  refine (h.ensures fun steps start => ?_).stops ?_
  · induction steps with
    | refl => exact start
    | tail _ step ih => exact kept step ih
  · rintro _ r ⟨known, e, rfl, raised⟩
    exact fails raised known

theorem Does.keeps {P : Request → Prop} {E : ExecutionError → Prop} {x : Engine α}
    (h : Does (fun r r' => P r → P r') E x) : Ensures P x (fun _ => P) fun _ => P :=
  h.maintains (fun step => step) fun _ known => known

end Engine

end Parley
