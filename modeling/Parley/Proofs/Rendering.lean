import Parley.Proofs.Assembled
import Parley.Proofs.Sessions

/-!
# Parley.Proofs.Rendering

How requests end where handlers do nothing but name states to enter: with an error of the flow in
which the execution stands, or with the execution ended, or else waiting in a view that was made for
this request.

* `Request.Waits`: what a request that succeeds comes to (`Engine.serve_waits`).
* `Answer.Waits`: the same of the answer, for an execution that is started or that was waiting
  (`Execution.start_proper`, `Execution.resume_proper`).
-/

namespace Parley

/-- What the context was when a view was rendered that it now shows, and the session not paused. -/
def Context.beforePause (status : SessionStatus) (rendered : Option RenderedView) (c : Context) :
    Context :=
  { (c.updateSession fun s => { s with status := status }) with rendered := rendered }

/-- The request shows a view, the last that listeners were told is that it pauses, and the view is
what the factory makes of what they saw then, but for the view itself and the pausing. -/
def Request.Presents (part : ViewPart) (r : Request) : Prop :=
  ∃ view status rendered, r.execution.view = some view ∧
    part.factory (r.context.beforePause status rendered) = .ok view ∧
    r.journal.getLast? = some (.notice .paused r.context)

/-- The execution has ended, or it waits in a view state and presents its view. -/
def Request.Waits (K : Flow → Prop) (directory : Directory) (r : Request) : Prop :=
  (∃ o, r.execution.stance = .ended o) ∨
    ∃ p rest part, r.Stands K directory p rest ∧ p.InView part ∧ r.Presents part

namespace Engine

variable {K : Flow → Prop} {directory : Directory} {P : Request → Prop} {first : Engine Move}

theorem handlerFor_routes {s : Session Flow} {e : ExecutionError} {handler : Handler}
    (routed : s.flow.Routed)
    (found : handlerFor s.flow (s.state.bind s.flow.state?) e = some handler) : handler.Routes := by
  simp only [handlerFor, Option.orElse_eq_orElse, Option.orElse_eq_or, Option.or_eq_some_iff]
    at found
  rcases found with at_state | ⟨-, of_flow⟩
  · obtain ⟨state, here, accepted⟩ := Option.bind_eq_some_iff.mp at_state
    obtain ⟨id, -, had⟩ := Option.bind_eq_some_iff.mp here
    exact routed.states state (List.mem_of_find?_eq_some had) handler
      (List.mem_of_find?_eq_some accepted)
  · exact routed.handlers handler (List.mem_of_find?_eq_some of_flow)

/-- An error that no handler accepts stays what it is, and any other leads to a state. -/
theorem recover_ready (routed : ∀ f, K f → f.Routed) (e : ExecutionError) :
    Ensures (Failed K directory (.raised e)) (recover e) (Ready K directory)
      (Failed K directory) := by
  rw [recover_eq]
  refine .modify (R := Failed K directory (.raised e)) ?_
    (Upon.any (.consult (fun failed => failed) ?_))
  · rintro r ⟨p, rest, stands, blamed⟩
    exact ⟨p, rest, stands.touched (.single (.noticed (.exceptionThrown e) rfl)), blamed⟩
  rintro r s handler top found - ⟨p, rest, stands, -⟩
  obtain ⟨t, same, rfl⟩ := stands.session
  cases top.symm.trans same
  obtain ⟨patterns, target, rfl⟩ := handlerFor_routes (routed _ stands.known) found
  exact (reroute_ready target).given fun _ same => same ▸ stands.touched (.single (.absorbed _))

theorem settle_rests (lookup : ∀ id f, directory id = .ok f → K f)
    (routed : ∀ f, K f → f.Routed)
    (ready : Ensures P first (Ready K directory) (Failed K directory)) :
    Ensures P (settle first) (fun _ => Ready K directory .rest) (Failed K directory) := by
  refine .tryCatch (.bind ready fun move => proceed_rests lookup _ move) fun stop => ?_
  cases stop with
  | endless => exact fun _ failed => failed
  | raised e => exact .bind (recover_ready routed e) fun move => proceed_rests lookup _ move

theorem pause_waits : Ensures (Ready K directory .rest) pause
    (fun _ => Request.Waits K directory) (Failed K directory) := by
  refine .read fun r ready => ?_
  rcases ready with ⟨o, ended⟩ | ⟨p, rest, part, stands, inView, view, rendered, shown, made⟩
  · rw [if_neg (by simp [Execution.isActive_of_ended ended])]
    exact .pure fun _ same => same ▸ .inl ⟨o, ended⟩
  · rw [if_pos (Execution.isActive_of_running stands.stance)]
    obtain ⟨s, sessions, e, -⟩ := List.map_eq_cons_iff.mp stands.places
    intro r' same
    rw [same]
    change Request.Waits K directory
      { r.updateSession fun s => { s with status := .paused } with journal := _ }
    have touches : Touches r _ := .single (.session (fun s => { s with status := .paused })
      (fun _ => rfl) fun _ => rfl)
    refine .inr ⟨p, rest, part, ⟨⟨?_, ?_⟩, stands.sound, stands.known, stands.waiting⟩, inView,
      view, s.status, rendered, ?_, ?_, ?_⟩
    · exact touches.directory_eq.trans stands.directory
    · exact touches.stance_eq.trans stands.stance
    · simpa [Request.updateSession, e] using shown
    · rw [← made]
      simp [Context.beforePause, Context.updateSession, Request.context, Request.updateSession, e,
        Session.map]
    · exact List.getLast?_concat ..

theorem serve_waits (lookup : ∀ id f, directory id = .ok f → K f) (routed : ∀ f, K f → f.Routed)
    (ready : Ensures P first (Ready K directory) (Failed K directory)) :
    Ensures P (serve first) (fun _ => Request.Waits K directory) (Failed K directory) :=
  .bind (settle_rests lookup routed ready) fun _ => pause_waits

end Engine

/-! ## Answers -/

/-- The place is in a view state, over places that wait for subflows. -/
structure Place.Rests (K : Flow → Prop) (rest : List Place) (part : ViewPart) (p : Place) :
    Prop where
  known : K p.flow
  inView : p.InView part
  waiting : Waiting K rest

/-- The last that listeners were told is that the execution pauses, and the view is what the factory
makes of what they saw then, but for the view itself and the pausing. -/
def Answer.Presents (external : External) (part : ViewPart) (view : RenderedView) (a : Answer) :
    Prop :=
  ∃ c status rendered, a.journal.getLast? = some (.notice .paused c) ∧
    c.requestId = external.requestId ∧ c.parameters = external.parameters ∧
    part.factory (c.beforePause status rendered) = .ok view

/-- The execution has ended, or it waits in a view state and presents its view. -/
def Answer.Waits (K : Flow → Prop) (external : External) (a : Answer) : Prop :=
  (∃ o, a.execution.stance = .ended o) ∨
    ∃ p rest part view, a.execution.stance = .running (p :: rest) ∧ p.Rests K rest part ∧
      a.execution.view = some view ∧ a.Presents external part view

/-- The answer is an error that is laid to a flow, or the execution has ended or waits. -/
def Answer.Proper (K : Flow → Prop) (external : External) (a : Answer) : Prop :=
  match a.result with
  | .ok _ => a.Waits K external
  | .error stop => ∀ e, stop = .raised e → e.flow?.isSome

namespace Execution

variable {K : Flow → Prop} {directory : Directory} {external : External} {x : Execution}

theorem answer_proper {P : Request → Prop} {work : Engine Unit} (tracked : work.Tracked)
    (h : Engine.Ensures P work (fun _ => Request.Waits K directory) (Engine.Failed K directory))
    (begun : P (Request.new x external directory)) :
    (x.answer external directory work).Proper K external := by
  obtain ⟨r, changes, execution, journal, comes⟩ := answer_ensures tracked h begun
  have brought : r.external = external := congrArg Setting.external changes.setting_eq
  unfold Answer.Proper
  rcases came : (x.answer external directory work).result with stop | done <;> rw [came] at comes
  · obtain ⟨p, rest, -, blamed⟩ := comes
    intro e raised
    rw [blamed e raised]
    rfl
  · change Answer.Waits K external _
    unfold Answer.Waits Answer.Presents
    rw [execution, journal]
    rcases comes with ended | ⟨p, rest, part, stands, inView, view, status, rendered, shown, made,
      told⟩
    · exact .inl ended
    · exact .inr ⟨p, rest, part, view, stands.stance, ⟨stands.known, inView, stands.waiting⟩, shown,
        r.context, status, rendered, told, congrArg External.requestId brought,
        congrArg External.parameters brought, made⟩

theorem start_proper (lookup : ∀ id f, directory id = .ok f → K f) (routed : ∀ f, K f → f.Routed)
    {flow : Flow} (known : K flow) (listeners : List Listener) (input : Attributes) :
    ((create flow listeners).start input external directory).Proper K external := by
  have ready : Engine.Ensures (Request.At directory []) (Engine.beginSession flow input)
      (Engine.Ready K directory) (Engine.Failed K directory) :=
    Engine.beginSession_ready known lookup .nil input
  exact answer_proper (Engine.Tracked.beginSession flow input).serve
    (Engine.serve_waits lookup routed ready) ⟨rfl, rfl⟩

theorem resume_proper (lookup : ∀ id f, directory id = .ok f → K f) (routed : ∀ f, K f → f.Routed)
    {p : Place} {rest : List Place} {part : ViewPart} (running : x.stance = .running (p :: rest))
    (rests : p.Rests K rest part) (event : Option Event) :
    (x.resume event external directory).Proper K external := by
  have ready : Engine.Ensures (Request.Stands K directory p rest) (resumption event)
      (Engine.Ready K directory) (Engine.Failed K directory) := by
    refine (Engine.resumption_ready lookup event).stops ?_
    rintro stop r (failed | ⟨nowhere, -⟩)
    · exact failed
    · exact absurd rests.inView (nowhere part)
  rw [resume, if_pos (isActive_of_running running)]
  refine answer_proper (Engine.Tracked.resuming event)
    (.touch (.notify .resuming rfl) fun _ => Engine.serve_waits lookup routed ready) ?_
  exact ⟨⟨rfl, running⟩, rests.inView.sound, rests.known, rests.waiting⟩

end Execution

end Parley
