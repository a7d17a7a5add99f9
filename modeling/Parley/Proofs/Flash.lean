import Parley.Proofs.Readings
import Parley.Proofs.Routing
import Parley.Proofs.Store

/-!
# Parley.Proofs.Flash

Flash attributes live until the next event. Of all that the engine does only the arrival of an event
touches them, and it leaves none; everything else leaves flash scope to the flow.

* `Call.flash_passes`: a start or a refresh takes flash scope over from the request before, and it
  passes along the journal to what the request leaves.
* `Call.flash_of_event`: an event begins without flash attributes, and it makes no difference which
  ones there were.
* `Call.journal_of_transition_handler`: what a handler that enters a state puts into flash scope.
* `Execution.Carried`: an execution between two requests, in memory or in a store. Storing rereads
  the attributes.
-/

namespace Parley

/-! ## What the engine does to flash scope -/

instance : Leaving (Request.Traceable .flash) where
  quiet {r r'} h := by
    cases h with
    | noticed hook => exact .told hook r
    | session f =>
      obtain ⟨sessions, e⟩ := r.updateSession_eq f
      exact .kept (by rw [e]) (by rw [e]; rfl)
    | absorbed c => exact .absorbed r c
    | _ => exact .kept rfl rfl
  taken _ _ := .written rfl rfl rfl
  fired _ _ := .written rfl rfl rfl
  exited _ _ _ _ := .written rfl rfl rfl

namespace Engine

theorem accounts_flash : Accounts (Request.Traceable .flash) where
  entering r state := .told (.stateEntering state) r
  entered r state := by
    obtain ⟨sessions, e⟩ := r.updateSession_eq fun s => { s with state := some state }
    exact .kept (by rw [e]) (by rw [e]; rfl)
  ends flow state part := by
    rw [enterEnd_eq]
    exact .bind (Does.closing flow state part).madeOf fun _ =>
      .bind (.modify (fun _ _ => rfl) fun _ => .kept rfl rfl) fun _ =>
      .bind (.tell fun r => .told _ r) fun _ => .handOver (fun _ _ => .kept rfl rfl) state _ _
  begins flow input := by
    rw [beginSession_eq]
    exact .bind (.tell fun r => .told _ r) fun _ =>
      .bind (.modify (fun _ _ => rfl) fun _ => .kept rfl rfl) fun _ =>
      (Does.furnish flow input).madeOf

theorem serve_traceable {first : Engine Move} (h : MadeOf (Request.Traceable .flash) first)
    (r : Request) : Request.Traceable .flash r (outcome (serve first) r).2 :=
  (MadeOf.serve accounts_flash (fun r e => .told (.exceptionThrown e) r) h).traceable r

end Engine

namespace Call

/-- The event of the call, if it brings one. -/
def event? : Call → Option Event
  | start .. => none
  | resume event _ _ => event

/-- Without an event flash scope passes from what it was to what is left. -/
theorem flash_passes (x : Execution) {c : Call} (eventless : c.event? = none) :
    Passes .flash (some x.flash) (c.answer x).journal (some (c.answer x).execution.flash) := by
  by_cases admitted : c.Admitted x
  · rw [answer_of_admitted admitted]
    cases c with
    | start input external directory =>
      obtain ⟨added, journal, passes⟩ := Engine.serve_traceable
        (Engine.accounts_flash.begins x.flow input) (opening x (start input external directory))
      rw [Answer.ofOutcome, first, journal]
      exact passes
    | resume event external directory =>
      obtain rfl : event = none := eventless
      obtain ⟨added, journal, passes⟩ := Engine.serve_traceable (Engine.Does.refresh).madeOf
        (opening x (resume none external directory))
      rw [Answer.ofOutcome, first, Execution.resumption, journal]
      exact .noticed rfl passes
  · obtain ⟨reason, refused⟩ := answer_of_not_admitted admitted
    rw [refused]
    exact .done

/-- The request of an event from the moment at which flash scope is cleared. -/
theorem reaches_arrive {x : Execution} (active : x.isActive = true) (event : Event)
    (external : External) (directory : Directory) :
    Reaches x (resume (some event) external directory)
      ⟨Engine.arrive event, Engine.moveLimit, true⟩
      (opening x (resume (some event) external directory)).clearFlash :=
  ⟨active, Engine.Reaches.first.within rfl⟩

/-- An event begins without flash attributes, whatever they were, and listeners are shown them only
as the request is about to be made. -/
theorem flash_of_event {x : Execution} (active : x.isActive = true) (event : Event)
    (external : External) (directory : Directory) :
    let c := resume (some event) external directory
    ∃ shown later, (c.answer x).journal = .notice .resuming shown :: later ∧
      shown.flash = x.flash ∧
      Passes .flash (some .empty) later (some (c.answer x).execution.flash) ∧
      ∀ flash, c.answer { x with flash := flash } =
        { c.answer x with
          journal := .notice .resuming { shown with flash := flash } :: later } := by
  intro c
  have here := reaches_arrive active event external directory
  have arriving : Engine.MadeOf (Request.Traceable .flash)
      (Engine.Remainder.rest ⟨Engine.arrive event, Engine.moveLimit, true⟩) := by
    rw [← Engine.serve_eq]
    exact .serve Engine.accounts_flash (fun r e => .told (.exceptionThrown e) r)
      (Engine.Does.arrive event).madeOf
  obtain ⟨later, journal, passes⟩ := arriving.traceable (c.opening x).clearFlash
  have answer : c.answer x = .ofOutcome (Engine.outcome _ (c.opening x).clearFlash) :=
    answer_of_reaches here
  let before := Request.new { x with history := .preserve } external directory
  have whole : (c.answer x).journal = .notice .resuming before.context :: later := by
    rw [answer, Answer.ofOutcome, journal]
    rfl
  refine ⟨_, later, whole, rfl, by rw [answer]; exact passes, fun flash => ?_⟩
  have there := reaches_arrive (x := { x with flash := flash }) active event external directory
  obtain ⟨result, execution, later', journal', journal''⟩ := agree
    (Engine.Does.arrive (R := Touch) event).madeOf.blind here there rfl
  obtain rfl : later = later' := List.cons_inj_right _ |>.1 (whole.symm.trans journal')
  rw [Answer.mk.injEq]
  exact ⟨result.symm, execution.symm, journal''⟩

/-- What was put into flash scope during a request is there afterwards, unless it was undone. -/
theorem flash_persists (x : Execution) (c : Call) {front later : List Entry}
    {before after : Context}
    (journal : (c.answer x).journal = front ++ .ran before after :: later)
    {P : Option Attributes → Prop} (put : P (some after.flash)) :
    P (some (c.answer x).execution.flash) ∨ Undone .flash P later := by
  rcases brings : c.event? with _ | event
  · have passes := flash_passes x brings
    rw [journal] at passes
    exact passes.persists put
  · cases c with
    | start => cases brings
    | resume given external directory =>
      obtain rfl : given = some event := brings
      by_cases active : x.isActive = true
      · obtain ⟨shown, rest, whole, -, passes, -⟩ := flash_of_event active event external directory
        -- The first entry is the notice, so what was run came after flash scope was cleared.
        rw [whole] at journal
        cases front with
        | nil => cases journal
        | cons first front =>
          rw [(List.cons.inj journal).2] at passes
          exact passes.persists put
      · obtain ⟨reason, refused⟩ := answer_of_not_admitted (c := .resume (some event) external
          directory) active
        rw [refused] at journal
        simp [Execution.refuse] at journal

/-- What a handler that enters a state puts into flash scope, when it is asked about an error. -/
theorem journal_of_transition_handler {x : Execution} {c : Call} (admitted : c.Admitted x)
    {e : ExecutionError} {r : Request}
    (raised : Engine.outcome (c.first x >>= Engine.proceed Engine.moveLimit) (c.opening x) =
      (.error (.raised e), r))
    {s : Session Flow} (top : r.execution.session? = some s) {patterns : List String}
    {target : String}
    (handles : s.handlers.find? (fun h => h.accepts e) = some (.transition patterns target)) :
    ∃ shown later, (c.answer x).journal =
        r.journal ++ .notice (.exceptionThrown e) r.context :: .ran r.context shown :: later ∧
      shown.flash = (r.execution.flash.put "flowExecutionException" (Handler.describe e)).put
        "rootCauseException" (.text e.rootCause) := by
  have asked := Engine.outcome_afterError_handled (r := r.told (.exceptionThrown e)) top handles
  have on : Engine.MadeOf (Request.Traceable .flash) (do
      Engine.proceed Engine.moveLimit (← Engine.reroute s target)
      Engine.pause) :=
    .bind (Engine.Does.reroute s target).madeOf fun move =>
      .bind (.proceed Engine.accounts_flash Engine.moveLimit move) fun _ =>
        (Engine.Does.pause (E := fun _ => True)).madeOf
  let seen := r.told (.exceptionThrown e)
  let marked := ((Handler.transition patterns target).handle e seen.context).2
  obtain ⟨later, journal, -⟩ := on.traceable (seen.absorb marked)
  refine ⟨(seen.adopt marked).context, later, ?_, rfl⟩
  rw [answer_of_admitted admitted, Engine.outcome_serve_raised raised, asked]
  refine Eq.trans journal ?_
  have noted : marked.notes = [] := rfl
  simp [seen, Request.absorb, Request.told, noted, Request.context]

end Call

/-! ## Between requests -/

namespace Execution

/-- What becomes of an execution between two requests: it is kept in memory or stored, this many
times, and it may get a key. -/
inductive Carried (x : Execution) : Nat → Execution → Prop where
  | kept : Carried x 0 x
  | keyed {stored : Nat} {y : Execution} (h : Carried x stored y) (key : Key) :
      Carried x stored (y.withKey key)
  | restored {stored : Nat} {y z : Execution} (h : Carried x stored y) {directory : Directory}
      {listeners : List Listener} {conversation : Attributes} {key : Key}
      (had : restore directory listeners y.snapshot.reread conversation key = .ok z) :
      Carried x (stored + 1) z

theorem Carried.flash_eq {x y : Execution} {stored : Nat} (h : x.Carried stored y) :
    y.flash = Attributes.reread^[stored] x.flash := by
  induction h with
  | kept => rfl
  | keyed h key ih => exact ih
  | restored h had ih =>
    obtain ⟨root, sessions, -, -, rfl⟩ := restore_eq had
    rw [Function.iterate_succ_apply', ← ih]
    rfl

end Execution

/-- **Flash attributes live until the next event.** An execution comes to its next request, kept in
memory or stored any number of times since the last one. It has the flash attributes that were left,
each reread as often as it was stored. Without an event they pass along the journal, so that only
what is run of a flow changes them. An event begins without any, and its request would have been the
same with others. Whatever was put into flash scope during the last request, be it by a handler that
enters a state, is in the snapshot, unless it was undone by something that was run later. -/
theorem flash_lives_until_event (w : Execution) (d : Call) {stored : Nat} {x : Execution}
    (carried : (d.answer w).execution.Carried stored x) :
    x.flash = Attributes.reread^[stored] (d.answer w).execution.snapshot.flash ∧
      (∀ c : Call, c.event? = none → Passes .flash (some x.flash) (c.answer x).journal
        (some (c.answer x).execution.flash)) ∧
      (x.isActive = true → ∀ event external directory,
        let c := Call.resume (some event) external directory
        ∃ shown later, (c.answer x).journal = .notice .resuming shown :: later ∧
          shown.flash = x.flash ∧
          Passes .flash (some .empty) later (some (c.answer x).execution.flash) ∧
          ∀ flash, c.answer { x with flash := flash } = { c.answer x with
            journal := .notice .resuming { shown with flash := flash } :: later }) ∧
      (∀ front before after later name value,
        (d.answer w).journal = front ++ .ran before after :: later →
        after.flash.get? name = some value →
          (d.answer w).execution.snapshot.flash.get? name = some value ∨
            Undone .flash (Holding name value) later) ∧
      ∀ e r s patterns target, d.Admitted w →
        Engine.outcome (d.first w >>= Engine.proceed Engine.moveLimit) (d.opening w) =
          (.error (.raised e), r) →
        r.execution.session? = some s →
        s.handlers.find? (fun h => h.accepts e) = some (.transition patterns target) →
          ∃ shown later, (d.answer w).journal =
              r.journal ++ .notice (.exceptionThrown e) r.context :: .ran r.context shown :: later ∧
            shown.flash = (r.execution.flash.put "flowExecutionException" (Handler.describe e)).put
              "rootCauseException" (.text e.rootCause) := by
  refine ⟨carried.flash_eq, fun c => Call.flash_passes x, Call.flash_of_event, ?_, ?_⟩
  · intro front before after later name value journal put
    exact Call.flash_persists w d journal (P := Holding name value) put
  · intro e r s patterns target admitted raised top handles
    exact Call.journal_of_transition_handler admitted raised top handles

/-! ## A hint -/

/-- A view that leaves a value in flash scope whenever it is entered. -/
def hinting (value : Value) : Flow :=
  { Flow.blank "hinting" .empty with
    start := some "ask"
    states := [{ State.waiting "ask" [⟨.event "go", [], none, .preserve, .empty⟩] with
      entry := [fun c => (.ok .success, c.updateScope .flash fun a => a.put "hint" value)] }] }

def hints (value : Value) : Directory := fun _ => .ok (hinting value)

/-- The execution as its first request leaves it. -/
def hinted (value : Value) : Execution :=
  (Call.answer (.create (hinting value) []) (.start .empty caller (hints value))).execution

/-- The execution is had back from a store. -/
theorem hinted_restored (value : Value) : ∃ x, (hinted value).Carried 1 x := by
  have had : Execution.restore (hints value) [] (hinted value).snapshot.reread .empty ⟨0, 1⟩ =
    .ok _ := rfl
  exact ⟨_, .restored .kept had⟩

theorem stored_flash_kept : ∃ x, (hinted (.text "here")).Carried 1 x ∧
    x.flash.get? "hint" = some (.text "here") := by
  obtain ⟨x, carried⟩ := hinted_restored (.text "here")
  obtain ⟨left, -⟩ := flash_lives_until_event (.create (hinting (.text "here")) [])
    (.start .empty caller (hints (.text "here"))) carried
  refine ⟨x, carried, ?_⟩
  rw [left]
  rfl

theorem flash_drifts_in_store : ∃ x, (hinted drifting).Carried 1 x ∧
    (hinted drifting).flash.get? "hint" = some drifting ∧ x.flash.get? "hint" ≠ some drifting := by
  obtain ⟨x, carried⟩ := hinted_restored drifting
  refine ⟨x, carried, rfl, ?_⟩
  have back : x.flash.get? "hint" = some (Json.rereadValue drifting) := by
    rw [carried.flash_eq]
    rfl
  rw [back]
  exact fun same => reread_drifting (Option.some.inj same)

end Parley
