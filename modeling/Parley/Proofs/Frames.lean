import Mathlib.Data.List.Chain
import Parley.Proofs.Sessions
import Parley.Proofs.Store

/-!
# Parley.Proofs.Frames

Every session is a frame of its own. Whatever runs in the innermost session, those below it stay as
they are; a session that begins has nothing in its scopes; and of one that has ended nothing is left
but what it hands over.

* `Call.follows`: between two things that listeners are told, only the innermost session changes,
  or one begins on top of it, or it ends.
* `Engine.Reaches`: the moments of a request, each with what remains of it.
* `Call.agree`: once a session has ended, what remains depends on it only by its output.
* `frames_isolated`: all of it for every call on any execution.
-/

namespace Parley

/-! ## Stacks one after the other -/

/-- Only the innermost session has changed, or there is one more on top, or the innermost one has
gone. -/
def Follows (before after : List (Session String)) : Prop :=
  after.tail = before.tail ∨ after.tail = before ∨ after = before.tail

theorem getElem?_reverse_tail {α : Type} {stack : List α} {depth : Nat}
    (below : depth + 1 < stack.length) : stack.tail.reverse[depth]? = stack.reverse[depth]? := by
  cases stack with
  | nil => rfl
  | cons s rest =>
    rw [List.reverse_cons, List.getElem?_append_left (by simpa using below), List.tail_cons]

/-- A session that has another one above it before and after is the same before and after. -/
theorem Follows.still {before after : List (Session String)} (h : Follows before after)
    {depth : Nat} (covered : depth + 1 < before.length) (still : depth + 1 < after.length) :
    before.reverse[depth]? = after.reverse[depth]? := by
  rw [← getElem?_reverse_tail covered, ← getElem?_reverse_tail still]
  obtain same | begun | left := h
  · rw [same]
  · rw [begun, getElem?_reverse_tail covered]
  · rw [← left, getElem?_reverse_tail still]

theorem still_of_isChain {stretch : List (List (Session String))} {depth : Nat}
    (chain : List.IsChain Follows stretch) (covered : ∀ stack ∈ stretch, depth + 1 < stack.length) :
    ∀ a ∈ stretch, ∀ b ∈ stretch, a.reverse[depth]? = b.reverse[depth]? := by
  -- Neighbours agree, so all agree with the first: by induction on the stretch.
  have like_first : ∀ first ∈ stretch.head?, ∀ a ∈ stretch,
      a.reverse[depth]? = first.reverse[depth]? := by
    induction stretch with
    | nil => exact fun _ none => nomatch none
    | cons first rest ih =>
      rintro _ ⟨⟩ a mem
      rcases List.mem_cons.mp mem with rfl | mem
      · rfl
      obtain ⟨second, found⟩ : ∃ second, second ∈ rest.head? := by
        cases rest with
        | nil => cases mem
        | cons second _ => exact ⟨second, rfl⟩
      have later := ih chain.tail (fun s there => covered s (List.mem_cons_of_mem _ there))
      have follows : Follows first second := (List.isChain_cons.mp chain).1 second found
      rw [later second found a mem]
      exact (follows.still (covered first List.mem_cons_self) (covered second
        (List.mem_cons_of_mem _ (List.mem_of_mem_head? found)))).symm
  cases stretch with
  | nil => exact fun a none => nomatch none
  | cons first rest =>
    intro a here b there
    rw [like_first first rfl a here, like_first first rfl b there]

/-! ## What listeners see of the stack -/

/-- The stack as it is shown. -/
def Execution.stack (x : Execution) : List (Session String) := x.sessions.map (Session.map Flow.id)

/-- The stack that was shown when the entry was written, if listeners were told. -/
def Entry.stack? : Entry → Option (List (Session String))
  | .notice _ context => some context.sessions
  | _ => none

namespace Request

def shown (r : Request) : List (List (Session String)) := r.journal.filterMap Entry.stack?

theorem shown_told (hook : Hook) (r : Request) :
    (r.told hook).shown = r.shown ++ [r.execution.stack] := by
  simp [shown, told, Entry.stack?, context, Execution.stack]

theorem stack_dropSession (r : Request) :
    r.dropSession.execution.stack = r.execution.stack.tail := List.map_tail

theorem stack_updateSession (f : Session Flow → Session Flow) (r : Request) :
    (r.updateSession f).execution.stack.tail = r.execution.stack.tail := by
  unfold updateSession Execution.stack
  split <;> simp [*]

/-- Each stack that was shown follows the one before, and the one there is now is the last shown but
for its innermost session, or has one more. -/
def Steady (first : List (Session String)) (r : Request) : Prop :=
  List.IsChain Follows (first :: r.shown) ∧ ∀ last ∈ (first :: r.shown).getLast?,
    r.execution.stack.tail = last.tail ∨ r.execution.stack.tail = last

namespace Steady

variable {first : List (Session String)} {r r' : Request}

theorem extend (h : r.Steady first) {stack : List (Session String)}
    (follows : ∀ last, r.execution.stack.tail = last.tail ∨ r.execution.stack.tail = last →
      Follows last stack) : List.IsChain Follows (first :: (r.shown ++ [stack])) := by
  rw [← List.cons_append, List.isChain_append]
  refine ⟨h.1, .singleton _, fun last mem next now => ?_⟩
  cases now
  exact follows last (h.2 last mem)

theorem now (h : r.Steady first) :
    List.IsChain Follows (first :: (r.shown ++ [r.execution.stack])) :=
  h.extend fun _ => Or.imp_right .inl

theorem silent (h : r.Steady first) (unsaid : r'.shown = r.shown)
    (below : r'.execution.stack.tail = r.execution.stack.tail) : r'.Steady first := by
  unfold Steady
  rwa [unsaid, below]

theorem updated (h : r.Steady first) (f : Session Flow → Session Flow) :
    (r.updateSession f).Steady first := by
  refine h.silent ?_ (r.stack_updateSession f)
  obtain ⟨sessions, e⟩ := r.updateSession_eq f
  rw [e]
  rfl

theorem shows {stack : List (Session String)}
    (chain : List.IsChain Follows (first :: (r.shown ++ [stack])))
    (said : r'.shown = r.shown ++ [stack])
    (now : r'.execution.stack.tail = stack.tail ∨ r'.execution.stack.tail = stack) :
    r'.Steady first := by
  unfold Steady
  rw [said]
  refine ⟨chain, fun last mem => ?_⟩
  rw [← List.cons_append, List.getLast?_concat] at mem
  cases mem
  exact now

end Steady

end Request

namespace Change

variable {first : List (Session String)} {r r' : Request}

theorem steady_touched (h : Touch r r') (steady : r.Steady first) : r'.Steady first := by
  cases h with
  | noticed hook => exact .shows steady.now (r.shown_told hook) (.inl rfl)
  | absorbed c =>
    refine steady.silent ?_ ?_
    · have silent := Entry.filterMap_ran (f := Entry.stack?) (fun _ => rfl) (fun _ _ => rfl) c.notes
      rw [Request.shown, Request.absorb, List.filterMap_append, silent, List.append_nil]
      rfl
    · unfold Request.absorb Request.adopt Request.absorbSessions Execution.stack
      cases r.execution.sessions with
      | nil => rfl
      | cons s rest => cases c.session? <;> rfl
  | session f => exact steady.updated f
  | taken t => exact steady.silent (by simp [Request.shown, Request.take, Entry.stack?]) rfl
  | fired t => exact steady.silent (by simp [Request.shown, Request.fire, Entry.stack?]) rfl
  | exited => exact steady.silent (by simp [Request.shown, Request.leave, Entry.stack?]) rfl
  | _ => exact steady.silent rfl rfl

theorem steady (h : Change r r') (steady : r.Steady first) : r'.Steady first := by
  cases h with
  | touched h => exact steady_touched h steady
  | entered state => exact steady.updated _
  | begun flow input => exact .shows steady.now (r.shown_told _) (.inr rfl)
  | left flow output =>
    -- The end is shown at once, so no other session can have ended since the last stack shown.
    refine .shows (steady.extend ?_) (r.dropSession.shown_told _) (.inl rfl)
    rw [r.stack_dropSession]
    rintro last (same | begun)
    · exact .inr (.inr same)
    · exact .inl (congrArg List.tail begun)
  | ended o => exact steady.silent rfl rfl

end Change

theorem Request.Steady.changes {first : List (Session String)} {r r' : Request}
    (steady : r.Steady first) (h : Changes r r') : r'.Steady first :=
  h.preserve (fun change => change.steady) steady

/-! ## Calls -/

/-- What a call comes to if its request comes to that. -/
def Answer.ofOutcome (comes : Except Stop Unit × Request) : Answer :=
  ⟨comes.1, comes.2.execution, comes.2.journal⟩

namespace Call

def first (x : Execution) : Call → Engine Move
  | start input _ _ => Engine.beginSession x.flow input
  | resume event _ _ => Execution.resumption event

def opening (x : Execution) : Call → Request
  | start _ external directory => Request.new x.begun external directory
  | resume _ external directory =>
    (Request.new { x with history := .preserve } external directory).told .resuming

/-- The call is not refused. -/
def Admitted (x : Execution) : Call → Prop
  | start .. => x.status = .notStarted
  | resume .. => x.isActive = true

theorem answer_of_admitted {x : Execution} {c : Call} (h : c.Admitted x) :
    c.answer x = .ofOutcome (Engine.outcome (Engine.serve (c.first x)) (c.opening x)) := by
  cases c with
  | start input external directory => exact if_pos h
  | resume event external directory => exact if_pos h

theorem answer_of_not_admitted {x : Execution} {c : Call} (h : ¬ c.Admitted x) :
    ∃ reason, c.answer x = x.refuse reason := by
  cases c with
  | start input external directory => exact ⟨_, if_neg h⟩
  | resume event external directory => exact ⟨_, if_neg h⟩

/-- The stacks from before a call until after it, with those that listeners are shown between. -/
def seen (x : Execution) (c : Call) : List (List (Session String)) :=
  x.stack :: ((c.answer x).journal.filterMap Entry.stack? ++ [(c.answer x).execution.stack])

theorem opening_steady (x : Execution) (c : Call) : (c.opening x).Steady x.stack := by
  have new (status : ExecutionStatus) (external : External) (directory : Directory) :
      (Request.new { x with status := status, history := .preserve } external directory).Steady
        x.stack := by
    refine ⟨.singleton _, fun last mem => ?_⟩
    cases mem
    exact .inl rfl
  cases c with
  | start input external directory => exact new _ external directory
  | resume event external directory =>
    exact Change.steady_touched (.noticed .resuming rfl) (new x.status external directory)

theorem first_tracked (x : Execution) (c : Call) : (c.first x).Tracked := by
  cases c with
  | start input _ _ => exact .beginSession x.flow input
  | resume event _ _ => exact .resumption event

theorem follows (x : Execution) (c : Call) : List.IsChain Follows (c.seen x) := by
  by_cases admitted : c.Admitted x
  · rw [seen, answer_of_admitted admitted]
    exact ((c.opening_steady x).changes ((c.first_tracked x).serve.changes (c.opening x))).now
  · obtain ⟨reason, refused⟩ := answer_of_not_admitted admitted
    rw [seen, refused]
    exact .cons_cons (.inl rfl) (.singleton _)

end Call

/-! ## Moments of a request -/

namespace Engine

/-- What remains of a request: the move that is under way, how many more there may be, and whether
an error would be shown to handlers. -/
structure Remainder where
  move : Engine Move
  limit : Nat
  sheltered : Bool

/-- The remainder carried out. -/
def Remainder.rest (m : Remainder) : Engine Unit := do
  tryCatch (do proceed m.limit (← m.move)) fun stop =>
    match m.sheltered, stop with
    | true, .raised e => do proceed moveLimit (← recover e)
    | _, stop => throw stop
  pause

theorem serve_eq (first : Engine Move) : serve first = Remainder.rest ⟨first, moveLimit, true⟩ := by
  unfold serve settle Remainder.rest
  congr 2
  funext stop
  cases stop <;> rfl

/-- The moments of a request that begins with a move: the request as it is then, and what remains. A
moment is within a move, or at the beginning of one that follows. -/
inductive Reaches (first : Engine Move) (opening : Request) : Remainder → Request → Prop where
  | first : Reaches first opening ⟨first, moveLimit, true⟩ opening
  | within {α : Type} {x : Engine α} {f : α → Engine Move} {limit : Nat} {sheltered : Bool}
      {r r' : Request} {a : α} (h : Reaches first opening ⟨x >>= f, limit, sheltered⟩ r)
      (came : outcome x r = (.ok a, r')) : Reaches first opening ⟨f a, limit, sheltered⟩ r'
  | next {move : Engine Move} {limit : Nat} {sheltered : Bool} {r r' : Request} {following : Move}
      (h : Reaches first opening ⟨move, limit + 1, sheltered⟩ r)
      (came : outcome move r = (.ok following, r')) :
      Reaches first opening ⟨step following, limit, sheltered⟩ r'
  | recovering {move : Engine Move} {limit : Nat} {r r' : Request} {e : ExecutionError}
      (h : Reaches first opening ⟨move, limit, true⟩ r)
      (came : outcome move r = (.error (.raised e), r')) :
      Reaches first opening ⟨recover e, moveLimit, false⟩ r'

theorem proceed_succ (limit : Nat) (move : Move) :
    proceed (limit + 1) move = step move >>= proceed limit := by
  cases move with
  | rest => cases limit <;> rfl
  | begin | enter => rfl

theorem rest_unsheltered (move : Engine Move) (limit : Nat) :
    outcome (Remainder.rest ⟨move, limit, false⟩) =
      outcome ((move >>= proceed limit) >>= fun _ => pause) := by
  funext r
  simp only [Remainder.rest]
  rw [outcome_bind, outcome_bind, outcome_tryCatch]
  rcases outcome (move >>= proceed limit) r with ⟨_ | _, _⟩ <;> rfl

/-- What remains decides what the request comes to. -/
theorem Reaches.outcome_eq {first : Engine Move} {opening r : Request} {m : Remainder}
    (h : Reaches first opening m r) :
    outcome (serve first) opening = outcome m.rest r := by
  induction h with
  | first => rw [serve_eq]
  | within _ came ih => rw [ih]; simp only [Remainder.rest, outcome_bind, outcome_tryCatch, came]
  | next _ came ih =>
    rw [ih]
    simp only [Remainder.rest, outcome_bind, outcome_tryCatch, came, proceed_succ]
  | recovering _ came ih =>
    -- The handler runs where the error is caught; what it raises is not caught again.
    rw [ih, rest_unsheltered]
    simp only [Remainder.rest, outcome_bind, outcome_tryCatch, came]

/-- The first error comes to the way on after it, however many moves there were: by induction on how
many there may be. -/
theorem Reaches.recovers {first move : Engine Move} {opening r r' : Request} {limit : Nat}
    {e : ExecutionError} (h : Reaches first opening ⟨move, limit, true⟩ r)
    (failed : outcome (move >>= proceed limit) r = (.error (.raised e), r')) :
    Reaches first opening ⟨recover e, moveLimit, false⟩ r' := by
  induction limit generalizing move r with
  | zero =>
    rw [outcome_bind] at failed
    rcases came : outcome move r with ⟨stop | next, s⟩ <;> rw [came] at failed
    · cases failed
      exact h.recovering came
    · cases next <;> cases failed
  | succ limit ih =>
    rw [outcome_bind] at failed
    rcases came : outcome move r with ⟨stop | next, s⟩ <;> rw [came] at failed
    · cases failed
      exact h.recovering came
    · refine ih (h.next came) ?_
      rwa [← proceed_succ]

end Engine

/-! ## What is left of a session -/

def Request.unwritten (r : Request) : Request := { r with journal := [] }

theorem Request.after_unwritten (r : Request) : r.unwritten.after r.journal = r := by
  simp [Request.after, unwritten]

namespace Engine

variable {α : Type}

/-- Work that is blind to the journal comes to the same from requests that differ in nothing else,
and writes down the same. -/
theorem Blind.alike {x : Engine α} (blind : Blind x) {r r' : Request}
    (same : r.unwritten = r'.unwritten) :
    (outcome x r).1 = (outcome x r').1 ∧
      (outcome x r).2.unwritten = (outcome x r').2.unwritten ∧
      ∃ later, (outcome x r).2.journal = r.journal ++ later ∧
        (outcome x r').2.journal = r'.journal ++ later := by
  have here := blind r.journal r.unwritten
  have there := blind r'.journal r'.unwritten
  rw [r.after_unwritten] at here
  rw [r'.after_unwritten, ← same] at there
  rw [here, there]
  exact ⟨rfl, rfl, (outcome x r.unwritten).2.journal, rfl, rfl⟩

theorem Blind.rest {m : Remainder} (h : Blind m.move) : Blind m.rest := by
  refine bind (tryCatch (bind h fun next => (Tracked.proceed m.limit next).blind) fun stop => ?_)
    fun _ => Tracked.pause.blind
  split
  · exact bind (Tracked.recover _).blind fun next => (Tracked.proceed moveLimit next).blind
  · exact throw _

/-- A session has gone, and listeners are told before its output is handed over. -/
def leave (flow : Flow) (state : State) (root : Bool) (output : Attributes) : Engine Move := do
  notify (.sessionEnded flow.id output)
  handOver state root output

theorem Blind.leave (flow : Flow) (state : State) (root : Bool) (output : Attributes) :
    Blind (leave flow state root output) := 
  bind (notify _) fun _ => (Tracked.handOver state root output).blind

/-- The way on in a subflow state once the subflow has ended: its output is mapped, and an event
tells of the end. -/
def takeUp (flow : Flow) (state : State) (part : SubflowPart) (output : Attributes)
    (event : Event) : Engine Move := do
  mapInto flow part.output output
  updateSession fun s => { s with status := .active }
  signal event
  takeTransition flow state

end Engine

namespace Call

/-- The moments of a call that is not refused. -/
def Reaches (x : Execution) (c : Call) (m : Engine.Remainder) (r : Request) : Prop :=
  c.Admitted x ∧ Engine.Reaches (c.first x) (c.opening x) m r

variable {x y : Execution} {c d : Call} {m : Engine.Remainder} {r r' : Request}

theorem answer_of_reaches (h : c.Reaches x m r) :
    c.answer x = .ofOutcome (Engine.outcome m.rest r) := by
  rw [answer_of_admitted h.1, h.2.outcome_eq]

/-- Two calls that have the same left to do on requests that differ in their journals alone. -/
theorem agree (blind : m.move.Blind) (here : c.Reaches x m r) (there : d.Reaches y m r')
    (same : r.unwritten = r'.unwritten) :
    (c.answer x).result = (d.answer y).result ∧
      (c.answer x).execution = (d.answer y).execution ∧
      ∃ later, (c.answer x).journal = r.journal ++ later ∧
        (d.answer y).journal = r'.journal ++ later := by
  obtain ⟨result, request, later⟩ := blind.rest.alike same
  rw [answer_of_reaches here, answer_of_reaches there]
  have execution := congrArg Request.execution request
  exact ⟨result, execution, later⟩

theorem reaches_furnish {flow : Flow} {input : Attributes} {limit : Nat} {sheltered : Bool}
    (h : c.Reaches x ⟨Engine.beginSession flow input, limit, sheltered⟩ r) :
    c.Reaches x ⟨Engine.furnish flow input, limit, sheltered⟩
      ((r.told (.sessionStarting flow.id input)).addSession (.fresh flow)) := by
  have start := h.2
  rw [Engine.beginSession_eq] at start
  exact ⟨h.1, (start.within rfl).within rfl⟩

/-- The call comes to the end of a session, with so much remaining, and the session is about to go
and to hand over its output. -/
def Closes (x : Execution) (c : Call) (flow : Flow) (ended : State) (part : EndPart) (limit : Nat)
    (sheltered root : Bool) (output : Attributes) (s : Request) : Prop :=
  ∃ r, c.Reaches x ⟨Engine.enterEnd flow ended part, limit, sheltered⟩ r ∧
    Engine.outcome (Engine.closing flow ended part) r = (.ok (root, output), s)

theorem reaches_leave {flow : Flow} {ended : State} {part : EndPart} {limit : Nat}
    {sheltered root : Bool} {output : Attributes}
    (h : c.Closes x flow ended part limit sheltered root output r) :
    c.Reaches x ⟨Engine.leave flow ended root output, limit, sheltered⟩ r.dropSession := by
  obtain ⟨_, ⟨admitted, ends⟩, came⟩ := h
  rw [Engine.enterEnd_eq] at ends
  exact ⟨admitted, (ends.within came).within rfl⟩

theorem reaches_takeUp {flow : Flow} {ended state : State} {part : SubflowPart}
    {transitions : List Transition} {limit : Nat} {sheltered : Bool} {output : Attributes}
    {parent : Session Flow}
    (h : c.Reaches x ⟨Engine.leave flow ended false output, limit, sheltered⟩ r)
    (top : r.execution.session? = some parent)
    (here : parent.state.bind parent.flow.state? = some state)
    (kind : state.kind = .subflow part transitions) :
    c.Reaches x
      ⟨Engine.takeUp parent.flow state part output ⟨ended.id, output⟩, limit, sheltered⟩
      (r.told (.sessionEnded flow.id output)) := by
  have resumed : c.Reaches x ⟨Engine.resumeParent ended.id output, limit, sheltered⟩
      (r.told (.sessionEnded flow.id output)) := ⟨h.1, h.2.within rfl⟩
  have top : (r.told (.sessionEnded flow.id output)).execution.session? = some parent := top
  have way := resumed.2.within rfl
  simp only [top, here, kind] at way
  exact ⟨h.1, way⟩

theorem reaches_enterKind {flow : Flow} {target : String} {state : State} {session : Session Flow}
    {limit : Nat} {sheltered : Bool}
    (h : c.Reaches x ⟨Engine.step (.enter flow target), limit, sheltered⟩ r)
    (found : flow.state? target = some state) (top : r.execution.session? = some session)
    (entered : Engine.outcome (Engine.runActions flow (some state) state.entry)
      ((r.told (.stateEntering state.id)).updateSession fun s =>
        { s with state := some state.id }) = (.ok (), r')) :
    c.Reaches x ⟨Engine.enterKind flow state, limit, sheltered⟩
      (r'.told (.stateEntered session.state state.id)) := by
  have way := h.2
  simp only [Engine.step, Engine.enterState, found] at way
  have top : (r.told (.stateEntering state.id)).execution.session? = some session := top
  have told : Engine.outcome (Engine.notify (.stateEntering state.id)) r =
      (.ok (), r.told (.stateEntering state.id)) := rfl
  have way := (way.within told).within rfl
  simp only [top] at way
  exact ⟨h.1, ((way.within rfl).within entered).within rfl⟩

end Call

/-- **Frames are isolated.** Whatever actions, expressions, mappers, handlers and subflows do: from
one stack that is shown to the next only the innermost session changes, or one begins or ends there,
so that a session stays as it is as long as there is another one above it. A session begins with
nothing in its scopes. Once it has ended, its output goes to the mapper of the subflow state and
into the event, and nothing else of it matters: what is left of the call comes to the same for all
sessions that hand over the same. -/
theorem frames_isolated (x : Execution) (c : Call) :
    List.IsChain Follows (c.seen x) ∧
      (∀ stretch, stretch <:+: c.seen x → ∀ depth, (∀ stack ∈ stretch, depth + 1 < stack.length) →
        ∀ a ∈ stretch, ∀ b ∈ stretch, a.reverse[depth]? = b.reverse[depth]?) ∧
      (∀ flow input limit sheltered r,
        c.Reaches x ⟨Engine.beginSession flow input, limit, sheltered⟩ r →
          ∃ child begun, child.scope = .empty ∧ child.viewScope = .empty ∧
            begun.execution.sessions = child :: r.execution.sessions ∧
            c.Reaches x ⟨Engine.furnish flow input, limit, sheltered⟩ begun) ∧
      ∀ flow ended part limit sheltered root output s,
        c.Closes x flow ended part limit sheltered root output s →
          (root = false → ∀ parent state subflow transitions,
            s.dropSession.execution.session? = some parent →
            parent.state.bind parent.flow.state? = some state →
            state.kind = .subflow subflow transitions →
              c.Reaches x
                ⟨Engine.takeUp parent.flow state subflow output ⟨ended.id, output⟩, limit,
                  sheltered⟩
                (s.dropSession.told (.sessionEnded flow.id output))) ∧
          ∀ (y : Execution) (d : Call) (t : Request),
            d.Closes y flow ended part limit sheltered root output t →
            s.dropSession.unwritten = t.dropSession.unwritten →
              (c.answer x).result = (d.answer y).result ∧
                (c.answer x).execution = (d.answer y).execution ∧
                ∃ later, (c.answer x).journal = s.journal ++ later ∧
                  (d.answer y).journal = t.journal ++ later := by
  refine ⟨c.follows x, ?_, ?_, ?_⟩
  · rintro stretch ⟨before, later, whole⟩ depth covered
    have chain := c.follows x
    rw [← whole] at chain
    exact still_of_isChain chain.left_of_append.right_of_append covered
  · intro flow input limit sheltered r begins
    exact ⟨.fresh flow, _, rfl, rfl, rfl, Call.reaches_furnish begins⟩
  · intro flow ended part limit sheltered root output s closes
    refine ⟨?_, ?_⟩
    · rintro rfl parent state subflow transitions top here kind
      exact Call.reaches_takeUp (Call.reaches_leave closes) top here kind
    · intro y d t closes' same
      have alike := Call.agree (.leave flow ended root output) (Call.reaches_leave closes)
        (Call.reaches_leave closes') same
      exact alike

/-! ## A secret -/

/-- The end of a subflow that hands over nothing. -/
def goodbye : State := ⟨"bye", [], [], [], .empty, .final ⟨none, none⟩⟩

/-- A flow that ends when it is told to go. -/
def whisper : Flow :=
  { Flow.blank "whisper" .empty with
    start := some "ask"
    states := [.waiting "ask" [⟨.event "go", [], some (.fixed "bye"), .preserve, .empty⟩],
      goodbye] }

/-- From here the other flow is called, and home is next. -/
def calling : State :=
  ⟨"call", [], [], [], .empty, .subflow ⟨.fixed "whisper", none, none⟩
    [⟨.event "bye", [], some (.fixed "home"), .preserve, .empty⟩]⟩

def lobby : Flow :=
  { Flow.blank "lobby" .empty with start := some "call", states := [calling, .waiting "home" []] }

def halls : Directory := fun id => .ok (if id = "lobby" then lobby else whisper)

def lobbySession : Session Flow := ⟨lobby, some "call", .active, .empty, .empty⟩

/-- An execution whose subflow has a secret. -/
def whispering (secret : String) : Execution :=
  { Execution.create lobby [] with
    status := .active
    sessions := [⟨whisper, some "ask", .paused, ⟨[("secret", .text secret)]⟩, .empty⟩,
      lobbySession] }

def knock : Call := .start .empty caller halls

def hush : Call := .resume (some ⟨"go", .empty⟩) caller halls

theorem whisper_closes (secret : String) : ∃ s,
    hush.Closes (whispering secret) whisper goodbye ⟨none, none⟩ 99999 true false .empty s ∧
      s.dropSession.unwritten =
        { Request.new { whispering "" with sessions := [lobbySession] } caller halls with
          event := some ⟨"go", .empty⟩
          transition := some "ask on go" } := by
  have left : hush.Reaches (whispering secret)
      ⟨Engine.step (.enter whisper "bye"), 99999, true⟩ _ := ⟨rfl, Engine.Reaches.first.next rfl⟩
  exact ⟨_, ⟨_, Call.reaches_enterKind left rfl rfl rfl, rfl⟩, rfl⟩

theorem child_scope_isolated :
    let answer secret := hush.answer (whispering secret)
    (∀ stack ∈ (hush.seen (whispering "yes")).take 7,
        stack.reverse[0]? = some (lobbySession.map Flow.id)) ∧
      (∃ child begun, child.scope = .empty ∧ child.viewScope = .empty ∧
        begun.execution.sessions = [child, lobbySession] ∧
        knock.Reaches (.create lobby []) ⟨Engine.furnish whisper .empty, 99998, true⟩ begun) ∧
      (∃ r, hush.Reaches (whispering "yes")
        ⟨Engine.takeUp lobby calling ⟨.fixed "whisper", none, none⟩ .empty ⟨"bye", .empty⟩, 99999,
          true⟩ r) ∧
      (answer "yes").result = (answer "no").result ∧
      (answer "yes").execution = (answer "no").execution := by
  intro answer
  obtain ⟨s, closes, left⟩ := whisper_closes "yes"
  obtain ⟨t, closes', left'⟩ := whisper_closes "no"
  obtain ⟨-, still, -, gone⟩ := frames_isolated (whispering "yes") hush
  obtain ⟨-, -, fresh, -⟩ := frames_isolated (.create lobby []) knock
  obtain ⟨takesUp, alike⟩ := gone _ _ _ _ _ _ _ s closes
  refine ⟨?_, ?_, ⟨_, takesUp rfl lobbySession calling _ _ ?_ rfl rfl⟩, ?_⟩
  · have covered : ∀ stack ∈ (hush.seen (whispering "yes")).take 7, 0 + 1 < stack.length := by
      have heights : ((hush.seen (whispering "yes")).take 7).map List.length =
          List.replicate 7 2 := rfl
      intro stack mem
      have height := List.mem_map_of_mem (f := List.length) mem
      rw [heights] at height
      rw [List.eq_of_mem_replicate height]
      decide
    intro stack mem
    exact still _ (List.take_prefix ..).isInfix 0 covered stack mem (whispering "yes").stack
      List.mem_cons_self
  · have called : knock.Reaches (.create lobby [])
        ⟨Engine.step (.enter lobby "call"), 99999, true⟩ _ := ⟨rfl, Engine.Reaches.first.next rfl⟩
    have begins : knock.Reaches (.create lobby [])
        ⟨Engine.step (.begin whisper .empty), 99998, true⟩ _ := ⟨rfl, called.2.next rfl⟩
    exact fresh whisper .empty _ _ _ begins
  · have stack := congrArg (fun r => r.execution.session?) left
    exact stack
  · obtain ⟨result, execution, -⟩ := alike _ _ t closes' (left.trans left'.symm)
    exact ⟨result, execution⟩

end Parley
