import Parley.Proofs.Phases

/-!
# Parley.Proofs.Turns

A builder whose phases are called directly, in any order, with failures ignored and with dispose at
any point. Whoever holds a flow then has called each phase once and in its turn since the last
dispose; what was called out of turn changed nothing. The first phase went well. The others may have
failed: their failures are not remembered, and what they did before stays in the flow. It is the
assembler that stops where a phase fails.

* `Course.Sound`: the calls since the last dispose against the builder.
  `Course.sound_after`: they agree after any calls.
* `handed_over_in_turn`: what a flow that is handed over tells of the calls.
-/

namespace Parley

namespace Program

/-- What becomes of a draft in some phases, whether they fail or not. -/
def draftAfter (program : Program) : List Phase → Draft → Draft
  | [], d => d
  | phase :: rest, d => draftAfter program rest (program phase d).2

/-- What some phases come to, one after the other. -/
def outcomes (program : Program) : List Phase → Draft → List (Except BuildError Unit)
  | [], _ => []
  | phase :: rest, d => (program phase d).1 :: outcomes program rest (program phase d).2

variable {program : Program}

theorem draftAfter_concat (phases : List Phase) (phase : Phase) (d : Draft) :
    draftAfter program (phases ++ [phase]) d =
      (program phase (draftAfter program phases d)).2 := by
  induction phases generalizing d with
  | nil => rfl
  | cons first rest ih => exact ih _

theorem outcomes_concat (phases : List Phase) (phase : Phase) (d : Draft) :
    outcomes program (phases ++ [phase]) d =
      outcomes program phases d ++ [(program phase (draftAfter program phases d)).1] := by
  induction phases generalizing d with
  | nil => rfl
  | cons first rest ih => exact congrArg _ (ih _)

/-- Phases are complete if none fails. -/
theorem complete_eq_ok_iff {phases : List Phase} {d d' : Draft} :
    complete program phases d = .ok d' ↔
      (∀ outcome ∈ outcomes program phases d, outcome = .ok ()) ∧
        draftAfter program phases d = d' := by
  induction phases generalizing d with
  | nil => simp [complete, outcomes, draftAfter]
  | cons phase rest ih =>
    rw [complete, outcomes, draftAfter, List.forall_mem_cons]
    rcases program phase d with ⟨_ | _, next⟩
    · simp
    · simp [ih]

end Program

namespace Phase

/-- The phases up to the given one. -/
def upTo : Option Phase → List Phase
  | none => []
  | some phase => all.takeWhile (· ≠ phase) ++ [phase]

theorem upTo_of_turn {last : Option Phase} {phase : Phase} (turn : expected last = some phase) :
    upTo (some phase) = upTo last ++ [phase] := by
  cases last with
  | none =>
    cases turn
    rfl
  | some last => cases last <;> cases turn <;> rfl

theorem last_of_getFlow_turn {last : Option Phase} (turn : expected last = some .getFlow) :
    last = some .exceptionHandlers := by
  cases last with
  | none => cases turn
  | some last => cases last <;> first | rfl | cases turn

theorem last_of_start_turn {last : Option Phase} (turn : expected last = some .start) :
    last = none := by
  cases last with
  | none => rfl
  | some last => cases last <;> cases turn

end Phase

/-- A direct call of a builder. What is built from, and in which surroundings, comes with the first
phase and may be something else each time. -/
inductive Order where
  | start (context : BuildContext) (source : FlowSource)
  | fill (phase : Phase) (filling : phase ∈ Phase.filling)
  | getFlow
  | dispose

namespace Order

def phase? : Order → Option Phase
  | start .. => some .start
  | fill phase _ => some phase
  | getFlow => some .getFlow
  | dispose => none

/-- The calls that fill a flow, in order. -/
def filling : List Order := Phase.filling.attach.map fun phase => fill phase.1 phase.2

end Order

namespace Builder

/-- What comes of a call, with the flow if one is handed over, and the builder afterwards. -/
def obey (b : Builder) : Order → Except BuildError (Option Flow) × Builder
  | .start context source =>
    let (result, started) := start context { b with source := source }
    (result.map fun _ => none, { started with source := b.source })
  | .fill phase _ =>
    let (result, filled) := b.fill phase
    (result.map fun _ => none, filled)
  | .getFlow =>
    let (result, done) := b.getFlow
    (result.map some, done)
  | .dispose => (.ok none, b.dispose)

/-- It is the call's turn. A dispose needs none. -/
def allows (b : Builder) (o : Order) : Bool :=
  match o.phase? with
  | some phase => Phase.expected b.last = some phase
  | none => true

variable {b : Builder} {o : Order} {phase : Phase}

theorem allows_iff (called : o.phase? = some phase) :
    b.allows o = true ↔ Phase.expected b.last = some phase := by
  rw [allows, called, decide_eq_true_iff]

/-- A call out of turn is rejected and changes nothing. -/
theorem obey_out_of_turn (called : o.phase? = some phase)
    (early : Phase.expected b.last ≠ some phase) :
    b.obey o = (.error (Phase.complaint b.last phase), b) := by
  cases o with
  | start context source =>
    cases called
    have rejected : start context { b with source := source } =
        (.error (Phase.complaint b.last .start), { b with source := source }) :=
      start_out_of_turn early
    simp only [obey, rejected, Except.map]
  | fill called_phase filling =>
    cases called
    simp only [obey, fill_out_of_turn early, Except.map]
  | getFlow =>
    cases called
    simp only [obey, getFlow_out_of_turn early, Except.map]
  | dispose => cases called

end Builder

/-- A call, whether it was its turn, and what came of it. -/
structure Note where
  order : Order
  inTurn : Bool
  outcome : Except BuildError (Option Flow)

/-- A builder and the calls since the last dispose. -/
structure Course where
  builder : Builder
  recent : List Note

namespace Course

def new (source : FlowSource) : Course := ⟨.new source, []⟩

def next (c : Course) (o : Order) : Course :=
  let (outcome, b) := c.builder.obey o
  match o with
  | .dispose => ⟨b, []⟩
  | o => ⟨b, c.recent ++ [⟨o, c.builder.allows o, outcome⟩]⟩

def after (orders : List Order) (c : Course) : Course := orders.foldl next c

/-- The calls since the last dispose, without those that were rejected as out of turn. -/
def taken (c : Course) : List Note := c.recent.filter (·.inTurn)

/-- The first of the calls went well, and the others have made the draft what it is. -/
def Accounts (taken : List Note) (last : Option Phase) (program : Program) (draft : Draft) :
    Prop :=
  ∃ context source attributes done notes, source context = .ok (program, attributes) ∧
    Phase.upTo last = .start :: done ∧
    taken = ⟨.start context source, true, .ok none⟩ :: notes ∧
    notes.map (·.outcome) =
      (Program.outcomes program done (.blank context attributes)).map (·.map fun _ => none) ∧
    draft = Program.draftAfter program done (.blank context attributes)

/-- Of the calls taken since the last dispose, the first was a start that went well, and the others
were the phases that fill a flow, each once and in order. The flow is what these phases made of a
blank draft, those that failed included. -/
def BuiltInTurn (c : Course) (f : Flow) : Prop :=
  ∃ context source program attributes notes, source context = .ok (program, attributes) ∧
    c.taken = ⟨.start context source, true, .ok none⟩ :: notes ∧
    notes.map (·.order.phase?) = Phase.filling.map some ∧
    notes.map (·.outcome) = (Program.outcomes program Phase.filling
      (.blank context attributes)).map (·.map fun _ => none) ∧
    f = (Program.draftAfter program Phase.filling (.blank context attributes)).flow

/-- The calls taken since the last dispose are the phases up to the last one, and they account for
the work in progress. -/
structure Sound (c : Course) : Prop where
  phases : c.taken.map (·.order.phase?) = (Phase.upTo c.builder.last).map some
  idle : c.builder.last = none → c.builder.work = none
  work : ∀ program draft, c.builder.work = some (program, draft) →
    Accounts c.taken c.builder.last program draft

variable {c : Course} {o : Order} {phase : Phase} {source : FlowSource}
  {work : Option (Program × Draft)} {outcome : Except BuildError (Option Flow)}

theorem new_sound (source : FlowSource) : (new source).Sound := ⟨rfl, fun _ => rfl, nofun⟩

/-- A call out of turn leaves a note that does not count. -/
theorem next_out_of_turn (called : o.phase? = some phase)
    (early : Phase.expected c.builder.last ≠ some phase) :
    (c.next o).builder = c.builder ∧ (c.next o).taken = c.taken := by
  have rejected : c.builder.obey o = (.error (Phase.complaint c.builder.last phase), c.builder) :=
    Builder.obey_out_of_turn called early
  have refused : c.builder.allows o = false := by
    rw [Bool.eq_false_iff, Ne, Builder.allows_iff called]
    exact early
  cases o with
  | dispose => cases called
  | start | fill | getFlow =>
    simp [next, taken, rejected, refused]

theorem next_of_turn (called : o.phase? = some phase)
    (turn : Phase.expected c.builder.last = some phase) :
    (c.next o).builder = (c.builder.obey o).2 ∧
      (c.next o).taken = c.taken ++ [⟨o, true, (c.builder.obey o).1⟩] := by
  have allowed : c.builder.allows o = true := (Builder.allows_iff called).mpr turn
  cases o with
  | dispose => cases called
  | start | fill | getFlow => simp [next, taken, allowed]

namespace Sound

/-- In its turn, a call has to account for the work that it leaves, if any. -/
theorem of_turn (h : c.Sound) (called : o.phase? = some phase)
    (turn : Phase.expected c.builder.last = some phase)
    (obeyed : c.builder.obey o = (outcome, ⟨source, some phase, work⟩))
    (accounts : ∀ program draft, work = some (program, draft) →
      Accounts (c.taken ++ [⟨o, true, outcome⟩]) (some phase) program draft) :
    (c.next o).Sound := by
  obtain ⟨made, taken⟩ := next_of_turn called turn
  rw [obeyed] at made taken
  refine ⟨?_, fun idle => ?_, ?_⟩
  · rw [made, taken, Phase.upTo_of_turn turn, List.map_append, List.map_append, h.phases]
    exact congrArg (_ ++ [·]) called
  · rw [made] at idle
    cases idle
  · rw [made, taken]
    exact accounts

theorem start {context : BuildContext} (h : c.Sound)
    (turn : Phase.expected c.builder.last = some .start) :
    (c.next (.start context source)).Sound := by
  have last : c.builder.last = none := Phase.last_of_start_turn turn
  have nothing : c.taken = [] := by
    have none_taken := h.phases
    rw [last] at none_taken
    exact List.map_eq_nil_iff.mp none_taken
  rcases delivered : source context with e | ⟨program, attributes⟩
  · have obeyed : c.builder.obey (.start context source) =
        (.error e, ⟨c.builder.source, some .start, c.builder.work⟩) := by
      simp only [Builder.obey, Builder.start_of_error turn delivered, Except.map]
    refine h.of_turn rfl turn obeyed fun program draft working => ?_
    exact absurd ((h.idle last).symm.trans working) nofun
  · have obeyed : c.builder.obey (.start context source) =
        (.ok none, ⟨c.builder.source, some .start, some (program, .blank context attributes)⟩) := by
      simp only [Builder.obey, Builder.start_of_ok turn delivered, Except.map]
    refine h.of_turn rfl turn obeyed fun program' draft working => ?_
    cases working
    rw [nothing]
    exact ⟨context, source, attributes, [], [], delivered, rfl, rfl, rfl, rfl⟩

theorem fill {filling : phase ∈ Phase.filling} (h : c.Sound)
    (turn : Phase.expected c.builder.last = some phase) : (c.next (.fill phase filling)).Sound := by
  rcases working : c.builder.work with _ | ⟨program, draft⟩
  · have same : c.builder = ⟨c.builder.source, c.builder.last, none⟩ := by rw [← working]
    have obeyed : c.builder.obey (.fill phase filling) =
        (.error (.notInitialized phase.name), ⟨c.builder.source, some phase, none⟩) := by
      rw [Builder.obey, same, Builder.fill_of_none turn]
      rfl
    exact h.of_turn rfl turn obeyed nofun
  · have same : c.builder = ⟨c.builder.source, c.builder.last, some (program, draft)⟩ := by
      rw [← working]
    have obeyed : c.builder.obey (.fill phase filling) =
        ((program phase draft).1.map fun _ => none,
          ⟨c.builder.source, some phase, some (program, (program phase draft).2)⟩) := by
      rw [Builder.obey, same, Builder.fill_of_turn turn]
    refine h.of_turn rfl turn obeyed fun program' draft' working' => ?_
    cases working'
    obtain ⟨context, source, attributes, done, notes, delivered, upTo, taken, came, rfl⟩ :=
      h.work program draft working
    let note : Note := ⟨.fill phase filling, true,
      (program phase (Program.draftAfter program done (.blank context attributes))).1.map
        fun _ => none⟩
    refine ⟨context, source, attributes, done ++ [phase], notes ++ [note], delivered,
      ?_, ?_, ?_, ?_⟩
    · rw [Phase.upTo_of_turn turn, upTo]
      rfl
    · rw [taken]
      rfl
    · rw [Program.outcomes_concat, List.map_append, List.map_append, came]
      rfl
    · exact (Program.draftAfter_concat done phase _).symm

theorem getFlow (h : c.Sound) (turn : Phase.expected c.builder.last = some .getFlow) :
    (c.next .getFlow).Sound := by
  rcases working : c.builder.work with _ | ⟨program, draft⟩
  · have same : c.builder = ⟨c.builder.source, c.builder.last, none⟩ := by rw [← working]
    have obeyed : c.builder.obey .getFlow =
        (.error (.notInitialized Phase.getFlow.name), ⟨c.builder.source, some .getFlow, none⟩) := by
      rw [Builder.obey, same, Builder.getFlow_of_none turn]
      rfl
    exact h.of_turn rfl turn obeyed nofun
  · have same : c.builder = ⟨c.builder.source, c.builder.last, some (program, draft)⟩ := by
      rw [← working]
    have obeyed : c.builder.obey .getFlow =
        ((draft.flow.validate.map fun _ => draft.flow).map some,
          ⟨c.builder.source, some .getFlow, none⟩) := by
      rw [Builder.obey, same, Builder.getFlow_of_turn turn]
    exact h.of_turn rfl turn obeyed nofun

theorem next (h : c.Sound) (o : Order) : (c.next o).Sound := by
  rcases called : o.phase? with _ | phase
  · cases o with
    | dispose => exact new_sound c.builder.source
    | start | fill | getFlow => cases called
  · by_cases turn : Phase.expected c.builder.last = some phase
    · cases o with
      | start context source =>
        cases called
        exact h.start turn
      | fill filled filling =>
        cases called
        exact h.fill turn
      | getFlow =>
        cases called
        exact h.getFlow turn
      | dispose => cases called
    · obtain ⟨made, taken⟩ := next_out_of_turn called turn
      constructor
      · rw [made, taken]
        exact h.phases
      · rw [made]
        exact h.idle
      · rw [made, taken]
        exact h.work

end Sound

theorem sound_after (source : FlowSource) (orders : List Order) :
    ((new source).after orders).Sound := by
  have kept : ∀ c : Course, c.Sound → (c.after orders).Sound := by
    induction orders with
    | nil => exact fun c h => h
    | cons o rest ih => exact fun c h => ih (c.next o) (h.next o)
  exact kept _ (new_sound source)

/-- With what it takes to hand over a flow, all phases were taken. -/
theorem Sound.handedOver {f : Flow} (h : c.Sound) (ok : c.builder.getFlow.1 = .ok f) :
    c.BuiltInTurn f := by
  by_cases turn : Phase.expected c.builder.last = some .getFlow
  · rcases working : c.builder.work with _ | ⟨program, draft⟩
    · have same : c.builder = ⟨c.builder.source, c.builder.last, none⟩ := by rw [← working]
      rw [same, Builder.getFlow_of_none turn] at ok
      cases ok
    · have same : c.builder = ⟨c.builder.source, c.builder.last, some (program, draft)⟩ := by
        rw [← working]
      rw [same, Builder.getFlow_of_turn turn] at ok
      obtain ⟨u, -, handed⟩ := of_map_eq_ok ok
      obtain ⟨context, source, attributes, done, notes, delivered, upTo, taken, came, rfl⟩ :=
        h.work program draft working
      have phases := h.phases
      rw [Phase.last_of_getFlow_turn turn] at upTo phases
      -- The last phase begun is the one before, so all that come up to it have been taken.
      have done_eq : done = Phase.filling := (List.cons.inj upTo).2.symm
      subst done_eq
      rw [taken] at phases
      exact ⟨context, source, program, attributes, notes, delivered, taken,
        (List.cons.inj phases).2, came, handed.symm⟩
  · rw [Builder.getFlow_out_of_turn turn] at ok
    cases ok

end Course

/-- **What is handed over was built in turn.** After any direct calls, a call out of turn is
rejected and changes nothing. If a flow is handed over, the calls since the last dispose that were
not rejected have built it in turn, and it is closed; phases that failed have left in it what they
did before. An assembler gives a flow if and only if none fails. -/
theorem handed_over_in_turn (first : FlowSource) (orders : List Order) :
    let c := (Course.new first).after orders
    (∀ o phase, o.phase? = some phase → Phase.expected c.builder.last ≠ some phase →
      c.builder.obey o = (.error (Phase.complaint c.builder.last phase), c.builder)) ∧
    (∀ f, c.builder.getFlow.1 = .ok f → c.BuiltInTurn f ∧ f.Closed) ∧
    ∀ source context f, assembleFlow source context = .ok f ↔ ∃ program attributes,
      source context = .ok (program, attributes) ∧
      (∀ outcome ∈ Program.outcomes program Phase.filling (.blank context attributes),
        outcome = .ok ()) ∧
      f = (Program.draftAfter program Phase.filling (.blank context attributes)).flow ∧
      f.Closed := by
  intro c
  have sound : c.Sound := Course.sound_after first orders
  refine ⟨fun o phase => Builder.obey_out_of_turn, fun f ok => ?_, ?_⟩
  · exact ⟨sound.handedOver ok, Builder.getFlow_closed ok⟩
  intro source context f
  rw [assembleFlow_eq_ok_iff]
  constructor
  · rintro ⟨program, attributes, d, delivered, complete, closed, rfl⟩
    obtain ⟨well, rfl⟩ := Program.complete_eq_ok_iff.mp complete
    exact ⟨program, attributes, delivered, well, rfl, closed⟩
  · rintro ⟨program, attributes, delivered, well, rfl, closed⟩
    have complete := Program.complete_eq_ok_iff.mpr ⟨well, rfl⟩
    exact ⟨program, attributes, _, delivered, complete, closed, rfl⟩

/-- A model of one state, with a lamp that nobody can light. -/
def unlit : FlowModel :=
  { FlowModel.empty with
    vars := [⟨"lamp", none, some "("⟩]
    states := [⟨"end", .final none [], [], [], [], .empty⟩] }

/-- All calls that it takes, with the failure on the way ignored. -/
def heedless : List Order :=
  .start ⟨"room", .empty, .ofActions []⟩ (.ofModel (.ok unlit)) :: Order.filling

/-- The flow is handed over without its lamp, although the phase of the variables failed. -/
theorem flow_handed_over_after_failure :
    let c := (Course.new (.ofModel (.ok unlit))).after heedless
    c.builder.getFlow.1.toOption.map (fun f => f.vars.length) = some 0 ∧
      c.taken.any (fun note => note.order.phase? = some .vars && !note.outcome.isOk) = true := by
  decide +kernel

/-- It is the same when nothing is called in its turn at first. -/
theorem flow_handed_over_after_dispose :
    let orders := Order.getFlow :: Order.filling ++ .dispose :: heedless ++ heedless
    let c := (Course.new (.ofModel (.ok unlit))).after orders
    ∃ f, c.builder.getFlow.1 = .ok f ∧ f.Closed ∧ c.recent.length = 18 ∧
      c.taken.map (·.order.phase?) = (Phase.start :: Phase.filling).map some := by
  intro orders c
  obtain ⟨-, handed, -⟩ := handed_over_in_turn (.ofModel (.ok unlit)) orders
  obtain ⟨f, ok⟩ : ∃ f, c.builder.getFlow.1 = .ok f := exists_of_isOk (by decide +kernel)
  obtain ⟨⟨context, source, program, attributes, notes, -, taken, phases, -, -⟩, closed⟩ :=
    handed f ok
  refine ⟨f, ok, closed, by decide +kernel, ?_⟩
  rw [taken, List.map_cons, phases]
  rfl

end Parley
