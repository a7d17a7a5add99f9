import Mathlib.Data.List.Chain
import Parley.Proofs.Closed
import Parley.Proofs.Success

/-!
# Parley.Proofs.Phases

The phases of building a flow, one call at a time and all in order. A builder that an assembler
drives through them makes of its source what the source's program makes of a blank draft phase after
phase (`FlowSource.assembly`); neither the last phase to begin nor the work of before matters.

* `Builder.start_of_ok`, `Builder.fill_of_turn`, `Builder.getFlow_of_turn` and what stands beside
  them: one call, by whether it is its turn.
* `FlowBuilder.assemble_of_ready`: an attempt, and what it leaves behind.
* `assembleFlow_eq_ok_iff`: the flows that are assembled.
-/

namespace Parley

/-! ## One call -/

namespace Phase

/-- The complaint about a phase that is not the next one. -/
def complaint (last : Option Phase) (phase : Phase) : BuildError :=
  .phaseOrder (((expected last).map name).getD "dispose") phase.name

variable {last : Option Phase} {phase : Phase}

theorem advance_of_turn (turn : expected last = some phase) :
    advance last phase = .ok (some phase) := if_pos turn

theorem advance_out_of_turn (early : expected last ≠ some phase) :
    advance last phase = .error (complaint last phase) := if_neg early

end Phase

namespace Builder

variable {source : FlowSource} {context : BuildContext} {last : Option Phase} {phase : Phase}
  {program : Program} {attributes : Attributes} {draft : Draft}
  {work : Option (Program × Draft)} {b : Builder} {e : BuildError}

theorem start_out_of_turn (early : Phase.expected b.last ≠ some .start) :
    b.start context = (.error (Phase.complaint b.last .start), b) := by
  simp only [start, Phase.advance_out_of_turn early]

theorem fill_out_of_turn (early : Phase.expected b.last ≠ some phase) :
    b.fill phase = (.error (Phase.complaint b.last phase), b) := by
  simp only [fill, Phase.advance_out_of_turn early]

theorem getFlow_out_of_turn (early : Phase.expected b.last ≠ some .getFlow) :
    b.getFlow = (.error (Phase.complaint b.last .getFlow), b) := by
  simp only [getFlow, Phase.advance_out_of_turn early]

theorem start_of_ok (turn : Phase.expected last = some .start)
    (delivered : source context = .ok (program, attributes)) :
    start context ⟨source, last, work⟩ =
      (.ok (), ⟨source, some .start, some (program, Draft.blank context attributes)⟩) := by
  simp only [start, Phase.advance_of_turn turn, delivered]

theorem start_of_error (turn : Phase.expected last = some .start)
    (failed : source context = .error e) :
    start context ⟨source, last, work⟩ = (.error e, ⟨source, some .start, work⟩) := by
  simp only [start, Phase.advance_of_turn turn, failed]

theorem fill_of_turn (turn : Phase.expected last = some phase) :
    fill phase ⟨source, last, some (program, draft)⟩ =
      ((program phase draft).1,
        ⟨source, some phase, some (program, (program phase draft).2)⟩) := by
  simp only [fill, Phase.advance_of_turn turn]

theorem fill_of_none (turn : Phase.expected last = some phase) :
    fill phase ⟨source, last, none⟩ =
      (.error (.notInitialized phase.name), ⟨source, some phase, none⟩) := by
  simp only [fill, Phase.advance_of_turn turn]

theorem getFlow_of_none (turn : Phase.expected last = some .getFlow) :
    getFlow ⟨source, last, none⟩ =
      (.error (.notInitialized Phase.getFlow.name), ⟨source, some .getFlow, none⟩) := by
  simp only [getFlow, Phase.advance_of_turn turn]

/-- A flow is handed over as it stands if it is closed, and the builder has it no more. -/
theorem getFlow_of_turn (turn : Phase.expected last = some .getFlow) :
    getFlow ⟨source, last, some (program, draft)⟩ =
      (draft.flow.validate.map fun _ => draft.flow, ⟨source, some .getFlow, none⟩) := by
  simp only [getFlow, Phase.advance_of_turn turn]
  cases draft.flow.validate <;> rfl

@[simp] theorem source_start : (b.start context).2.source = b.source := by
  unfold start
  split
  · rfl
  · split <;> rfl

@[simp] theorem source_fill : (b.fill phase).2.source = b.source := by
  unfold fill
  split
  · rfl
  · split <;> rfl

@[simp] theorem source_getFlow : b.getFlow.2.source = b.source := by
  unfold getFlow
  split
  · rfl
  · split
    · rfl
    · split <;> rfl

end Builder

/-! ## One attempt -/

namespace Program

/-- What the phases make of a draft one after the other, or the first error. -/
def complete (program : Program) : List Phase → Draft → Except BuildError Draft
  | [], d => .ok d
  | phase :: rest, d =>
    match program phase d with
    | (.error e, _) => .error e
    | (.ok (), d) => complete program rest d

end Program

/-- The flow that a source makes where nobody has to watch the order of the phases. -/
def FlowSource.assembly (source : FlowSource) (context : BuildContext) : Except BuildError Flow :=
  match source context with
  | .error e => .error e
  | .ok (program, attributes) =>
    match Program.complete program Phase.filling (Draft.blank context attributes) with
    | .error e => .error e
    | .ok d => d.flow.validate.map fun _ => d.flow

namespace FlowBuilder

variable {source : FlowSource} {context : BuildContext} {program : Program}

theorem source_fillAll (phases : List Phase) (b : Builder) :
    (fillAll phases b).2.source = b.source := by
  induction phases generalizing b with
  | nil => rfl
  | cons phase rest ih =>
    have kept : (fill phase b).2.source = b.source := Builder.source_fill
    unfold fillAll
    split <;> rename_i filled <;> rw [filled] at kept
    · exact kept
    · rw [ih]
      exact kept

theorem source_direct (b : Builder) : (direct context b).2.source = b.source := by
  have begun : (start context b).2.source = b.source := Builder.source_start
  unfold direct
  split <;> rename_i started <;> rw [started] at begun
  · exact begun
  · rename_i b'
    have filled := source_fillAll Phase.filling b'
    split <;> rename_i done <;> rw [done] at filled
    · exact filled.trans begun
    · exact Builder.source_getFlow.trans (filled.trans begun)

/-- Phases that follow each other, begun in their turn, are what they are without a builder. -/
theorem fillAll_of_turn (source : FlowSource) (program : Program) (d : Draft) {last : Phase}
    {phases : List Phase} (turns : (last :: phases).IsChain fun p q => p.next = some q) :
    (∃ d', Program.complete program phases d = .ok d' ∧
      fillAll phases (Builder.mk source (some last) (some (program, d))) =
        (.ok (), ⟨source, some (phases.getLastD last), some (program, d')⟩)) ∨
    ∃ e, Program.complete program phases d = .error e ∧
      (fillAll phases (Builder.mk source (some last) (some (program, d)))).1 = .error e := by
  induction phases generalizing last d with
  | nil => exact .inl ⟨d, rfl, rfl⟩
  | cons phase rest ih =>
    obtain ⟨turn, turns⟩ := List.isChain_cons_cons.mp turns
    have filled : fill phase (Builder.mk source (some last) (some (program, d))) =
        ((program phase d).1, ⟨source, some phase, some (program, (program phase d).2)⟩) :=
      Builder.fill_of_turn turn
    unfold fillAll Program.complete
    rw [filled]
    rcases program phase d with ⟨_ | _, d'⟩
    · exact .inr ⟨_, rfl, rfl⟩
    · rw [List.getLastD_cons]
      exact ih d' turns

theorem filling_in_turn :
    (Phase.start :: Phase.filling).IsChain fun p q => p.next = some q := by decide

/-- A builder that has begun nothing makes the flow of its source, whatever it did before. -/
theorem direct_of_ready (b : Builder) (ready : b.last = none) :
    (direct context b).1 = b.source.assembly context := by
  obtain ⟨source, last, work⟩ := b
  cases ready
  have turn : Phase.expected none = some .start := rfl
  unfold direct FlowSource.assembly
  rcases delivered : source context with e | ⟨program, attributes⟩
  · have started : start context (Builder.mk source none work) =
        (.error e, ⟨source, some .start, work⟩) := Builder.start_of_error turn delivered
    simp only [started, delivered]
  · have started : start context (Builder.mk source none work) =
        (.ok (), ⟨source, some .start, some (program, Draft.blank context attributes)⟩) :=
      Builder.start_of_ok turn delivered
    simp only [started, delivered]
    obtain ⟨d, done, filled⟩ | ⟨e, done, filled⟩ :=
      fillAll_of_turn source program (.blank context attributes) filling_in_turn
    · rw [done, filled]
      exact congrArg Prod.fst (Builder.getFlow_of_turn rfl)
    · rw [done]
      split
      · rename_i failed
        rw [failed] at filled
        cases filled
        rfl
      · rename_i passed
        rw [passed] at filled
        cases filled

theorem assemble_eq (b : Builder) :
    assemble context b = ((direct context b).1, Builder.new b.source) := by
  have kept : (direct context b).2.source = b.source := source_direct b
  unfold assemble
  rw [← kept]
  rcases direct context b with ⟨_ | _, b'⟩ <;> rfl

theorem assemble_of_ready (b : Builder) (ready : b.last = none) :
    assemble context b = (b.source.assembly context, Builder.new b.source) := by
  rw [assemble_eq, direct_of_ready b ready]

end FlowBuilder

theorem assembleFlow_eq (source : FlowSource) (context : BuildContext) :
    assembleFlow source context = source.assembly context :=
  congrArg Prod.fst (FlowBuilder.assemble_of_ready (Builder.new source) rfl)

/-- A flow is assembled if there is something to build from, no phase fails and the flow is
closed. -/
theorem assembleFlow_eq_ok_iff {source : FlowSource} {context : BuildContext} {f : Flow} :
    assembleFlow source context = .ok f ↔ ∃ program attributes d,
      source context = .ok (program, attributes) ∧
      Program.complete program Phase.filling (Draft.blank context attributes) = .ok d ∧
      d.flow.Closed ∧ d.flow = f := by
  rw [assembleFlow_eq, FlowSource.assembly]
  constructor
  · intro ok
    split at ok
    · cases ok
    · rename_i program attributes delivered
      split at ok
      · cases ok
      · rename_i d done
        obtain ⟨u, passed, handed⟩ := of_map_eq_ok ok
        exact ⟨program, attributes, d, delivered, done, Flow.validate_eq_ok_iff.mp passed, handed⟩
  · rintro ⟨program, attributes, d, delivered, done, closed, rfl⟩
    have passed : d.flow.validate = .ok () := Flow.validate_eq_ok_iff.mpr closed
    simp only [delivered, done, passed]
    rfl

end Parley
