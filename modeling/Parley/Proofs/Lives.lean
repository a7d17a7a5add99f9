import Mathlib.Logic.Function.Iterate
import Parley.Proofs.Frames

/-!
# Parley.Proofs.Lives

The life of an execution: it is created and called, and between calls it may be stored and had back.
All that is written down meanwhile, call after call, is its ledger.

* `Execution.Lives`: the execution, how often it was stored, and its ledger so far.
* `Rests`: what lies below a session is what was there when the session began, and it has been
  covered ever since.
* `Execution.Lives.grounded`: so it is for every session that there is, and for each that has
  ended, when it did.
-/

namespace Parley

/-! ## Frames -/

namespace Session

/-- The session without its flow. -/
def frame {φ : Type} (s : Session φ) : Session Unit := s.map fun _ => ()

/-- The frame as it comes back from its written form. -/
def reread (s : Session Unit) : Session Unit :=
  { s with scope := s.scope.reread, viewScope := s.viewScope.reread }

theorem frame_map {φ ψ : Type} (f : φ → ψ) (s : Session φ) : (s.map f).frame = s.frame := rfl

theorem frame_rereadSession (s : Session String) :
    (Snapshot.rereadSession s).frame = s.frame.reread := rfl

end Session

def Execution.frames (x : Execution) : List (Session Unit) := x.sessions.map Session.frame

/-- The frames that a context shows. -/
def Context.frames (c : Context) : List (Session Unit) := c.sessions.map Session.frame

theorem Request.frames_context (r : Request) : r.context.frames = r.execution.frames := by
  simp [Context.frames, Execution.frames, context, Function.comp_def, Session.frame_map]

/-- The frames that were shown when the entry was written, if listeners were told. -/
def Entry.frames? : Entry → Option (List (Session Unit))
  | .notice _ context => some context.frames
  | _ => none

/-- The later frames are the earlier ones, written down and read back so many times at most. Each
time a number can become another one. -/
def Rewritten (times : Nat) (earlier later : List (Session Unit)) : Prop :=
  ∃ n ≤ times, later = (List.map Session.reread)^[n] earlier

namespace Rewritten

variable {times : Nat} {earlier later : List (Session Unit)}

theorem refl (times : Nat) (frames : List (Session Unit)) : Rewritten times frames frames :=
  ⟨0, Nat.zero_le times, rfl⟩

theorem more (h : Rewritten times earlier later) : Rewritten (times + 1) earlier later := by
  obtain ⟨n, most, e⟩ := h
  exact ⟨n, Nat.le_succ_of_le most, e⟩

theorem reread (h : Rewritten times earlier later) :
    Rewritten (times + 1) earlier (later.map Session.reread) := by
  obtain ⟨n, most, rfl⟩ := h
  exact ⟨n + 1, Nat.succ_le_succ most, (Function.iterate_succ_apply' _ n earlier).symm⟩

end Rewritten

/-! ## What sessions rest on -/

/-- The frames are what was shown just before some session began, and ever since something was on
top of them. -/
def Rests (stored : Nat) (ledger : List Entry) (frames : List (Session Unit)) : Prop :=
  ∃ earlier flow input shown later,
    ledger = earlier ++ .notice (.sessionStarting flow input) shown :: later ∧
      Rewritten stored shown.frames frames ∧
      ∀ seen ∈ later.filterMap Entry.frames?, ∃ above below, above ≠ [] ∧ seen = above ++ below ∧
        Rewritten stored shown.frames below

/-- In memory: the frames are exactly what was shown just before some session began, and ever since
something was on top of them and they were the same. -/
def Stands (ledger : List Entry) (frames : List (Session Unit)) : Prop :=
  ∃ earlier flow input shown later,
    ledger = earlier ++ .notice (.sessionStarting flow input) shown :: later ∧
      shown.frames = frames ∧
      ∀ seen ∈ later.filterMap Entry.frames?, ∃ above, above ≠ [] ∧ seen = above ++ frames

/-- What lies below each of the frames is what was there when it began. -/
def Grounded (stored : Nat) (ledger : List Entry) : List (Session Unit) → Prop
  | [] => True
  | _ :: below => Rests stored ledger below ∧ Grounded stored ledger below

variable {stored : Nat} {ledger : List Entry} {frames : List (Session Unit)}

namespace Rests

/-- What was never stored was never reread. -/
theorem stands (h : Rests stored ledger frames) (kept : stored = 0) : Stands ledger frames := by
  obtain ⟨earlier, flow, input, shown, later, e, ⟨n, most, now⟩, since⟩ := h
  obtain rfl : n = 0 := by omega
  obtain rfl : frames = shown.frames := now
  refine ⟨earlier, flow, input, shown, later, e, rfl, fun seen mem => ?_⟩
  obtain ⟨above, below, some, rfl, m, most', still⟩ := since seen mem
  obtain rfl : m = 0 := by omega
  obtain rfl : below = shown.frames := still
  exact ⟨above, some, rfl⟩

theorem extend (h : Rests stored ledger frames) {entries : List Entry}
    (covered : ∀ seen ∈ entries.filterMap Entry.frames?, ∃ above, above ≠ [] ∧
      seen = above ++ frames) : Rests stored (ledger ++ entries) frames := by
  obtain ⟨earlier, flow, input, shown, later, rfl, same, since⟩ := h
  refine ⟨earlier, flow, input, shown, later ++ entries, by simp, same, fun seen mem => ?_⟩
  rw [List.filterMap_append, List.mem_append] at mem
  rcases mem with mem | mem
  · exact since seen mem
  · obtain ⟨above, some, e⟩ := covered seen mem
    exact ⟨above, frames, some, e, same⟩

/-- A session is about to begin. -/
theorem begin (stored : Nat) (ledger : List Entry) (flow : String) (input : Attributes)
    (shown : Context) :
    Rests stored (ledger ++ [.notice (.sessionStarting flow input) shown]) shown.frames :=
  ⟨ledger, flow, input, shown, [], rfl, .refl stored shown.frames, nofun⟩

theorem more (h : Rests stored ledger frames) : Rests (stored + 1) ledger frames := by
  obtain ⟨earlier, flow, input, shown, later, e, same, since⟩ := h
  refine ⟨earlier, flow, input, shown, later, e, same.more, fun seen mem => ?_⟩
  obtain ⟨above, below, some, split, still⟩ := since seen mem
  exact ⟨above, below, some, split, still.more⟩

theorem reread (h : Rests stored ledger frames) :
    Rests (stored + 1) ledger (frames.map Session.reread) := by
  obtain ⟨earlier, flow, input, shown, later, e, same, since⟩ := h
  refine ⟨earlier, flow, input, shown, later, e, same.reread, fun seen mem => ?_⟩
  obtain ⟨above, below, some, split, still⟩ := since seen mem
  exact ⟨above, below, some, split, still.more⟩

end Rests

namespace Grounded

theorem extend (h : Grounded stored ledger frames) {entries : List Entry}
    (covered : ∀ seen ∈ entries.filterMap Entry.frames?, ∃ above, seen = above ++ frames) :
    Grounded stored (ledger ++ entries) frames := by
  induction frames with
  | nil => trivial
  | cons frame below ih =>
    refine ⟨h.1.extend fun seen mem => ?_, ih h.2 fun seen mem => ?_⟩
    all_goals
      obtain ⟨above, rfl⟩ := covered seen mem
      exact ⟨above ++ [frame], by simp⟩

theorem tail (h : Grounded stored ledger frames) : Grounded stored ledger frames.tail := by
  cases frames with
  | nil => trivial
  | cons frame below => exact h.2

/-- Nothing rests on the innermost session. -/
theorem updateSession {r : Request} (h : Grounded stored ledger r.execution.frames)
    (f : Session Flow → Session Flow) :
    Grounded stored ledger (r.updateSession f).execution.frames := by
  unfold Request.updateSession
  split
  · exact h
  · rename_i s rest stack
    rw [Execution.frames, stack] at h
    exact h

theorem absorb {r : Request} (h : Grounded stored ledger r.execution.frames) (c : Context) :
    Grounded stored ledger (r.absorb c).execution.frames := by
  unfold Request.absorb Request.adopt Request.absorbSessions Execution.frames
  unfold Execution.frames at h
  cases stack : r.execution.sessions with
  | nil => trivial
  | cons s rest =>
    rw [stack] at h
    cases c.session? <;> exact h

theorem reread (h : Grounded stored ledger frames) :
    Grounded (stored + 1) ledger (frames.map Session.reread) := by
  induction frames with
  | nil => trivial
  | cons frame below ih => exact ⟨h.1.reread, ih h.2⟩

end Grounded

/-- Every session that there is rests on what was there when it began, and so did every session that
has ended and left others behind, when it had just gone. -/
structure Founded (stored : Nat) (ledger : List Entry) (frames : List (Session Unit)) : Prop where
  now : Grounded stored ledger frames
  once : ∀ {earlier later flow output shown},
    ledger = earlier ++ .notice (.sessionEnded flow output) shown :: later →
      shown.frames ≠ [] → Rests stored earlier shown.frames

/-- An entry of a whole list is in front or in what was added. -/
theorem append_eq_append_cons {α : Type} {whole entries earlier later : List α} {a : α}
    (e : whole ++ entries = earlier ++ a :: later) :
    (∃ later', whole = earlier ++ a :: later') ∨
      ∃ front, earlier = whole ++ front ∧ entries = front ++ a :: later := by
  obtain ⟨front, split, back⟩ | ⟨rest, split, back⟩ := List.append_eq_append_iff.mp e
  · exact .inr ⟨front, split, back⟩
  · cases rest with
    | nil => exact .inr ⟨[], by simpa using split.symm, back.symm⟩
    | cons b rest =>
      cases back
      exact .inl ⟨rest, split⟩

namespace Founded

variable {r : Request}

/-- Nothing was written down about the end of a session. -/
theorem extend (h : Founded stored ledger frames) {entries : List Entry}
    {frames' : List (Session Unit)} (now : Grounded stored (ledger ++ entries) frames')
    (goes : ∀ flow output shown, .notice (.sessionEnded flow output) shown ∉ entries) :
    Founded stored (ledger ++ entries) frames' := by
  refine ⟨now, fun {_ _ flow output shown} e below => ?_⟩
  obtain ⟨later, whole⟩ | ⟨front, -, there⟩ := append_eq_append_cons e
  · exact h.once whole below
  · exact (goes flow output shown (by simp [there])).elim

/-- What is written down is no occurrence. -/
theorem silent (h : Founded stored (ledger ++ r.journal) r.execution.frames) {entries : List Entry}
    {frames' : List (Session Unit)}
    (now : Grounded stored (ledger ++ r.journal) frames')
    (unsaid : ∀ hook shown, .notice hook shown ∉ entries) :
    Founded stored (ledger ++ (r.journal ++ entries)) frames' := by
  rw [← List.append_assoc]
  refine h.extend (now.extend fun seen mem => ?_) fun flow output => unsaid _
  obtain ⟨entry, there, shown⟩ := List.mem_filterMap.mp mem
  cases entry with
  | notice hook context => exact (unsaid hook context there).elim
  | _ => cases shown

theorem updateSession (h : Founded stored (ledger ++ r.journal) r.execution.frames)
    (f : Session Flow → Session Flow) :
    Founded stored (ledger ++ (r.updateSession f).journal)
      (r.updateSession f).execution.frames := by
  have journal : (r.updateSession f).journal = r.journal := by
    obtain ⟨sessions, e⟩ := r.updateSession_eq f
    rw [e]
  rw [journal]
  exact ⟨h.now.updateSession f, h.once⟩

/-- The stack is shown as it is. -/
theorem told (h : Founded stored (ledger ++ r.journal) r.execution.frames) (hook : Hook)
    (goesOn : ∀ flow output, hook ≠ .sessionEnded flow output) :
    Founded stored (ledger ++ (r.told hook).journal) (r.told hook).execution.frames := by
  have journal : (r.told hook).journal = r.journal ++ [.notice hook r.context] := rfl
  rw [journal, ← List.append_assoc]
  refine h.extend (h.now.extend fun seen mem => ?_) fun flow output shown mem => ?_
  · cases List.mem_singleton.mp mem
    exact ⟨[], r.frames_context⟩
  · cases List.mem_singleton.mp mem
    exact goesOn flow output rfl

end Founded

/-! ## Changes -/

theorem Touch.founded {r r' : Request} (h : Touch r r')
    (founded : Founded stored (ledger ++ r.journal) r.execution.frames) :
    Founded stored (ledger ++ r'.journal) r'.execution.frames := by
  cases h with
  | noticed hook inner =>
    refine founded.told hook fun flow output same => ?_
    rw [same] at inner
    cases inner
  | absorbed c => exact founded.silent (founded.now.absorb c) (by simp)
  | session f => exact founded.updateSession f
  | taken t => exact founded.silent founded.now (by simp)
  | fired t => exact founded.silent founded.now (by simp)
  | exited => exact founded.silent founded.now (by simp)
  | _ => exact founded

theorem Change.founded {r r' : Request} (h : Change r r')
    (founded : Founded stored (ledger ++ r.journal) r.execution.frames) :
    Founded stored (ledger ++ r'.journal) r'.execution.frames := by
  cases h with
  | touched h => exact h.founded founded
  | entered state => exact founded.updateSession _
  | begun flow input =>
    have told := founded.told (.sessionStarting flow.id input) nofun
    refine ⟨⟨?_, told.now⟩, told.once⟩
    have rests := Rests.begin stored (ledger ++ r.journal) flow.id input r.context
    rwa [List.append_assoc, r.frames_context] at rests
  | left flow output =>
    have frames : r.dropSession.execution.frames = r.execution.frames.tail := List.map_tail
    have shown : r.dropSession.context.frames = r.execution.frames.tail :=
      r.dropSession.frames_context.trans frames
    have journal : (r.dropSession.told (.sessionEnded flow.id output)).journal =
        r.journal ++ [.notice (.sessionEnded flow.id output) r.dropSession.context] := rfl
    have below : Grounded stored (ledger ++ r.journal) r.dropSession.execution.frames := by
      rw [frames]
      exact founded.now.tail
    rw [journal, ← List.append_assoc]
    refine ⟨below.extend fun seen mem => ?_, fun e some => ?_⟩
    · cases List.mem_singleton.mp mem
      exact ⟨[], r.dropSession.frames_context⟩
    obtain ⟨later, whole⟩ | ⟨front, rfl, last⟩ := append_eq_append_cons e
    · exact founded.once whole some
    · cases front with
      | nil =>
        cases last
        rw [shown] at some ⊢
        rw [List.append_nil]
        have grounded := founded.now
        cases stack : r.execution.frames with
        | nil => exact (some (by rw [stack]; rfl)).elim
        | cons frame below =>
          rw [stack] at grounded
          exact grounded.1
      | cons entry front => simp at last
  | ended o => exact founded

theorem Call.founded {x : Execution} (c : Call) (h : Founded stored ledger x.frames) :
    Founded stored (ledger ++ (c.answer x).journal) (c.answer x).execution.frames := by
  obtain ⟨reason, refused⟩ | ⟨-, external, directory, r, changes, execution, journal⟩ := c.changes x
  · rw [refused]
    simpa [Execution.refuse] using h
  · have begun : Founded stored (ledger ++ []) x.frames := by rwa [List.append_nil]
    rw [execution, journal]
    exact changes.preserve (P := fun r => Founded stored (ledger ++ r.journal) r.execution.frames)
      (fun change => change.founded) begun

/-! ## Lives -/

namespace Execution

/-- An execution, how often it was stored so far, and all that was written down since it was
created. It may be stored at any time, and had back with whatever flows there are then. -/
inductive Lives : Nat → Execution → List Entry → Prop where
  | created (flow : Flow) (listeners : List Listener) : Lives 0 (create flow listeners) []
  | called {stored : Nat} {x : Execution} {ledger : List Entry} (h : Lives stored x ledger)
      (c : Call) (ends : (c.answer x).result ≠ .error .endless) :
      Lives stored (c.answer x).execution (ledger ++ (c.answer x).journal)
  | keyed {stored : Nat} {x : Execution} {ledger : List Entry} (h : Lives stored x ledger)
      (key : Key) : Lives stored (x.withKey key) ledger
  | restored {stored : Nat} {x y : Execution} {ledger : List Entry} (h : Lives stored x ledger)
      {directory : Directory} {listeners : List Listener} {conversation : Attributes} {key : Key}
      (had : restore directory listeners x.snapshot.reread conversation key = .ok y) :
      Lives (stored + 1) y ledger

theorem frames_restore {directory : Directory} {listeners : List Listener} {s : Snapshot}
    {conversation : Attributes} {key : Key} {y : Execution}
    (had : restore directory listeners s conversation key = .ok y) :
    y.frames = s.sessions.map Session.frame := by
  obtain ⟨root, sessions, -, restored, rfl⟩ := restore_eq had
  exact restoreSessions_bare restored

theorem frames_reread_snapshot (x : Execution) :
    x.snapshot.reread.sessions.map Session.frame = x.frames.map Session.reread := by
  simp [Snapshot.reread, snapshot, frames, Function.comp_def, Session.frame_rereadSession,
    Session.frame_map]

theorem Lives.founded {stored : Nat} {x : Execution} {ledger : List Entry}
    (h : Lives stored x ledger) : Founded stored ledger x.frames := by
  induction h with
  | created flow listeners => exact ⟨trivial, by simp⟩
  | called h c ends ih => exact c.founded ih
  | keyed h key ih => exact ih
  | restored h had ih =>
    rw [frames_restore had, frames_reread_snapshot]
    exact ⟨ih.now.reread, fun e below => (ih.once e below).more⟩

end Execution

end Parley

