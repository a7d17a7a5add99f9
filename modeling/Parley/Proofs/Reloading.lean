import Mathlib.Data.List.Nodup
import Parley.Registry.Holder

/-!
# Parley.Proofs.Reloading

A holder that refreshes on change, and a file that is edited around it: before and after its work,
and also in the middle of it, between one answer of the disk and the next.

The holder remembers the time of change that it was told before it read the content, and only after
all has gone well. So the time that it remembers may be older than what it keeps, never younger, and
with times that never come twice this is enough (`Watch.Sound`): where the time remembered is that
of the file, what is kept is what the file says.

* `Watch.sound_after`: this is so after any lookups, refreshes and edits.
* `Watch.lookup_undisturbed`: what a lookup gives that no edit falls into.
-/

namespace Parley

/-- A file as one edit left it. -/
structure Version where
  stamp : Stamp
  content : Except BuildError String

namespace Version

/-- What the last of some edits leaves of a file. -/
def edited (file : Version) (edits : List Version) : Version := edits.getLast?.getD file

/-- The answers about a file on which some edits fall before the time of change is taken for the
load, and some between this and the reading. -/
def probe (file : Version) (checking loading : List Version) : Probe where
  checked := some file.stamp
  loaded := some (file.edited checking).stamp
  content := (file.edited (checking ++ loading)).content

@[simp] theorem edited_nil (file : Version) : file.edited [] = file := rfl

theorem edited_append (file : Version) (earlier later : List Version) :
    file.edited (earlier ++ later) = (file.edited earlier).edited later := by
  rcases List.eq_nil_or_concat later with rfl | ⟨rest, last, rfl⟩
  · simp
  · simp [edited, ← List.append_assoc]

theorem stamp_edited_mem {file : Version} {used : List Stamp} (known : file.stamp ∈ used)
    (edits : List Version) : (file.edited edits).stamp ∈ used ++ edits.map stamp := by
  unfold edited
  rcases last : edits.getLast? with _ | version
  · exact List.mem_append_left _ known
  · exact List.mem_append_right _ (List.mem_map_of_mem (List.mem_of_getLast? last))

/-- An edit takes the file to a time that was never there. -/
theorem stamp_edited_notMem {file : Version} {used : List Stamp} {edits : List Version}
    (fresh : (used ++ edits.map stamp).Nodup) (some_edit : edits ≠ []) :
    (file.edited edits).stamp ∉ used := by
  intro old
  have new : (file.edited edits).stamp ∈ edits.map stamp := by
    simp only [edited, List.getLast?_eq_getLast_of_ne_nil some_edit, Option.getD_some]
    exact List.mem_map_of_mem (List.getLast_mem some_edit)
  exact List.disjoint_of_nodup_append fresh old new

end Version

/-- What happens around a holder. The edits that fall into a lookup or a refresh come with it: those
before the time of change is taken for the load, and those between this and the reading. -/
inductive Happening where
  | edit (version : Version)
  | lookup (checking loading : List Version)
  | refresh (loading : List Version)

def Happening.edits : Happening → List Version
  | edit version => [version]
  | lookup checking loading => checking ++ loading
  | refresh loading => loading

/-- A file and a holder over it; `next` is the number for the next edition. -/
structure Watch where
  file : Version
  holder : FileHolder
  next : Nat

namespace Watch

/-- A holder that may refresh on change and has not been asked yet. -/
def new (path : String) (context : BuildContext) (file : Version) : Watch :=
  ⟨file, .new path context true, 0⟩

/-- An attempt at a new edition. -/
def attempt (checking loading : List Version) (w : Watch) : Except LocateError Edition × Watch :=
  let (result, holder) := w.holder.assemble (w.file.probe checking loading) w.next
  (result, ⟨w.file.edited (checking ++ loading), holder, w.next + 1⟩)

def lookup (checking loading : List Version) (w : Watch) : Except LocateError Edition × Watch :=
  let (result, holder) := w.holder.get (w.file.probe checking loading) w.next
  (result, ⟨w.file.edited (checking ++ loading), holder, w.next + 1⟩)

/-- Nothing is checked before a refresh. -/
def refresh (loading : List Version) (w : Watch) : Except LocateError Edition × Watch :=
  w.attempt [] loading

def step (w : Watch) : Happening → Watch
  | .edit version => { w with file := version }
  | .lookup checking loading => (w.lookup checking loading).2
  | .refresh loading => (w.refresh loading).2

def after (happenings : List Happening) (w : Watch) : Watch := happenings.foldl step w

/-- The assembly of a content by a holder, or the error that the holder makes of its failure. -/
def assembly (h : FileHolder) (content : Except BuildError String) : Except LocateError Flow :=
  (assembleFlow (.ofModel (FlowModel.ofFile h.path content)) h.context).mapError
    (.assembly h.context.flowId)

/-- The assembly of what the file says now. -/
def current (w : Watch) : Except LocateError Flow := assembly w.holder w.file.content

/-- What a holder for `context` over the file at `path` keeps to, where `used` are the times that
the file had so far. -/
structure Sound (path : String) (context : BuildContext) (used : List Stamp) (w : Watch) :
    Prop where
  path_eq : w.holder.path = path
  context_eq : w.holder.context = context
  watchful : w.holder.refreshOnChange = true
  stamp_mem : w.file.stamp ∈ used
  seen_mem : ∀ stamp, w.holder.seen = some stamp → stamp ∈ used
  /-- What is kept is what the file says, unless the file has another time. -/
  kept_current : w.holder.seen = some w.file.stamp →
    ∃ edition, w.holder.kept = some edition ∧ w.current = .ok edition.flow
  number_lt : ∀ edition, w.holder.kept = some edition → edition.number < w.next

variable {path : String} {context : BuildContext} {used : List Stamp} {w : Watch}

/-! ### One step -/

/-- An attempt gives the assembly of the content that was read. Where it fails, the holder is as it
was. -/
theorem attempt_cases (checking loading : List Version) (w : Watch) :
    (∃ flow, assembly w.holder (w.file.edited (checking ++ loading)).content = .ok flow ∧
      w.attempt checking loading = (.ok ⟨flow, w.next⟩,
        ⟨w.file.edited (checking ++ loading),
          { w.holder with
            kept := some ⟨flow, w.next⟩, seen := some (w.file.edited checking).stamp },
          w.next + 1⟩)) ∨
    ∃ e, assembly w.holder (w.file.edited (checking ++ loading)).content = .error e ∧
      w.attempt checking loading = (.error e,
        ⟨w.file.edited (checking ++ loading), w.holder, w.next + 1⟩) := by
  unfold attempt FileHolder.assemble
  rcases loaded : w.holder.load (w.file.probe checking loading) with e | flow
  · refine .inr ⟨.assembly w.holder.context.flowId e, ?_, rfl⟩
    exact congrArg (Except.mapError _) loaded
  · refine .inl ⟨flow, ?_, rfl⟩
    exact congrArg (Except.mapError _) loaded

theorem hasChanged_probe (h : FileHolder) (file : Version) (checking loading : List Version) :
    h.hasChanged (file.probe checking loading) = true ↔ h.seen ≠ some file.stamp := by
  unfold FileHolder.hasChanged
  rcases h.seen with _ | stamp
  · exact iff_of_true rfl nofun
  · show decide (file.stamp ≠ stamp) = true ↔ some stamp ≠ some file.stamp
    rw [decide_eq_true_iff, Ne, Ne, Option.some.injEq, eq_comm]

/-- A lookup gives what is kept, where the time remembered is that of the file, or it makes an
attempt. -/
theorem lookup_cases (watchful : w.holder.refreshOnChange = true)
    (checking loading : List Version) :
    (∃ edition, w.holder.kept = some edition ∧ w.holder.seen = some w.file.stamp ∧
      w.lookup checking loading =
        (.ok edition, ⟨w.file.edited (checking ++ loading), w.holder, w.next + 1⟩)) ∨
    (w.holder.kept = none ∨ w.holder.seen ≠ some w.file.stamp) ∧
      w.lookup checking loading = w.attempt checking loading := by
  rcases kept : w.holder.kept with _ | edition
  · refine .inr ⟨.inl rfl, ?_⟩
    simp only [lookup, attempt, FileHolder.get, kept]
  · rcases changed : w.holder.hasChanged (w.file.probe checking loading) with _ | _
    · have seen : w.holder.seen = some w.file.stamp := by
        by_contra unseen
        rw [(hasChanged_probe ..).2 unseen] at changed
        cases changed
      refine .inl ⟨edition, rfl, seen, ?_⟩
      simp only [lookup, FileHolder.get, kept, changed, Bool.and_false]
      rfl
    · refine .inr ⟨.inr ((hasChanged_probe ..).1 changed), ?_⟩
      simp only [lookup, attempt, FileHolder.get, kept, watchful, changed, Bool.and_self, if_true]

/-! ### Any number of steps -/

theorem sound_new (path : String) (context : BuildContext) (file : Version) :
    Sound path context [file.stamp] (new path context file) where
  path_eq := rfl
  context_eq := rfl
  watchful := rfl
  stamp_mem := List.mem_singleton_self _
  seen_mem := nofun
  kept_current := nofun
  number_lt := nofun

namespace Sound

/-- Edits to times that the file never had, with nothing done by the holder. -/
theorem edited (sound : Sound path context used w) (edits : List Version) {next : Nat}
    (fresh : (used ++ edits.map Version.stamp).Nodup) (later : w.next ≤ next) :
    Sound path context (used ++ edits.map Version.stamp)
      ⟨w.file.edited edits, w.holder, next⟩ where
  path_eq := sound.path_eq
  context_eq := sound.context_eq
  watchful := sound.watchful
  stamp_mem := Version.stamp_edited_mem sound.stamp_mem edits
  seen_mem stamp seen := List.mem_append_left _ (sound.seen_mem stamp seen)
  kept_current seen := by
    rcases eq_or_ne edits [] with rfl | some_edit
    · exact sound.kept_current seen
    · exact absurd (sound.seen_mem _ seen) (Version.stamp_edited_notMem fresh some_edit)
  number_lt edition kept := Nat.lt_of_lt_of_le (sound.number_lt edition kept) later

/-- An attempt leaves the holder as it was, or what it keeps then is what it has read last. -/
theorem attempt (sound : Sound path context used w) (checking loading : List Version)
    (fresh : (used ++ (checking ++ loading).map Version.stamp).Nodup) :
    Sound path context (used ++ (checking ++ loading).map Version.stamp)
      (w.attempt checking loading).2 := by
  obtain ⟨flow, good, attempted⟩ | ⟨e, -, attempted⟩ := attempt_cases checking loading w
  · rw [attempted]
    -- What was read last is what the file says now, however old the time that goes with it.
    refine
      { path_eq := sound.path_eq, context_eq := sound.context_eq, watchful := sound.watchful,
        stamp_mem := Version.stamp_edited_mem sound.stamp_mem _, seen_mem := ?_,
        kept_current := fun _ => ⟨_, rfl, good⟩, number_lt := ?_ }
    · rintro stamp seen
      obtain rfl := Option.some.inj seen
      have known := Version.stamp_edited_mem sound.stamp_mem checking
      rw [List.map_append, ← List.append_assoc]
      exact List.mem_append_left _ known
    · rintro edition kept
      obtain rfl := Option.some.inj kept
      exact Nat.lt_succ_self _
  · rw [attempted]
    exact sound.edited _ fresh (Nat.le_succ _)

theorem lookup (sound : Sound path context used w) (checking loading : List Version)
    (fresh : (used ++ (checking ++ loading).map Version.stamp).Nodup) :
    Sound path context (used ++ (checking ++ loading).map Version.stamp)
      (w.lookup checking loading).2 := by
  obtain ⟨edition, -, -, looked⟩ | ⟨-, looked⟩ :=
    lookup_cases sound.watchful checking loading
  · rw [looked]
    exact sound.edited _ fresh (Nat.le_succ _)
  · rw [looked]
    exact sound.attempt checking loading fresh

theorem step (sound : Sound path context used w) (happening : Happening)
    (fresh : (used ++ happening.edits.map Version.stamp).Nodup) :
    Sound path context (used ++ happening.edits.map Version.stamp) (w.step happening) := by
  cases happening with
  | edit version => exact sound.edited [version] fresh (Nat.le_refl _)
  | lookup checking loading => exact sound.lookup checking loading fresh
  | refresh loading => exact sound.attempt [] loading fresh

theorem after (sound : Sound path context used w) (happenings : List Happening)
    (fresh : (used ++ (happenings.flatMap Happening.edits).map Version.stamp).Nodup) :
    Sound path context (used ++ (happenings.flatMap Happening.edits).map Version.stamp)
      (w.after happenings) := by
  induction happenings generalizing used w with
  | nil => simpa [Watch.after] using sound
  | cons happening rest ih =>
    rw [List.flatMap_cons, List.map_append, ← List.append_assoc] at fresh ⊢
    exact ih (sound.step happening (List.Nodup.of_append_left fresh)) fresh

/-- A lookup that no edit falls into gives the assembly of what the file says. -/
theorem lookup_flow (sound : Sound path context used w) :
    (w.lookup [] []).1.map Edition.flow = w.current := by
  obtain ⟨edition, kept, seen, looked⟩ | ⟨-, looked⟩ := lookup_cases sound.watchful [] []
  · obtain ⟨edition', kept', good⟩ := sound.kept_current seen
    obtain rfl := Option.some.inj (kept.symm.trans kept')
    rw [looked]
    exact good.symm
  · rw [looked]
    obtain ⟨flow, good, attempted⟩ | ⟨e, bad, attempted⟩ := attempt_cases [] [] w
    · rw [attempted]
      exact good.symm
    · rw [attempted]
      exact bad.symm

end Sound

/-! ### Repeated lookups -/

/-- Some lookups in a row that no edit falls into. -/
def repeated (n : Nat) : List Happening := List.replicate n (.lookup [] [])

theorem edits_repeated (n : Nat) : (repeated n).flatMap Happening.edits = [] := by
  simp [repeated, Happening.edits]

theorem file_step (w : Watch) (happening : Happening) :
    (w.step happening).file = w.file.edited happening.edits := by
  cases happening <;> rfl

theorem file_after (w : Watch) (happenings : List Happening) :
    (w.after happenings).file = w.file.edited (happenings.flatMap Happening.edits) := by
  induction happenings generalizing w with
  | nil => rfl
  | cons happening rest ih =>
    rw [List.flatMap_cons, Version.edited_append, ← file_step]
    exact ih _

/-- Once the time remembered is that of the file, lookups give what is kept and leave the holder as
it is. -/
theorem lookup_kept (watchful : w.holder.refreshOnChange = true) {edition : Edition}
    (kept : w.holder.kept = some edition) (seen : w.holder.seen = some w.file.stamp)
    (checking loading : List Version) :
    w.lookup checking loading =
      (.ok edition, ⟨w.file.edited (checking ++ loading), w.holder, w.next + 1⟩) := by
  obtain ⟨edition', kept', -, looked⟩ | ⟨none_kept | unseen, -⟩ :=
    lookup_cases watchful checking loading
  · obtain rfl := Option.some.inj (kept.symm.trans kept')
    exact looked
  · exact absurd (kept.symm.trans none_kept) nofun
  · exact absurd seen unseen

/-- So it is after a lookup that gave something and that no edit fell into. -/
theorem settled_of_lookup_ok (watchful : w.holder.refreshOnChange = true) {edition : Edition}
    (looked : (w.lookup [] []).1 = .ok edition) :
    ∃ holder, holder.refreshOnChange = true ∧ holder.kept = some edition ∧
      holder.seen = some w.file.stamp ∧ (w.lookup [] []).2 = ⟨w.file, holder, w.next + 1⟩ := by
  obtain ⟨edition', kept, seen, same⟩ | ⟨-, same⟩ := lookup_cases watchful [] []
  · rw [same] at looked ⊢
    obtain rfl := Except.ok.inj looked
    exact ⟨_, watchful, kept, seen, rfl⟩
  · rw [same] at looked ⊢
    obtain ⟨flow, -, attempted⟩ | ⟨e, -, attempted⟩ := attempt_cases [] [] w
    · rw [attempted] at looked ⊢
      obtain rfl := Except.ok.inj looked
      refine ⟨_, ?_, ?_, ?_, rfl⟩
      exacts [watchful, rfl, rfl]
    · rw [attempted] at looked
      cases looked

theorem after_repeated_kept (n : Nat) {file : Version} {holder : FileHolder} {next : Nat}
    (watchful : holder.refreshOnChange = true) {edition : Edition}
    (kept : holder.kept = some edition) (seen : holder.seen = some file.stamp) :
    (Watch.mk file holder next).after (repeated n) = ⟨file, holder, next + n⟩ := by
  induction n generalizing next with
  | zero => rfl
  | succ n ih =>
    have once : (Watch.mk file holder next).step (.lookup [] []) = ⟨file, holder, next + 1⟩ :=
      congrArg Prod.snd (lookup_kept (w := ⟨file, holder, next⟩) watchful kept seen [] [])
    calc (Watch.mk file holder next).after (repeated (n + 1))
        = ((Watch.mk file holder next).step (.lookup [] [])).after (repeated n) := rfl
      _ = ⟨file, holder, next + 1 + n⟩ := by rw [once, ih]
      _ = ⟨file, holder, next + (n + 1)⟩ := by rw [Nat.add_right_comm, Nat.add_assoc]

/-! ### Failures -/

theorem holder_of_attempt_error {checking loading : List Version} {e : LocateError}
    (failed : (w.attempt checking loading).1 = .error e) :
    (w.attempt checking loading).2.holder = w.holder := by
  obtain ⟨flow, -, attempted⟩ | ⟨e, -, attempted⟩ := attempt_cases checking loading w
  · rw [attempted] at failed
    cases failed
  · rw [attempted]

theorem holder_of_lookup_error (watchful : w.holder.refreshOnChange = true)
    {checking loading : List Version} {e : LocateError}
    (failed : (w.lookup checking loading).1 = .error e) :
    (w.lookup checking loading).2.holder = w.holder := by
  obtain ⟨edition, -, -, looked⟩ | ⟨-, looked⟩ := lookup_cases watchful checking loading
  · rw [looked]
  · rw [looked] at failed ⊢
    exact holder_of_attempt_error failed

/-! ### All together -/

theorem sound_after (path : String) (context : BuildContext) (file : Version)
    (happenings : List Happening)
    (fresh : ((file :: happenings.flatMap Happening.edits).map Version.stamp).Nodup) :
    Sound path context ((file :: happenings.flatMap Happening.edits).map Version.stamp)
      ((new path context file).after happenings) :=
  (sound_new path context file).after happenings fresh

/-- **What is looked up is never stale.** After any lookups, refreshes and edits, wherever the edits
fall, as long as each takes the file to a time that it never had: lookups that no edit falls into
give the assembly of what the file says, or the error of its assembly, however often they are made.
A lookup or refresh that fails changes nothing of what is kept, whatever edits fall into it. And
what such a lookup has given, all further ones give as well, one with edits in it included. -/
theorem lookup_undisturbed (path : String) (context : BuildContext) (file : Version)
    (happenings : List Happening)
    (fresh : ((file :: happenings.flatMap Happening.edits).map Version.stamp).Nodup) :
    let w := (new path context file).after happenings
    let content := (file.edited (happenings.flatMap Happening.edits)).content
    (∀ n, ((w.after (repeated n)).lookup [] []).1.map Edition.flow =
      (assembleFlow (.ofModel (FlowModel.ofFile path content)) context).mapError
        (.assembly context.flowId)) ∧
    (∀ checking loading e, (w.lookup checking loading).1 = .error e →
      (w.lookup checking loading).2.holder.kept = w.holder.kept) ∧
    (∀ loading e, (w.refresh loading).1 = .error e →
      (w.refresh loading).2.holder.kept = w.holder.kept) ∧
    (∀ edition, (w.lookup [] []).1 = .ok edition → ∀ n checking loading,
      ((w.after (repeated (n + 1))).lookup checking loading).1 = .ok edition) ∧
    (∀ edition, w.holder.kept = some edition → edition.number < w.next) := by
  intro w content
  have sound := sound_after path context file happenings fresh
  refine ⟨fun n => ?_, fun checking loading e failed => ?_, fun loading e failed => ?_,
    fun edition looked n checking loading => ?_, sound.number_lt⟩
  · have sound' := sound.after (repeated n) (by rw [edits_repeated]; simpa using fresh)
    rw [sound'.lookup_flow, current, assembly, sound'.path_eq, sound'.context_eq, file_after,
      edits_repeated, file_after]
    rfl
  · rw [holder_of_lookup_error sound.watchful failed]
  · rw [refresh, holder_of_attempt_error failed]
  · obtain ⟨holder, watchful, kept, seen, left⟩ := settled_of_lookup_ok sound.watchful looked
    have settled : w.after (repeated (n + 1)) = ⟨w.file, holder, w.next + 1 + n⟩ :=
      calc w.after (repeated (n + 1)) = (w.lookup [] []).2.after (repeated n) := rfl
        _ = ⟨w.file, holder, w.next + 1 + n⟩ := by
          rw [left, after_repeated_kept n watchful kept seen]
    rw [settled, lookup_kept watchful kept seen]

/-- The file of a flow in which one can only arrive. -/
def arrival : String :=
  "\x7b\"start_state\": \"there\", \"states\": [\x7b\"id\": \"there\", \"type\": \"end\"\x7d]\x7d"

/-- A file that was broken, mended while it was looked up, broken again before it was read, and
mended for good. -/
theorem lookup_mended :
    let broken : Except BuildError String := .ok "there"
    let happenings : List Happening :=
      [.lookup [] [], .edit ⟨2, broken⟩, .lookup [] [], .lookup [⟨3, .ok arrival⟩] [⟨4, broken⟩],
        .refresh [], .edit ⟨5, .ok arrival⟩]
    let context : BuildContext := ⟨"arrival", .empty, .ofActions []⟩
    let w := (new "arrival.json" context ⟨1, .ok arrival⟩).after happenings
    ((⟨1, .ok arrival⟩ :: happenings.flatMap Happening.edits).map Version.stamp).Nodup ∧
    ∀ n, (((w.after (repeated n)).lookup [] []).1.map Edition.flow).toOption.map Flow.id =
      some "arrival" := by
  intro broken happenings context w
  have fresh :
      ((⟨1, .ok arrival⟩ :: happenings.flatMap Happening.edits).map Version.stamp).Nodup := by
    decide
  obtain ⟨gives, -⟩ :=
    lookup_undisturbed "arrival.json" context ⟨1, .ok arrival⟩ happenings fresh
  refine ⟨fresh, fun n => ?_⟩
  rw [gives n]
  decide +kernel

end Watch

end Parley
