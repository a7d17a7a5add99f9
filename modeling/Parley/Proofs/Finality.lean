import Parley.Proofs.Fate

/-!
# Parley.Proofs.Finality

Conversations that have ended. A conversation is gone with its last request, and only a new
conversation under the same id could bring it back: executions and keys that somebody still holds
cannot (`Store.Closed`), and what others do in the meantime does not (`Deed.absent_runAll`).

* `ended_stays_closed`: once a conversation has ended, it is closed for good, if no id is given
  twice.
-/

namespace Parley

/-- Something done with the store: a request from outside to some executor, or one operation. -/
inductive Deed where
  | visit (e : Executor) (v : Visit)
  | operation (op : Operation)

namespace Deed

def run : Deed → Store → Store
  | visit e v, s => (v.reply e s).store
  | operation op, s => op.run s

/-- The id under which a conversation would begin. -/
def fresh? : Deed → Option ConversationId
  | visit _ v => v.fresh?
  | operation op => op.fresh?

def runAll (deeds : List Deed) (s : Store) : Store := deeds.foldl (fun s d => d.run s) s

/-- The deed brings the conversation to its end: it is resumed for the last time, or its execution
is removed. -/
inductive Ends (s : Store) : Deed → ConversationId → Prop where
  | resumed {e : Executor} {clock : Clock} {fresh : ConversationId} {text : String} {key : Key}
      {event : Option Event} {external : External} {flow : String} {outcome : Outcome}
      (named : Key.ofText text = .ok key)
      (ended : (e.resume clock fresh text event external s).result = .ok (.ended flow outcome)) :
      Ends s (visit e (.resume clock fresh text event external)) key.conversation
  | removed {x : Execution} {key : Key} (given : x.key = some key)
      (ok : (s.remove x).1 = .ok ()) : Ends s (operation (.remove x)) key.conversation

variable {s : Store} {id : ConversationId} {d : Deed}

theorem run_eq (d : Deed) (s : Store) :
    ∃ ops, d.run s = Parley.runAll ops s ∧ ∀ op ∈ ops, op.fresh? = none ∨ op.fresh? = d.fresh? := by
  cases d with
  | visit e v => exact v.reply_run e s
  | operation op =>
    refine ⟨[op], rfl, fun other mem => ?_⟩
    rw [List.mem_singleton.mp mem]
    exact .inr rfl

theorem proper_run (h : s.Proper) (d : Deed) : (d.run s).Proper := by
  obtain ⟨ops, run, -⟩ := d.run_eq s
  rw [run]
  exact h.runAll ops

theorem absent_run (h : s.Proper) (gone : s.conversation? id = none) (other : d.fresh? ≠ some id) :
    (d.run s).conversation? id = none := by
  obtain ⟨ops, run, fresh⟩ := d.run_eq s
  rw [run]
  refine Store.absent_runAll h gone fun op mem => ?_
  rcases fresh op mem with none | same
  · rw [none]
    exact nofun
  · rw [same]
    exact other

theorem proper_runAll {deeds : List Deed} (h : s.Proper) : (runAll deeds s).Proper := by
  induction deeds generalizing s with
  | nil => exact h
  | cons d rest ih => exact ih (proper_run h d)

/-- What is not there stays away as long as nothing begins under its id, by induction on what is
done. -/
theorem absent_runAll {deeds : List Deed} (h : s.Proper) (gone : s.conversation? id = none)
    (other : id ∉ deeds.filterMap fresh?) : (runAll deeds s).conversation? id = none := by
  induction deeds generalizing s with
  | nil => exact gone
  | cons d rest ih =>
    have here : d.fresh? ≠ some id := fun same => other
      (List.mem_filterMap.mpr ⟨d, List.mem_cons_self, same⟩)
    have later : id ∉ rest.filterMap fresh? := by
      intro mem
      obtain ⟨d', mem, same⟩ := List.mem_filterMap.mp mem
      exact other (List.mem_filterMap.mpr ⟨d', List.mem_cons_of_mem _ mem, same⟩)
    exact ih (proper_run h d) (absent_run h gone here) later

/-- The conversation was there, and then it is not. -/
theorem Ends.absent (ends : d.Ends s id) :
    s.conversation? id ≠ none ∧ (d.run s).conversation? id = none := by
  cases ends with
  | resumed named ended =>
    unfold run Visit.reply
    simp only [Executor.resume, named] at ended ⊢
    obtain ⟨c, x, found, -, -, ⟨-, gone⟩ | ⟨waits, -⟩⟩ := Executor.resumeKey_ok ended
    · exact ⟨by simp [found], gone⟩
    · cases waits
  | @removed x key given ok =>
    cases found : s.conversation? key.conversation with
    | none => simp [Store.remove, given, found] at ok
    | some c =>
      refine ⟨Option.some_ne_none c, ?_⟩
      simp [run, Operation.run, Store.remove_found given found]

end Deed

/-- Whoever comes with a key of the conversation, or with an execution of it, is told that there is
no such execution. -/
structure Store.Closed (s : Store) (id : ConversationId) : Prop where
  lookup : ∀ now key, key.conversation = id →
    (s.getLock now key).1 = .error (.noSuchFlowExecution key)
  load : ∀ directory listeners now key, key.conversation = id →
    (s.get directory listeners now key).1 = .error (.noSuchFlowExecution key)
  store : ∀ now fresh x key, x.key = some key → key.conversation = id →
    (s.put now fresh x).1 = .error (.noSuchFlowExecution key)
  resume : ∀ (e : Executor) clock fresh text event external key, Key.ofText text = .ok key →
    key.conversation = id → (e.resume clock fresh text event external s).result =
      .error (.repository (.noSuchFlowExecution key))

theorem Store.closed_of_absent {s : Store} {id : ConversationId}
    (gone : s.conversation? id = none) : s.Closed id where
  lookup now key here := by
    subst here
    simp [getLock, checkLive, gone]
  load directory listeners now key here := by
    subst here
    simp [get, find, checkLive, gone]
  store now fresh x key given here := by
    subst here
    rw [put_gone given gone]
  resume e clock fresh text event external key named here := by
    subst here
    simp [Executor.resume, named, Executor.resumeKey, getLock, checkLive, gone]

/-- **A conversation that has ended never comes back**, whatever is done before it ends and after,
by whomever and with whatever keys and executions, if no id is given to two conversations. -/
theorem ended_stays_closed (settings : StoreSettings) (before after : List Deed) (last : Deed)
    (id : ConversationId) (ends : last.Ends (Deed.runAll before (.empty settings)) id)
    (distinct : ((before ++ last :: after).filterMap Deed.fresh?).Nodup) :
    (Deed.runAll (before ++ last :: after) (.empty settings)).Closed id := by
  have proper : (Deed.runAll before (.empty settings)).Proper :=
    Deed.proper_runAll (Store.empty_proper settings)
  obtain ⟨there, gone⟩ := ends.absent
  -- The conversation once began, so its id is spent.
  have spent : id ∈ before.filterMap Deed.fresh? := by
    refine Decidable.byContradiction fun unspent => ?_
    exact there (Deed.absent_runAll (Store.empty_proper settings) rfl unspent)
  have unused : id ∉ after.filterMap Deed.fresh? := by
    intro again
    obtain ⟨d, mem, same⟩ := List.mem_filterMap.mp again
    have later : id ∈ (last :: after).filterMap Deed.fresh? :=
      List.mem_filterMap.mpr ⟨d, List.mem_cons_of_mem _ mem, same⟩
    rw [List.filterMap_append] at distinct
    exact (List.nodup_append.mp distinct).2.2 id spent id later rfl
  have away := Deed.absent_runAll (Deed.proper_run proper last) gone unused
  have run : Deed.runAll (before ++ last :: after) (.empty settings) =
      Deed.runAll after (last.run (Deed.runAll before (.empty settings))) := by
    simp [Deed.runAll]
  rw [run]
  exact Store.closed_of_absent away

/-! ## A stored execution outlives its conversation -/

/-- A flow that an event brings to its end. -/
def farewell : Flow :=
  { Flow.blank "farewell" .empty with
    start := some "here"
    states := [
      .waiting "here" [⟨.event "go", [], some (.fixed "over"), .preserve, .empty⟩],
      ⟨"over", [], [], [], .empty, .final ⟨none, none⟩⟩] }

def parting : Visit := .resume (Clock.still 5) 2 (Key.mk 1 1).text (some (.named "go")) caller

/-- Before the end somebody has loaded the execution under the same owner, and stores it then. -/
theorem stale_execution_stays_out :
    let e := Executor.only farewell
    let before : List Deed := [.visit e (.launch 0 1 "farewell" .empty caller),
      .operation (.acquire 1 caller.requestId), .operation (.get e.directory [] 3 ⟨1, 1⟩)]
    let after : List Deed := [
      .operation (.put 6 3 ((Execution.create farewell []).withKey ⟨1, 1⟩)),
      .visit e (.launch 7 4 "farewell" .empty caller)]
    (Deed.visit e parting).Ends (Deed.runAll before (.empty .default)) 1 ∧
      (Deed.runAll (before ++ .visit e parting :: after) (.empty .default)).Closed 1 := by
  intro e before after
  have named : Key.ofText (Key.mk 1 1).text = .ok ⟨1, 1⟩ := rfl
  have unpaused : (parting.reply e (Deed.runAll before (.empty .default))).result.toOption.map
      ExecutionResult.isPaused = some false := by decide +kernel
  have ends : (Deed.visit e parting).Ends (Deed.runAll before (.empty .default)) 1 := by
    rcases ended : (parting.reply e (Deed.runAll before (.empty .default))).result with _ | result
    · simp [ended, Except.toOption] at unpaused
    cases result with
    | paused =>
      simp [ended, Except.toOption, ExecutionResult.isPaused, ExecutionResult.key?]
        at unpaused
    | ended flow outcome => exact .resumed named ended
  exact ⟨ends, ended_stays_closed _ before after _ 1 ends (by decide)⟩

end Parley
