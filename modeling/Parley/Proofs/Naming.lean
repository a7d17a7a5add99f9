import Mathlib.Algebra.Group.Nat.Defs
import Mathlib.Data.List.Nodup
import Parley.Proofs.Fate
import Parley.Proofs.History
import Parley.Proofs.Success

/-!
# Parley.Proofs.Naming

What keys name. A conversation numbers its snapshots one after the other from 1, so as long as the
numbers do not run out no key is given twice, and what is found under a key is always what was
stored when the key was given.

* `InOrder`: a record of a conversation against all that was stored in it. Whatever becomes of the
  record, it stays in order (`InOrder.fate`).
* `keys_name_snapshots`: keys are distinct, kept snapshots are in order, and what is found twice
  under a key is the same both times, but for the conversation scope.
-/

namespace Parley

/-- The first keys of a conversation. -/
def firstKeys (id : ConversationId) (n : Nat) : List Key :=
  (List.range n).map fun i => ⟨id, BitVec.ofNat 32 (i + 1)⟩

theorem firstKeys_succ (id : ConversationId) (n : Nat) :
    firstKeys id (n + 1) = firstKeys id n ++ [⟨id, BitVec.ofNat 32 (n + 1)⟩] := by
  simp [firstKeys, List.range_succ]

/-- How a conversation keeps what was stored in it under a key. -/
def keptAs (e : Key × Execution) : BitVec 32 × Snapshot := (e.1.snapshot, e.2.snapshot)

/-- What was stored in a conversation has its first keys. If the conversation is there, its next
number is the one after those, it has kept some of the snapshots, and its scope is the last. -/
structure InOrder (id : ConversationId) (mine : List (Key × Execution)) (r : Option Conversation) :
    Prop where
  keys : mine.map Prod.fst = firstKeys id mine.length
  next : ∀ c, r = some c → c.next = BitVec.ofNat 32 (mine.length + 1)
  snapshots : ∀ c, r = some c → c.snapshots.Sublist (mine.map keptAs)
  scope : ∀ c, r = some c → mine.getLast?.map (fun e => e.2.conversation) = some c.scope

/-- What was stored in one conversation. -/
def storedIn (id : ConversationId) (log : List (Key × Execution)) : List (Key × Execution) :=
  log.filter fun e => e.1.conversation = id

theorem newest_sublist (limit : Nat) (snapshots : List (BitVec 32 × Snapshot)) :
    (Conversation.newest limit snapshots).Sublist snapshots := by
  unfold Conversation.newest
  split
  · exact .refl _
  · exact List.drop_sublist _ _

theorem pruned_sublist (history : History) (resumed : BitVec 32)
    (snapshots : List (BitVec 32 × Snapshot)) :
    (Conversation.pruned history resumed snapshots).Sublist snapshots := by
  cases history with
  | preserve => exact .refl _
  | discard => exact List.filter_sublist
  | invalidate => exact List.nil_sublist _

theorem storedIn_append (id : ConversationId) (log more : List (Key × Execution)) :
    storedIn id (log ++ more) = storedIn id log ++ storedIn id more := List.filter_append ..

theorem storedIn_elsewhere {id : ConversationId} {stored : Option (Key × Execution)}
    (elsewhere : ∀ key x, stored = some (key, x) → key.conversation ≠ id) :
    storedIn id stored.toList = [] := by
  cases stored with
  | none => rfl
  | some e =>
    have other : e.1.conversation ≠ id := elsewhere e.1 e.2 rfl
    simp [storedIn, other]

namespace InOrder

variable {id : ConversationId} {mine : List (Key × Execution)} {c : Conversation} {x : Execution}

theorem empty (id : ConversationId) : InOrder id [] none := ⟨rfl, nofun, nofun, nofun⟩

theorem extend {settings : StoreSettings} {number : BitVec 32} (h : InOrder id mine (some c)) :
    InOrder id (mine ++ [(⟨id, c.next⟩, x)]) (some (c.extend settings 0 number x)) := by
  have next : c.next = BitVec.ofNat 32 (mine.length + 1) := h.next c rfl
  have kept : c.snapshots.Sublist (mine.map keptAs) := h.snapshots c rfl
  refine ⟨?_, ?_, ?_, ?_⟩
  · rw [List.map_append, h.keys, List.length_append, List.length_singleton, firstKeys_succ, next]
    rfl
  · intro c' same
    cases same
    simp [Conversation.extend, next, BitVec.ofNat_add]
  · intro c' same
    cases same
    have remaining := (pruned_sublist x.history number c.snapshots).trans kept
    rw [List.map_append]
    exact (newest_sublist _ _).trans (remaining.append_right _)
  · intro c' same
    cases same
    simp [Conversation.extend]

theorem ne_nil (h : InOrder id mine (some c)) : mine ≠ [] := by
  rintro rfl
  exact nomatch h.scope c rfl

theorem begin (now : Time) :
    InOrder id [(⟨id, 1⟩, x)] (some (Conversation.begin now x).timeless) := by
  refine ⟨rfl, ?_, ?_, ?_⟩ <;> intro c' same <;> cases same
  · rfl
  · exact .refl _
  · rfl

/-- Whatever becomes of a record, it stays in order, if nothing was stored in a conversation before
it began. -/
theorem fate {settings : StoreSettings} {stored : Option (Key × Execution)}
    {r r' : Option Conversation} (h : InOrder id mine r) (fate : Store.Fate settings id stored r r')
    (unused : ∀ x, stored = some (⟨id, 1⟩, x) → x.key = none → mine = []) :
    InOrder id (mine ++ storedIn id stored.toList) r' := by
  cases fate with
  | kept elsewhere =>
    rw [storedIn_elsewhere elsewhere, List.append_nil]
    exact h
  | dropped elsewhere =>
    rw [storedIn_elsewhere elsewhere, List.append_nil]
    exact ⟨h.keys, nofun, nofun, nofun⟩
  | extended given here =>
    rw [here]
    simpa [storedIn] using h.extend
  | begun new here =>
    rw [unused _ here new, here]
    simpa [storedIn] using begin _

end InOrder

/-- The keys that storing gave out in the course of the operations, each with what was stored. -/
def issued : List Operation → Store → List (Key × Execution)
  | [], _ => []
  | op :: rest, s => (op.stored? s).toList ++ issued rest (op.run s)

theorem issued_append (ops more : List Operation) (s : Store) :
    issued (ops ++ more) s = issued ops s ++ issued more (runAll ops s) := by
  induction ops generalizing s with
  | nil => rfl
  | cons op rest ih => simp [issued, runAll, ih]

/-- The store is in order with what was stored so far, `spent` being the ids under which
conversations have begun. -/
structure Records (log : List (Key × Execution)) (spent : List ConversationId) (s : Store) :
    Prop where
  proper : s.Proper
  inOrder : ∀ id, InOrder id (storedIn id log) (s.record? id)
  spent : ∀ id, storedIn id log ≠ [] → id ∈ spent

namespace Records

variable {log : List (Key × Execution)} {spent : List ConversationId} {s : Store}

theorem empty (settings : StoreSettings) : Records [] [] (.empty settings) :=
  ⟨Store.empty_proper settings, InOrder.empty, fun _ some => absurd rfl some⟩

/-- What is stored is stored in a conversation that has begun before, or begins now. -/
theorem spent_run (h : Records log spent s) (op : Operation) (id : ConversationId)
    (stores : storedIn id (op.stored? s).toList ≠ []) :
    storedIn id log ≠ [] ∨ op.fresh? = some id := by
  have fate := Store.run_fate h.proper op id
  have before := h.inOrder id
  generalize s.record? id = r at fate before
  generalize (op.run s).record? id = r' at fate
  cases fate with
  | kept elsewhere | dropped elsewhere => exact absurd (storedIn_elsewhere elsewhere) stores
  | extended given here => exact .inl before.ne_nil
  | begun new here => exact .inr (Store.fresh?_of_stored? here new)

theorem run (h : Records log spent s) (op : Operation)
    (unspent : ∀ id, op.fresh? = some id → id ∉ spent) :
    Records (log ++ (op.stored? s).toList) (spent ++ op.fresh?.toList) (op.run s) := by
  refine ⟨h.proper.run op, fun id => ?_, fun id stores => ?_⟩
  · rw [storedIn_append]
    refine (h.inOrder id).fate (Store.run_fate h.proper op id) fun x here new => ?_
    have fresh : op.fresh? = some id := Store.fresh?_of_stored? here new
    refine Decidable.byContradiction fun used => ?_
    exact unspent id fresh (h.spent id used)
  · rw [storedIn_append] at stores
    have known : storedIn id log ≠ [] ∨ op.fresh? = some id := by
      by_cases used : storedIn id log = []
      · rw [used, List.nil_append] at stores
        exact h.spent_run op id stores
      · exact .inl used
    rcases known with used | fresh
    · exact List.mem_append_left _ (h.spent id used)
    · exact List.mem_append_right _ (by simp [fresh])

/-- However many operations, by induction on them. -/
theorem runAll {ops : List Operation} (h : Records log spent s)
    (distinct : (spent ++ ops.filterMap Operation.fresh?).Nodup) :
    Records (log ++ issued ops s) (spent ++ ops.filterMap Operation.fresh?)
      (Parley.runAll ops s) := by
  induction ops generalizing log spent s with
  | nil => simpa [issued, Parley.runAll] using h
  | cons op rest ih =>
    have split : spent ++ (op :: rest).filterMap Operation.fresh? =
        spent ++ op.fresh?.toList ++ rest.filterMap Operation.fresh? := by
      cases fresh : op.fresh? <;> simp [fresh]
    rw [split] at distinct ⊢
    have unspent : ∀ id, op.fresh? = some id → id ∉ spent := by
      intro id fresh used
      rw [fresh] at distinct
      have apart := (List.nodup_append.mp (List.nodup_append.mp distinct).1).2.2
      exact apart id used id (by simp) rfl
    have later := ih (h.run op unspent) distinct
    rw [List.append_assoc] at later
    exact later

end Records

/-! ## While the numbers last -/

theorem firstKeys_increasing (id : ConversationId) {n : Nat} (bound : n < 2 ^ 32 - 1) :
    ((firstKeys id n).map Key.snapshot).Pairwise (· < ·) := by
  rw [firstKeys, List.map_map, List.pairwise_map]
  refine List.pairwise_lt_range.imp_of_mem fun {i j} _ mem lt => ?_
  have last := List.mem_range.mp mem
  simp only [Function.comp_apply, BitVec.lt_def, BitVec.toNat_ofNat]
  omega

theorem InOrder.increasing {id : ConversationId} {mine : List (Key × Execution)} {c : Conversation}
    (h : InOrder id mine (some c)) (bound : mine.length < 2 ^ 32 - 1) :
    (Conversation.numbers c.snapshots).Pairwise (· < ·) ∧
      ∀ number ∈ Conversation.numbers c.snapshots, number < c.next := by
  have kept : (Conversation.numbers c.snapshots).Sublist
      ((firstKeys id mine.length).map Key.snapshot) := by
    have kept := (h.snapshots c rfl).map Prod.fst
    rw [← h.keys, List.map_map]
    rwa [List.map_map] at kept
  refine ⟨(firstKeys_increasing id bound).sublist kept, fun number mem => ?_⟩
  obtain ⟨key, given, rfl⟩ := List.mem_map.mp (kept.subset mem)
  obtain ⟨i, early, rfl⟩ := List.mem_map.mp given
  have last := List.mem_range.mp early
  rw [h.next c rfl]
  simp only [BitVec.lt_def, BitVec.toNat_ofNat]
  omega

theorem nodup_of_storedIn {log : List (Key × Execution)}
    (each : ∀ id, ((storedIn id log).map Prod.fst).Nodup) : (log.map Prod.fst).Nodup := by
  induction log with
  | nil => exact .nil
  | cons e rest ih =>
    refine List.nodup_cons.mpr ⟨fun again => ?_, ih fun id => ?_⟩
    · obtain ⟨e', mem, same⟩ := List.mem_map.mp again
      have here : storedIn e.1.conversation (e :: rest) = e :: storedIn e.1.conversation rest := by
        simp [storedIn]
      have once := each e.1.conversation
      rw [here] at once
      have here : e'.1.conversation = e.1.conversation := congrArg Key.conversation same
      have kept : e' ∈ storedIn e.1.conversation rest := by simp [storedIn, mem, here]
      exact (List.nodup_cons.mp once).1 (List.mem_map.mpr ⟨e', kept, same⟩)
    · have fewer : (storedIn id rest).Sublist (storedIn id (e :: rest)) :=
        (List.sublist_cons_self e rest).filter _
      exact (each id).sublist (fewer.map Prod.fst)

namespace Records

variable {log : List (Key × Execution)} {spent : List ConversationId} {s : Store}

theorem nodup_keys (h : Records log spent s)
    (bound : ∀ id, (storedIn id log).length < 2 ^ 32 - 1) : (log.map Prod.fst).Nodup := by
  refine nodup_of_storedIn fun id => ?_
  have increasing := firstKeys_increasing id (bound id)
  rw [← (h.inOrder id).keys] at increasing
  have apart : (((storedIn id log).map Prod.fst).map Key.snapshot).Nodup :=
    increasing.imp fun lt => BitVec.ne_of_lt lt
  exact apart.of_map _

theorem stored_of_snapshot? {key : Key} {c : Conversation} {snapshot : Snapshot}
    (h : Records log spent s) (found : s.record? key.conversation = some c)
    (held : c.snapshot? key.snapshot = some snapshot) :
    ∃ y, (key, y) ∈ log ∧ y.snapshot = snapshot := by
  have order := h.inOrder key.conversation
  rw [found] at order
  obtain ⟨e, kept, rfl⟩ := Option.map_eq_some_iff.mp held
  have number : e.1 = key.snapshot := by simpa using List.find?_some kept
  obtain ⟨⟨key', y⟩, stored, rfl⟩ :=
    List.mem_map.mp ((order.snapshots c rfl).subset (List.mem_of_find?_eq_some kept))
  obtain ⟨mem, here⟩ := List.mem_filter.mp stored
  have same : key' = key := by
    cases key
    cases key'
    simp_all [keptAs]
  exact ⟨y, same ▸ mem, rfl⟩

/-- What is loaded under a key is what was stored when the key was given, in the scope that the last
execution left. -/
theorem stored_of_get {directory : Directory} {listeners : List Listener} {now : Time} {key : Key}
    {x : Execution} (h : Records log spent s)
    (loaded : (s.get directory listeners now key).1 = .ok x) :
    (storedIn key.conversation log).getLast?.map (fun e => e.2.conversation) =
        some x.conversation ∧
      ∃ y, (key, y) ∈ log ∧
        Execution.restore directory listeners y.snapshot.reread x.conversation key = .ok x := by
  obtain ⟨c, found, -, restored, -⟩ := Store.get_ok (Prod.ext loaded rfl)
  have scope : x.conversation = c.scope := (Conversation.execution?_ok restored).2
  obtain ⟨snapshot, held, revived⟩ := Option.map_eq_some_iff.mp restored
  have record : s.record? key.conversation = some c.timeless := by simp [Store.record?, found]
  obtain ⟨y, stored, rfl⟩ := h.stored_of_snapshot? record held
  have order := h.inOrder key.conversation
  rw [record] at order
  rw [scope]
  exact ⟨order.scope c.timeless rfl, y, stored, Execution.revive_ok revived⟩

end Records

/-! ## What comes back -/

/-- Executions that came from the same snapshot, whatever became of the flows in the meantime. -/
structure Execution.Alike (x y : Execution) : Prop where
  status : x.status = y.status
  sessions : x.sessions.map (Session.map fun _ => ()) = y.sessions.map (Session.map fun _ => ())
  flash : x.flash = y.flash

namespace Execution

variable {directory : Directory} {listeners listeners' : List Listener}
  {snapshot : Snapshot} {scope scope' : Attributes} {key : Key} {x y : Execution}

/-- The execution is the one that was stored, as its snapshot reads. -/
theorem restore_alike {directory' : Directory}
    (hx : restore directory listeners snapshot scope key = .ok x)
    (hy : restore directory' listeners' snapshot scope' key = .ok y) : x.Alike y := by
  obtain ⟨_, sessions, -, restored, rfl⟩ := restore_eq hx
  obtain ⟨_, sessions', -, restored', rfl⟩ := restore_eq hy
  have bare := restoreSessions_bare restored
  have bare' := restoreSessions_bare restored'
  exact ⟨rfl, bare.trans bare'.symm, rfl⟩

theorem restore_same_flows (hx : restore directory listeners snapshot scope key = .ok x)
    (hy : restore directory listeners' snapshot scope' key = .ok y) :
    x.flow = y.flow ∧ x.sessions = y.sessions := by
  obtain ⟨root, sessions, had, restored, rfl⟩ := restore_eq hx
  obtain ⟨root', sessions', had', restored', rfl⟩ := restore_eq hy
  obtain rfl : root = root' := Except.ok.inj (had.symm.trans had')
  exact ⟨rfl, Except.ok.inj (restored.symm.trans restored')⟩

end Execution

/-- The scope that the last of the executions left behind that were stored in the conversation. -/
def lastScope (id : ConversationId) (log : List (Key × Execution)) : Option Attributes :=
  (storedIn id log).getLast?.map fun e => e.2.conversation

/-- **A key names one snapshot forever.** In any course of operations, as long as no id is given to
two conversations and no conversation runs out of numbers: no key is given out twice; every
conversation has its snapshots in the order of their numbers, all of them below the next one; and
what is loaded under a key at two times is alike, in the scope that was last left. -/
theorem keys_name_snapshots (settings : StoreSettings) (ops : List Operation)
    (distinct : (ops.filterMap Operation.fresh?).Nodup)
    (bound : ∀ id, (storedIn id (issued ops (.empty settings))).length < 2 ^ 32 - 1) :
    ((issued ops (.empty settings)).map Prod.fst).Nodup ∧
      (∀ id c, (runAll ops (.empty settings)).conversation? id = some c →
        (Conversation.numbers c.snapshots).Pairwise (· < ·) ∧
          ∀ number ∈ Conversation.numbers c.snapshots, number < c.next) ∧
      ∀ before after, ops = before ++ after → ∀ directory directory' listeners listeners' now now',
        ∀ key x y,
          ((runAll before (.empty settings)).get directory listeners now key).1 = .ok x →
          ((runAll ops (.empty settings)).get directory' listeners' now' key).1 = .ok y →
          x.Alike y ∧ (directory = directory' → x.flow = y.flow ∧ x.sessions = y.sessions) ∧
            lastScope key.conversation (issued before (.empty settings)) = some x.conversation ∧
            lastScope key.conversation (issued ops (.empty settings)) = some y.conversation := by
  have records : Records (issued ops (.empty settings)) (ops.filterMap Operation.fresh?)
      (runAll ops (.empty settings)) := (Records.empty settings).runAll distinct
  have once := records.nodup_keys bound
  refine ⟨once, fun id c found => ?_, ?_⟩
  · have order := records.inOrder id
    rw [Store.record?, found] at order
    exact order.increasing (bound id)
  · intro before after split directory directory' listeners listeners' now now' key x y first second
    have early : (before.filterMap Operation.fresh?).Nodup := by
      rw [split, List.filterMap_append] at distinct
      exact (List.nodup_append.mp distinct).1
    have earlyRecords := (Records.empty settings).runAll early
    obtain ⟨scope, u, given, hx⟩ := earlyRecords.stored_of_get first
    obtain ⟨scope', v, given', hy⟩ := records.stored_of_get second
    -- The key was given out once, so both were stored when it was.
    have earlier : issued before (.empty settings) ⊆ issued ops (.empty settings) := by
      rw [split, issued_append]
      exact List.subset_append_left _ _
    have same : (key, u) = (key, v) :=
      List.inj_on_of_nodup_map once (earlier given) given' rfl
    cases same
    refine ⟨Execution.restore_alike hx hy, fun flows => ?_, scope, scope'⟩
    rw [← flows] at hy
    exact Execution.restore_same_flows hx hy

/-! ## Back to where it began -/

/-- An execution that waits in its first view. -/
def waiter : Execution :=
  { Execution.create silent [] with
    status := .active, sessions := [⟨silent, some "wait", .paused, .empty, .empty⟩] }

/-- The execution is stored, and what is loaded under its first key is stored twice after that. -/
def firstPut : List Operation := [.put 0 1 waiter]

def laterPuts : List Operation :=
  [.put 5 2 (waiter.withKey ⟨1, 1⟩), .put 6 3 (waiter.withKey ⟨1, 1⟩)]

theorem first_key_loads_first_snapshot : ∃ x y,
    ((runAll firstPut (.empty .default)).get (Executor.only silent).directory [] 3
        ⟨1, 1⟩).1 = .ok x ∧
      ((runAll (firstPut ++ laterPuts) (.empty .default)).get (Executor.only silent).directory [] 8
        ⟨1, 1⟩).1 = .ok y ∧
      (issued (firstPut ++ laterPuts) (.empty .default)).map Prod.fst = [⟨1, 1⟩, ⟨1, 2⟩, ⟨1, 3⟩] ∧
      x.Alike y := by
  have keys : (issued (firstPut ++ laterPuts) (.empty .default)).map Prod.fst =
      [⟨1, 1⟩, ⟨1, 2⟩, ⟨1, 3⟩] := by decide +kernel
  have three : (issued (firstPut ++ laterPuts) (.empty .default)).length = 3 := by
    simpa using congrArg List.length keys
  have bound : ∀ id,
      (storedIn id (issued (firstPut ++ laterPuts) (.empty .default))).length < 2 ^ 32 - 1 := by
    intro id
    have fewer : (storedIn id (issued (firstPut ++ laterPuts) (.empty .default))).length ≤ 3 :=
      three ▸ List.length_filter_le _ _
    omega
  have distinct : ((firstPut ++ laterPuts).filterMap Operation.fresh?).Nodup := by decide
  have loaded : ((runAll firstPut (.empty .default)).get (Executor.only silent).directory [] 3
      ⟨1, 1⟩).1.isOk = true := by decide +kernel
  have reloaded : ((runAll (firstPut ++ laterPuts) (.empty .default)).get
      (Executor.only silent).directory [] 8 ⟨1, 1⟩).1.isOk = true := by decide +kernel
  obtain ⟨x, hx⟩ := exists_of_isOk loaded
  obtain ⟨y, hy⟩ := exists_of_isOk reloaded
  obtain ⟨-, -, same⟩ := keys_name_snapshots .default (firstPut ++ laterPuts) distinct bound
  exact ⟨x, y, hx, hy, keys, (same firstPut laterPuts rfl _ _ _ _ _ _ _ x y hx hy).1⟩

end Parley
